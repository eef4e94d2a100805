/-
# Filters for the log

A filter is a list of rules, separated by commas. For a line the rule with the
longest target counts, of those the one that asks for a field, and of equal ones
the last. A line to which no rule applies does not pass.
-/

import Quiesce.LogFilter.Rule

namespace Quiesce

/-- The rules of a filter in the order in which they were given. -/
structure LogFilter where
  rules : List LogRule
  deriving DecidableEq, Repr

namespace LogFilter

/-- The filter that applies when none is given. -/
def standard : LogFilter :=
  ⟨[.general .info]⟩

/-- The filter that a text writes down. Empty rules are skipped, and a filter
without rules lets errors pass. -/
def ofText? (text : String) : Option LogFilter :=
  match ((text.toList.splitOn ',').filter (!·.isEmpty)).mapM LogRule.ofText? with
  | some [] => some ⟨[.general .error]⟩
  | some rules => some ⟨rules⟩
  | none => none

/-- The rule that takes precedence among rules. -/
def decisive? (rules : List LogRule) : Option LogRule :=
  rules.foldl (fun best rule =>
    match best with
    | some earlier => if rule.overrides earlier then some rule else best
    | none => some rule) none

/-- Whether a line with a target, fields and a verbosity passes. -/
def admits (filter : LogFilter) (target : String) (fields : List String)
    (verbosity : Verbosity) : Bool :=
  match decisive? (filter.rules.filter (LogRule.appliesTo target fields)) with
  | some rule => verbosity.rank ≤ rule.verbosity.rank
  | none => false

end LogFilter

end Quiesce
