/-
# Names in paths

A name stands in a path as one segment, percent-encoded so that nothing in it ends the segment
or the path. It is read back from there as it is, whatever is encoded besides, and the paths of
a proxy and of its standing lead to it.
-/

import Quiesce.Http.Route
import Quiesce.Proofs.Text.Percent

namespace Quiesce.Http

/-- A name is read back from its segment. -/
theorem nameOf?_encode {escaped : Char → Bool} (guarded : escaped '%') (name : String) :
    nameOf? (Percent.encode escaped name.toList) = some name := by
  rw [nameOf?, Percent.decode_encode guarded, String.ofList_toList]
  exact Utf8.decode?_encode name

/-- What a target holds behind its path: a query, or nothing. -/
def queryText : Option String → List Char
  | none => []
  | some query => '?' :: query.toList

/-- A target that begins with a slash is a path up to the character that ends it, if any. -/
theorem pathOf_ofList {path : List Char} (plain : path.all (!endsPath ·)) (query : Option String) :
    pathOf (String.ofList ('/' :: path ++ queryText query)) = '/' :: path := by
  have kept : ('/' :: path ++ queryText query).takeWhile (!endsPath ·) =
      '/' :: path ++ (queryText query).takeWhile (!endsPath ·) :=
    List.takeWhile_append_of_pos (List.forall_mem_cons.mpr ⟨rfl, List.all_eq_true.mp plain⟩)
  have ended : (queryText query).takeWhile (!endsPath ·) = [] := by
    cases query <;> rfl
  rw [ended, List.append_nil] at kept
  simp only [pathOf, String.toList_ofList]
  exact kept

section

variable {escaped : Char → Bool}

/-- The characters of an encoded text end a segment or a path only where the text has such a
character that is left as it is. -/
private theorem plain_of_mem_encode
    (guarded : ∀ d, escaped d = false → d ≠ '/' ∧ endsPath d = false) {c : Char}
    {text : List Char} (mem : c ∈ Percent.encode escaped text) : c ≠ '/' ∧ endsPath c = false := by
  rcases Percent.mem_of_mem_encode mem with ⟨-, unescaped⟩ | mark
  · exact guarded c unescaped
  · exact Percent.of_mem_marks (fun c => c ≠ '/' ∧ endsPath c = false) (by decide) mark

/-- A segment in which slashes are encoded is one segment. -/
theorem slash_not_mem_encode (guarded : ∀ d, escaped d = false → d ≠ '/' ∧ endsPath d = false)
    (text : List Char) : '/' ∉ Percent.encode escaped text := by
  intro mem
  exact (plain_of_mem_encode guarded mem).1 rfl

/-- The path of a target that holds a name's segment, before whatever stands for itself and
whatever query. -/
theorem pathOf_encode (guarded : ∀ d, escaped d = false → d ≠ '/' ∧ endsPath d = false)
    (text after : List Char) (plain : after.all (!endsPath ·)) (query : Option String) :
    let path := "/proxies/".toList ++ Percent.encode escaped text ++ after
    pathOf (String.ofList (path ++ queryText query)) = path := by
  intro path
  have begins : "/proxies/".toList = '/' :: "proxies/".toList := by decide
  have word : "proxies/".toList.all (!endsPath ·) := by decide
  have within : (Percent.encode escaped text).all (!endsPath ·) := by
    apply List.all_eq_true.mpr
    intro c mem
    rw [(plain_of_mem_encode guarded mem).2, Bool.not_false]
  have plainPath : ("proxies/".toList ++ Percent.encode escaped text ++ after).all
      (!endsPath ·) := by
    rw [List.all_append, List.all_append, word, within, plain]
    rfl
  have split : path = '/' :: ("proxies/".toList ++ Percent.encode escaped text ++ after) := by
    simp only [path, begins, List.cons_append]
  rw [split]
  exact pathOf_ofList plainPath query

end

/-- Every name has a segment that nothing in it ends, before whatever stands for itself. -/
theorem exists_pathOf (name : String) (after : List Char) (plain : after.all (!endsPath ·)) :
    ∃ target rawName, pathOf target = "/proxies/".toList ++ rawName ++ after ∧ '/' ∉ rawName ∧
      nameOf? rawName = some name := by
  have guarded : ∀ d : Char, (fun _ : Char => true) d = false → d ≠ '/' ∧ endsPath d = false := by
    intro d unescaped
    cases unescaped
  exact ⟨_, _, pathOf_encode guarded name.toList after plain none,
    slash_not_mem_encode guarded name.toList, nameOf?_encode rfl name⟩

namespace Route

variable {target : String} {rawName : List Char}

/-- A path leads where its segments do. -/
private theorem ofTarget?_eq {segments : List (List Char)}
    (path : pathOf target = ['/'].intercalate segments) (given : segments ≠ [])
    (single : ∀ segment ∈ segments, '/' ∉ segment) :
    ofTarget? target = ofSegments? (segments.map String.ofList) := by
  rw [ofTarget?, path, List.splitOn_intercalate '/' single given]

/-- A segment after that of all proxies leads to one of them. -/
theorem ofTarget?_proxy (path : pathOf target = "/proxies/".toList ++ rawName)
    (given : rawName ≠ []) (single : '/' ∉ rawName) :
    ofTarget? target = some (.proxy rawName) := by
  have joined : "/proxies/".toList ++ rawName =
      ['/'].intercalate [[], "proxies".toList, rawName] := by simp
  rw [ofTarget?_eq (path.trans joined) (List.cons_ne_nil _ _) (by simpa using single)]
  simpa [ofSegments?] using given

/-- The segment after its own leads to its standing. -/
theorem ofTarget?_proxyStanding
    (path : pathOf target = "/proxies/".toList ++ rawName ++ "/state".toList)
    (single : '/' ∉ rawName) : ofTarget? target = some (.proxyStanding rawName) := by
  have joined : "/proxies/".toList ++ rawName ++ "/state".toList =
      ['/'].intercalate [[], "proxies".toList, rawName, "state".toList] := by simp
  rw [ofTarget?_eq (path.trans joined) (List.cons_ne_nil _ _) (by simpa using single)]
  simp [ofSegments?]

end Route

end Quiesce.Http
