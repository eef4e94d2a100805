/-
# What a poll is answered

The answer to a poll is one line of ASCII. From it the load balancer learns whether the proxy is
known and, if so, all that is known of it. `readReply?` reads the line as the load balancer does,
and reads nothing but answers; `replies_read_exactly` says that no two answers look alike, so that a
proxy that is known to be down is told from an unknown one.
-/

import Mathlib.Data.List.TakeWhile
import Quiesce.Proofs.Poll.Lookup
import Quiesce.Proofs.Text.Digits
import Quiesce.Proofs.Text.Unsigned

namespace Quiesce

/-! ## Reading numbers as they are written -/

namespace Digits

/-- A number in digits as they are written: without a sign and without a leading zero. -/
def readShortest32? (text : List Char) : Option UInt32 :=
  ((ofText? text).filter fun digits => digits.isShortest && digits.value < UInt32.size).map
    fun digits => UInt32.ofNat digits.value

/-- A number is read from its decimal notation, and from no other text. -/
theorem readShortest32?_eq_some_iff {text : List Char} {word : UInt32} :
    readShortest32? text = some word ↔ text = (decimal word.toNat).toList := by
  simp only [readShortest32?, Option.map_eq_some_iff, Option.filter_eq_some_iff,
    ofText?_eq_some_iff, Bool.and_eq_true, decide_eq_true_eq, decimal, String.toList_ofList]
  constructor
  · intro read
    obtain ⟨digits, ⟨same, shortest, small⟩, rfl⟩ := read
    rw [UInt32.toNat_ofNat_of_lt' small, ofNat_value shortest, same]
  · intro same
    refine ⟨ofNat word.toNat, ⟨same, isShortest_ofNat _, ?_⟩, ?_⟩
    · rw [value_ofNat]
      exact word.toNat_lt_size
    · rw [value_ofNat, UInt32.ofNat_toNat]

/-- A digit is a character of ASCII that is neither a blank nor part of a line end. -/
theorem plain_of_mem_decimal {n : Nat} {c : Char} (among : c ∈ (decimal n).toList) :
    c.toNat < 128 ∧ c ≠ ' ' ∧ c ≠ '\r' ∧ c ≠ '\n' := by
  rw [decimal, String.toList_ofList, text] at among
  obtain ⟨digit, -, same⟩ := List.mem_map.mp among
  have all : ∀ digit : Fin 10, (digitChar digit).toNat < 128 ∧ digitChar digit ≠ ' ' ∧
      digitChar digit ≠ '\r' ∧ digitChar digit ≠ '\n' := by decide
  rw [← same]
  exact all digit

end Digits

/-! ## Reading answers -/

namespace Poll

/-- The line end of an answer. -/
def lineEnd : List Char :=
  ['\r', '\n']

/-- What follows the mark at the start of an answer that tells a record. -/
def afterMark? (answer : List Char) : Option (List Char) :=
  if "maxconn:".toList <+: answer then some (answer.drop "maxconn:".toList.length) else none

/-- The standing whose name stands between a blank and the line end. -/
def readStanding? (text : List Char) : Option Standing :=
  [Standing.up, .draining, .down].find? fun standing =>
    text = ' ' :: (standing.label.toList ++ lineEnd)

/-- The record that an answer tells. Its capacity stands between the mark and the first blank, and
its standing behind that. -/
def readRecord? (answer : List Char) : Option Record := do
  let behind ← afterMark? answer
  let capacity ← Digits.readShortest32? (behind.takeWhile (· ≠ ' '))
  let standing ← readStanding? (behind.dropWhile (· ≠ ' '))
  return ⟨standing, capacity⟩

/-- What an answer tells: that the proxy is unknown, or its record; `none` when it is no answer
to a poll. -/
def readReply? (answer : String) : Option (Option Record) :=
  if answer = "down\r\n" then some none else (readRecord? answer.toList).map some

theorem afterMark?_eq_some_iff {answer behind : List Char} :
    afterMark? answer = some behind ↔ answer = "maxconn:".toList ++ behind := by
  rw [afterMark?, Option.ite_none_right_eq_some, Option.some.injEq]
  constructor
  · intro marked
    rw [← marked.2, List.prefix_iff_eq_append.mp marked.1]
  · intro same
    rw [same, List.drop_left]
    exact ⟨List.prefix_append _ _, rfl⟩

theorem readStanding?_eq_some_iff {text : List Char} {standing : Standing} :
    readStanding? text = some standing ↔ text = ' ' :: (standing.label.toList ++ lineEnd) := by
  constructor
  · intro read
    rw [readStanding?] at read
    have found := List.find?_some read
    exact of_decide_eq_true found
  · intro same
    rw [same]
    cases standing <;> decide

/-- The characters of the answer for a record. -/
theorem toList_reply (record : Record) :
    (reply (some record)).toList = "maxconn:".toList ++
      ((decimal record.capacity.toNat).toList ++
        ' ' :: (record.standing.label.toList ++ lineEnd)) := by
  simp [reply, lineEnd, toString]

/-- What comes before the first blank and what comes from there on, when there is a blank. -/
private theorem span_blank {before : List Char} (noBlank : ∀ c ∈ before, c ≠ ' ')
    (after : List Char) :
    (before ++ ' ' :: after).takeWhile (· ≠ ' ') = before ∧
      (before ++ ' ' :: after).dropWhile (· ≠ ' ') = ' ' :: after := by
  have within : ∀ c ∈ before, decide (c ≠ ' ') = true := fun c among =>
    decide_eq_true (noBlank c among)
  constructor
  · rw [List.takeWhile_append_of_pos within, List.takeWhile_cons_of_neg (by decide),
      List.append_nil]
  · rw [List.dropWhile_append_of_pos within, List.dropWhile_cons_of_neg (by decide)]

/-- A record is read from the answer that tells it, and from no other text. -/
theorem readRecord?_eq_some_iff {answer : List Char} {record : Record} :
    readRecord? answer = some record ↔ answer = (reply (some record)).toList := by
  rw [toList_reply]
  constructor
  · intro read
    simp only [readRecord?, Option.bind_eq_bind, Option.bind_eq_some_iff, Option.pure_def,
      afterMark?_eq_some_iff, Digits.readShortest32?_eq_some_iff, readStanding?_eq_some_iff,
      Option.some.injEq] at read
    obtain ⟨behind, marked, capacity, isCapacity, standing, isStanding, same⟩ := read
    rw [marked, ← same, ← isCapacity, ← isStanding, List.takeWhile_append_dropWhile]
  · intro same
    obtain ⟨standing, capacity⟩ := record
    have noBlank : ∀ c ∈ (decimal capacity.toNat).toList, c ≠ ' ' := fun c among =>
      (Digits.plain_of_mem_decimal among).2.1
    obtain ⟨before, after⟩ := span_blank noBlank (standing.label.toList ++ lineEnd)
    have marked := afterMark?_eq_some_iff.mpr same
    have isCapacity := Digits.readShortest32?_eq_some_iff.mpr
      (Eq.refl (decimal capacity.toNat).toList)
    have isStanding := readStanding?_eq_some_iff.mpr
      (Eq.refl (' ' :: (standing.label.toList ++ lineEnd)))
    rw [readRecord?, marked]
    simp only [Option.bind_eq_bind, Option.bind_some, before, after, isCapacity, isStanding]
    rfl

/-- An answer is read as what it tells, and no other text is read as an answer. -/
theorem readReply?_eq_some_iff {answer : String} {record : Option Record} :
    readReply? answer = some record ↔ answer = reply record := by
  rw [readReply?]
  cases record with
  | none =>
    constructor
    · intro read
      split at read
      next down => exact down
      next => simp at read
    · intro same
      exact if_pos same
  | some record =>
    split
    next down =>
      constructor
      · intro read
        cases read
      · intro same
        have unknown := reply_eq_down_iff.mp (same.symm.trans down)
        cases unknown
    next =>
      rw [Option.map_eq_some_iff, ← String.toList_inj, ← readRecord?_eq_some_iff]
      simp

/-- A capacity is not written with a leading zero, and so not read with one. -/
example : readReply? "maxconn:010 UP\r\n" = none := by
  decide +kernel

/-- Every answer is one line: it holds characters of ASCII alone, and no part of a line end but the
line end that it ends in. -/
theorem exists_line (record : Option Record) :
    ∃ line : String, reply record = line ++ "\r\n" ∧
      line.toList.all fun c => c.toNat < 128 ∧ c ≠ '\r' ∧ c ≠ '\n' := by
  cases record with
  | none => exact ⟨"down", by decide, by decide⟩
  | some record =>
    have digits : (decimal record.capacity.toNat).toList.all
        fun c => c.toNat < 128 ∧ c ≠ '\r' ∧ c ≠ '\n' := by
      apply List.all_eq_true.mpr
      intro c among
      obtain ⟨ascii, -, inLine⟩ := Digits.plain_of_mem_decimal among
      exact decide_eq_true ⟨ascii, inLine⟩
    have label : record.standing.label.toList.all
        fun c => c.toNat < 128 ∧ c ≠ '\r' ∧ c ≠ '\n' := by
      cases record.standing <;> decide
    refine ⟨s!"maxconn:{decimal record.capacity.toNat} {record.standing.label}", rfl, ?_⟩
    simp only [toString, String.toList_append, List.all_append, digits, label]
    decide

/-- The answers to polls are lines of ASCII, and each tells what it is the answer to: `readReply?`
reads from it exactly the record it tells, or that the proxy is unknown, and reads no text that is
no answer. So no two answers are alike, and a proxy that is known to be down is told from an
unknown one. -/
theorem replies_read_exactly :
    (∀ record, ∃ line : String, reply record = line ++ "\r\n" ∧
      line.toList.all fun c => c.toNat < 128 ∧ c ≠ '\r' ∧ c ≠ '\n') ∧
    (∀ answer record, readReply? answer = some record ↔ answer = reply record) ∧
    (∀ record, readReply? (reply record) = some none ↔ record = none) ∧
    Function.Injective reply ∧
    ∀ capacity, reply (some ⟨.down, capacity⟩) ≠ reply none := by
  have reads (record : Option Record) : readReply? (reply record) = some record :=
    readReply?_eq_some_iff.mpr rfl
  have injective : Function.Injective reply := by
    intro first second same
    apply Option.some.inj
    rw [← reads first, same, reads second]
  refine ⟨exists_line, fun answer record => readReply?_eq_some_iff, fun record => ?_, injective,
    fun capacity same => ?_⟩
  · rw [reads, Option.some.injEq]
  · cases injective same

end Poll

end Quiesce
