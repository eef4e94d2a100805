/-
# Reading finds the value

The reader takes one token after another and keeps what is still open on a stack. One way,
the tokens of a whole value lead it to the value, by induction on the value. The other way,
what it has taken can be told from where it stands: `Reader.taken` spells out the parts read
and the containers around them, and each step adds its token or breaks off, which leaves
something open for good.

`readWhole_eq_iff` joins both to what scanning does: a text is read as a whole value, with
nothing left over, exactly when the grammar spells the value that way.
-/

import Quiesce.Proofs.Json.Scanning

namespace Quiesce.Json

/-! ## Separation -/

/-- Tokens stay separated when something that is no numeral is put between them. -/
private theorem Separated.append_cons {first second : List Token} (left : Separated first)
    {token : Token} (noNumeral : token.isNumeral = false) (right : Separated second) :
    Separated (first ++ token :: second) := by
  refine List.isChain_append.mpr ⟨left, List.isChain_cons.mpr ⟨?_, right⟩, ?_⟩
  · simp [noNumeral]
  · simp [noNumeral]

private theorem Separated.cons {token : Token} (noNumeral : token.isNumeral = false)
    {tokens : List Token} (separated : Separated tokens) : Separated (token :: tokens) :=
  Separated.append_cons List.isChain_nil noNumeral separated

namespace Draft

open Reader (run place)

private theorem separated_itemsTokens {items : List Draft}
    (each : ∀ item ∈ items, Separated item.tokens) : Separated (itemsTokens items) := by
  induction items with
  | nil => exact List.isChain_nil
  | cons item more ih =>
    obtain ⟨first, each⟩ := List.forall_mem_cons.mp each
    cases more with
    | nil => exact first
    | cons second more => exact first.append_cons rfl (ih each)

private theorem separated_membersTokens {members : List (Option String × Draft)}
    (each : ∀ member ∈ members, Separated member.2.tokens) :
    Separated (membersTokens members) := by
  induction members with
  | nil => exact List.isChain_nil
  | cons member more ih =>
    obtain ⟨first, each⟩ := List.forall_mem_cons.mp each
    cases more with
    | nil => exact .cons rfl (.cons rfl first)
    | cons second more => exact .cons rfl (.cons rfl (first.append_cons rfl (ih each)))

/-- No two numerals of a value stand side by side. -/
theorem Whole.separated {draft : Draft} (whole : draft.Whole) : Separated draft.tokens := by
  induction whole with
  | null | boolean | number | string => exact List.isChain_singleton _
  | array _ each =>
    exact .cons rfl ((separated_itemsTokens each).append_cons rfl List.isChain_nil)
  | object _ each =>
    exact .cons rfl ((separated_membersTokens each).append_cons rfl List.isChain_nil)

/-! ## The tokens of a value lead to the value -/

/-- No value starts with the bracket that closes an array, so its first token is taken as
that of an item. -/
private theorem Whole.run_firstItem {item : Draft} (whole : item.Whole) (stack : List Frame)
    (rest : List Token) :
    run (.firstItem stack) (item.tokens ++ rest) =
      run (.value (.items [] :: stack)) (item.tokens ++ rest) := by
  cases whole <;> rfl

/-- A value leads the reader to where it is put. -/
private def LeadsTo (draft : Draft) : Prop :=
  ∀ stack rest, run (.value stack) (draft.tokens ++ rest) = run (place draft stack) rest

section

variable (stack : List Frame) (rest : List Token)

/-- Items lead to the array of all items read, with the bracket after them. -/
private theorem run_itemsTokens (read : List Draft) {item : Draft} {more : List Draft}
    (each : ∀ draft ∈ item :: more, LeadsTo draft) :
    run (.value (.items read :: stack)) (itemsTokens (item :: more) ++ .closeArray :: rest) =
      run (place (.array (read.reverse ++ item :: more) true) stack) rest := by
  induction more generalizing read item with
  | nil =>
    rw [itemsTokens, each item List.mem_cons_self]
    simp [place, run, Reader.advance]
  | cons second more ih =>
    obtain ⟨first, each⟩ := List.forall_mem_cons.mp each
    have commas : itemsTokens (item :: second :: more) ++ .closeArray :: rest =
        item.tokens ++ .comma :: (itemsTokens (second :: more) ++ .closeArray :: rest) := by
      simp [itemsTokens]
    have next := ih (item :: read) each
    rw [commas, first]
    simpa [place, run, Reader.advance] using next

/-- So do members lead to the object. -/
private theorem run_membersTokens (read : List (Option String × Draft))
    {member : Option String × Draft} {more : List (Option String × Draft)}
    (each : ∀ given ∈ member :: more, LeadsTo given.2) :
    run (.nextName read stack) (membersTokens (member :: more) ++ .closeObject :: rest) =
      run (place (.object (read.reverse ++ member :: more) true) stack) rest := by
  induction more generalizing read member with
  | nil =>
    have named : run (.nextName read stack) (membersTokens [member] ++ .closeObject :: rest) =
        run (.value (.members read member.1 :: stack))
          (member.2.tokens ++ .closeObject :: rest) := rfl
    rw [named, each member List.mem_cons_self]
    simp [place, run, Reader.advance]
  | cons second more ih =>
    obtain ⟨first, each⟩ := List.forall_mem_cons.mp each
    have named : run (.nextName read stack)
        (membersTokens (member :: second :: more) ++ .closeObject :: rest) =
          run (.value (.members read member.1 :: stack)) (member.2.tokens ++ .comma ::
            (membersTokens (second :: more) ++ .closeObject :: rest)) := by
      simp [membersTokens, run, Reader.advance]
    have next := ih (member :: read) each
    rw [named, first]
    simpa [place, run, Reader.advance] using next

end

/-- The tokens of a whole value lead the reader to the value. -/
theorem Whole.run_tokens {draft : Draft} (whole : draft.Whole) (stack : List Frame)
    (rest : List Token) :
    run (.value stack) (draft.tokens ++ rest) = run (place draft stack) rest := by
  induction whole generalizing stack rest with
  | null | boolean | number | string => rfl
  | @array items wholes each =>
    have opened : run (.value stack) ((Draft.array items true).tokens ++ rest) =
        run (.firstItem stack) (itemsTokens items ++ .closeArray :: rest) := by
      simp [tokens, run, Reader.advance, Reader.start]
    rw [opened]
    cases items with
    | nil => rfl
    | cons item more =>
      have asItem : run (.firstItem stack) (itemsTokens (item :: more) ++ .closeArray :: rest) =
          run (.value (.items [] :: stack))
            (itemsTokens (item :: more) ++ .closeArray :: rest) := by
        have first := (wholes item List.mem_cons_self).run_firstItem stack
        cases more with
        | nil => exact first _
        | cons second more => simpa [itemsTokens] using first _
      rw [asItem]
      exact run_itemsTokens stack rest [] each
  | @object members wholes each =>
    have opened : run (.value stack) ((Draft.object members true).tokens ++ rest) =
        run (.firstName stack) (membersTokens members ++ .closeObject :: rest) := by
      simp [tokens, run, Reader.advance, Reader.start]
    rw [opened]
    cases members with
    | nil => rfl
    | cons member more =>
      -- The name of the first member is taken as that of any other.
      have asNext : run (.firstName stack)
          (membersTokens (member :: more) ++ .closeObject :: rest) =
            run (.nextName [] stack) (membersTokens (member :: more) ++ .closeObject :: rest) := by
        cases more <;> rfl
      rw [asNext]
      exact run_membersTokens stack rest [] each

/-! ## What the reader has taken -/

/-- The tokens of items read, each with the comma after it. -/
def itemsRead (read : List Draft) : List Token :=
  read.reverse.flatMap fun item => item.tokens ++ [.comma]

/-- The tokens of members read, each with the comma after it. -/
def membersRead (read : List (Option String × Draft)) : List Token :=
  read.reverse.flatMap fun member => .string member.1 :: .colon :: (member.2.tokens ++ [.comma])

private theorem itemsTokens_concat (items : List Draft) (last : Draft) :
    itemsTokens (items ++ [last]) =
      items.flatMap (fun item => item.tokens ++ [.comma]) ++ last.tokens := by
  induction items with
  | nil => rfl
  | cons item more ih =>
    have commas : itemsTokens (item :: more ++ [last]) =
        item.tokens ++ .comma :: itemsTokens (more ++ [last]) := by
      cases more <;> simp [itemsTokens]
    rw [commas, ih]
    simp

private theorem membersTokens_concat (members : List (Option String × Draft))
    (last : Option String × Draft) :
    membersTokens (members ++ [last]) =
      members.flatMap (fun member =>
        .string member.1 :: .colon :: (member.2.tokens ++ [.comma])) ++
        .string last.1 :: .colon :: last.2.tokens := by
  induction members with
  | nil => rfl
  | cons member more ih =>
    have commas : membersTokens (member :: more ++ [last]) =
        .string member.1 :: .colon :: (member.2.tokens ++ .comma ::
          membersTokens (more ++ [last])) := by
      cases more <;> simp [membersTokens]
    rw [commas, ih]
    simp

/-- The tokens of the containers still open, up to the part that is being read. -/
def openTokens : List Frame → List Token
  | [] => []
  | .items read :: stack => openTokens stack ++ .openArray :: itemsRead read
  | .members read name :: stack =>
    openTokens stack ++ .openObject :: (membersRead read ++ [.string name, .colon])

/-- The tokens that a reader has taken. -/
def Reader.taken : Reader → List Token
  | .value stack => openTokens stack
  | .firstItem stack => openTokens stack ++ [.openArray]
  | .afterItem read stack => openTokens stack ++ .openArray :: itemsTokens read.reverse
  | .firstName stack => openTokens stack ++ [.openObject]
  | .nextName read stack => openTokens stack ++ .openObject :: membersRead read
  | .colon read name stack =>
    openTokens stack ++ .openObject :: (membersRead read ++ [.string name])
  | .afterMember read stack => openTokens stack ++ .openObject :: membersTokens read.reverse
  | .finished draft => draft.tokens

/-- The parts kept in a frame are whole. -/
def Frame.Sound : Frame → Prop
  | .items read => ∀ item ∈ read, item.Whole
  | .members read _ => ∀ member ∈ read, member.2.Whole

/-- The parts that a reader keeps are whole, and something is kept after a part. -/
def Reader.Sound : Reader → Prop
  | .value stack | .firstItem stack | .firstName stack => ∀ frame ∈ stack, frame.Sound
  | .afterItem read stack =>
    read ≠ [] ∧ (∀ item ∈ read, item.Whole) ∧ ∀ frame ∈ stack, frame.Sound
  | .nextName read stack | .colon read _ stack =>
    (∀ member ∈ read, member.2.Whole) ∧ ∀ frame ∈ stack, frame.Sound
  | .afterMember read stack =>
    read ≠ [] ∧ (∀ member ∈ read, member.2.Whole) ∧ ∀ frame ∈ stack, frame.Sound
  | .finished draft => draft.Whole

/-- Whether the text of a draft breaks at its outermost part. -/
def isOpen : Draft → Bool
  | .broken => true
  | .array _ closed | .object _ closed => !closed
  | _ => false

theorem Whole.isOpen_eq_false {draft : Draft} (whole : draft.Whole) : draft.isOpen = false := by
  cases whole <;> rfl

/-- Whatever is around an open part is open as well. -/
private theorem isOpen_breakOff {inner : Draft} (opened : inner.isOpen = true)
    (stack : List Frame) : (breakOff inner stack).isOpen = true := by
  induction stack generalizing inner with
  | nil => exact opened
  | cons frame stack ih => cases frame <;> exact ih rfl

namespace Reader

/-- The reader has broken off, or it goes on as one that has taken the tokens. -/
private def Follows (tokens : List Token) (reader : Reader) : Prop :=
  (∃ draft : Draft, draft.isOpen = true ∧ reader = .finished draft) ∨
    reader.Sound ∧ reader.taken = tokens

private theorem Follows.of_break {inner : Draft} (opened : inner.isOpen = true)
    (stack : List Frame) (tokens : List Token) :
    Follows tokens (.finished (breakOff inner stack)) :=
  .inl ⟨_, isOpen_breakOff opened stack, rfl⟩

variable {stack : List Frame} {token : Token}

/-- A value that has ended is kept where it is put. -/
private theorem follows_place {draft : Draft} (whole : draft.Whole)
    (sound : ∀ frame ∈ stack, frame.Sound) :
    Follows (openTokens stack ++ draft.tokens) (place draft stack) := by
  refine .inr ?_
  match stack with
  | [] => exact ⟨whole, rfl⟩
  | .items read :: stack =>
    obtain ⟨wholes, sound⟩ := List.forall_mem_cons.mp sound
    refine ⟨⟨List.cons_ne_nil _ _, List.forall_mem_cons.mpr ⟨whole, wholes⟩, sound⟩, ?_⟩
    simp [place, taken, openTokens, itemsRead, itemsTokens_concat]
  | .members read name :: stack =>
    obtain ⟨wholes, sound⟩ := List.forall_mem_cons.mp sound
    refine ⟨⟨List.cons_ne_nil _ _, List.forall_mem_cons.mpr ⟨whole, wholes⟩, sound⟩, ?_⟩
    simp [place, taken, openTokens, membersRead, membersTokens_concat]

/-- The first token of a value is taken. -/
private theorem follows_start (sound : ∀ frame ∈ stack, frame.Sound) :
    Follows (openTokens stack ++ [token]) (start token stack) := by
  cases token with
  | openObject | openArray => exact .inr ⟨sound, rfl⟩
  | null => exact follows_place .null sound
  | boolean value => exact follows_place (.boolean value) sound
  | number numeral => exact follows_place (.number numeral) sound
  | string text => exact follows_place (.string text) sound
  | closeObject | closeArray | colon | comma => exact .of_break rfl stack _

/-- The comma after an item is taken with it. -/
private theorem itemsRead_of_ne_nil {read : List Draft} (given : read ≠ []) :
    itemsRead read = itemsTokens read.reverse ++ [.comma] := by
  obtain ⟨last, before, rfl⟩ := List.exists_cons_of_ne_nil given
  simp [itemsRead, itemsTokens_concat]

/-- So is the comma after a member. -/
private theorem membersRead_of_ne_nil {read : List (Option String × Draft)} (given : read ≠ []) :
    membersRead read = membersTokens read.reverse ++ [.comma] := by
  obtain ⟨last, before, rfl⟩ := List.exists_cons_of_ne_nil given
  simp [membersRead, membersTokens_concat]

/-- Every token is taken, or breaks the text. -/
private theorem follows_advance {reader : Reader} (sound : reader.Sound)
    (unfinished : ∀ draft, reader ≠ .finished draft) :
    Follows (reader.taken ++ [token]) (reader.advance token) := by
  cases reader with
  | value stack => exact follows_start sound
  | firstItem stack =>
    have opened : ∀ frame ∈ Frame.items [] :: stack, frame.Sound :=
      List.forall_mem_cons.mpr ⟨List.forall_mem_nil _, sound⟩
    have started : Follows (openTokens stack ++ [.openArray] ++ [token])
        (start token (.items [] :: stack)) := follows_start opened
    cases token with
    | closeArray =>
      have closed := follows_place (.array (List.forall_mem_nil _)) sound
      simpa [taken, advance, tokens, itemsTokens] using closed
    | _ => exact started
  | afterItem read stack =>
    obtain ⟨given, wholes, sound⟩ := sound
    cases token with
    | comma =>
      refine .inr ⟨List.forall_mem_cons.mpr ⟨wholes, sound⟩, ?_⟩
      simp [taken, advance, openTokens, itemsRead_of_ne_nil given]
    | closeArray =>
      have closed := follows_place (.array fun item kept => wholes item (List.mem_reverse.mp kept))
        sound
      simpa [taken, advance, tokens] using closed
    | _ => exact .of_break rfl stack _
  | firstName stack =>
    cases token with
    | closeObject =>
      have closed := follows_place (.object (List.forall_mem_nil _)) sound
      simpa [taken, advance, tokens, membersTokens] using closed
    | string name =>
      refine .inr ⟨⟨List.forall_mem_nil _, sound⟩, ?_⟩
      simp [taken, advance, membersRead]
    | _ => exact .of_break rfl stack _
  | nextName read stack =>
    cases token with
    | string name => exact .inr ⟨sound, by simp [taken, advance]⟩
    | _ => exact .of_break rfl stack _
  | colon read name stack =>
    obtain ⟨wholes, sound⟩ := sound
    cases token with
    | colon =>
      refine .inr ⟨List.forall_mem_cons.mpr ⟨wholes, sound⟩, ?_⟩
      simp [taken, advance, openTokens]
    | _ => exact .of_break rfl stack _
  | afterMember read stack =>
    obtain ⟨given, wholes, sound⟩ := sound
    cases token with
    | comma =>
      refine .inr ⟨⟨wholes, sound⟩, ?_⟩
      simp [taken, advance, membersRead_of_ne_nil given]
    | closeObject =>
      have closed := follows_place
        (.object fun member kept => wholes member (List.mem_reverse.mp kept)) sound
      simpa [taken, advance, tokens] using closed
    | _ => exact .of_break rfl stack _
  | finished draft => exact absurd rfl (unfinished draft)

/-- Where no token follows, something is left open. -/
private theorem isOpen_stop {reader : Reader} (unfinished : ∀ draft, reader ≠ .finished draft) :
    reader.stop.isOpen = true := by
  cases reader with
  | finished draft => exact absurd rfl (unfinished draft)
  | _ => exact isOpen_breakOff rfl _

/-- Reading ends with a draft that is left open, or with a whole value whose tokens have been
taken. -/
private theorem isOpen_or_whole_of_run {reader : Reader} (sound : reader.Sound)
    {tokens rest : List Token} {draft : Draft} (read : run reader tokens = (draft, rest)) :
    draft.isOpen = true ∨ draft.Whole ∧ reader.taken ++ tokens = draft.tokens ++ rest := by
  fun_induction run reader tokens with
  | case1 ended tokens =>
    obtain ⟨rfl, rfl⟩ := Prod.mk.inj read
    exact .inr ⟨sound, rfl⟩
  | case2 reader unfinished =>
    obtain ⟨rfl, rfl⟩ := Prod.mk.inj read
    exact .inl (isOpen_stop unfinished)
  | case3 reader token tokens unfinished ih =>
    rcases follows_advance sound unfinished with ⟨ended, opened, advanced⟩ | ⟨sound, taken⟩
    · rw [advanced, run] at read
      obtain ⟨rfl, rfl⟩ := Prod.mk.inj read
      exact .inl opened
    · rcases ih sound read with opened | ⟨whole, consumed⟩
      · exact .inl opened
      · rw [taken, List.append_assoc, List.singleton_append] at consumed
        exact .inr ⟨whole, consumed⟩

end Reader

/-! ## Whole texts -/

/-- A text is read as a value of which nothing is left open, and to its end, exactly when it
spells the value. -/
theorem readWhole_eq_iff {text : String} {draft : Draft} :
    readWhole (Utf8.encode text) = (draft, true) ∧ draft.isOpen = false ↔
      draft.SpelledBy text := by
  constructor
  · rintro ⟨read, closed⟩
    rcases ran : run (.value []) (scan (Utf8.encode text)).tokens with ⟨found, rest⟩
    rw [readWhole, ran] at read
    obtain ⟨rfl, clean⟩ := Prod.mk.inj read
    obtain ⟨complete, rest_eq_nil⟩ := (Bool.and_eq_true _ _).mp clean
    obtain rfl := List.isEmpty_iff.mp rest_eq_nil
    have sound : (Reader.value []).Sound := List.forall_mem_nil _
    rcases Reader.isOpen_or_whole_of_run sound ran with opened | ⟨whole, taken⟩
    · rw [closed] at opened
      cases opened
    have tokens : (scan (Utf8.encode text)).tokens = found.tokens := by
      simpa [Reader.taken, openTokens] using taken
    have scanned : scan (Utf8.encode text) = ⟨found.tokens, true⟩ := by
      rw [← tokens, ← complete]
    exact ⟨whole, lexed_of_scan scanned⟩
  · rintro ⟨whole, lexed⟩
    have scanned := (scan_eq_iff whole.separated).mpr lexed
    have read := whole.run_tokens [] []
    rw [List.append_nil] at read
    refine ⟨?_, whole.isOpen_eq_false⟩
    rw [readWhole, scanned, read]
    rfl

/-- A text spells one value at most. -/
theorem SpelledBy.unique {text : String} {first second : Draft} (spelled : first.SpelledBy text)
    (again : second.SpelledBy text) : first = second := by
  have read := (readWhole_eq_iff.mpr spelled).1
  have readAgain := (readWhole_eq_iff.mpr again).1
  rw [read] at readAgain
  exact (Prod.mk.inj readAgain).1

end Draft

end Quiesce.Json
