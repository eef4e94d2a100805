/-
# What the fields of a record may be

Each kind of field is read off exactly the values that mean something for it, and as what
they mean. A number of 32 bits is a bare row of digits: a sign, a fraction or an exponent
makes it another kind of number, whatever its value, and so does a value that 64 bits
cannot hold.
-/

import Quiesce.Encoding

namespace Quiesce

namespace Json

@[simp] theorem ok_bind {α β : Type} (value : α) (next : α → Except Fault β) :
    (Except.ok value >>= next) = next value := rfl

@[simp] theorem error_bind {α β : Type} (fault : Fault) (next : α → Except Fault β) :
    (Except.error fault >>= next) = .error fault := rfl

@[simp] theorem map_ok {α β : Type} (value : α) (change : α → β) :
    change <$> (Except.ok value : Except Fault α) = .ok (change value) := rfl

@[simp] theorem map_error {α β : Type} (fault : Fault) (change : α → β) :
    change <$> (Except.error fault : Except Fault α) = .error fault := rfl

/-- What goes on with a value has read one. -/
theorem bind_eq_ok_iff {α β : Type} {first : Except Fault α} {next : α → Except Fault β}
    {result : β} :
    first >>= next = .ok result ↔ ∃ value, first = .ok value ∧ next value = .ok result := by
  cases first with
  | ok value => simp
  | error fault => exact ⟨nofun, fun ⟨_, failed, _⟩ => nomatch failed⟩

theorem map_eq_ok_iff {α β : Type} {first : Except Fault α} {change : α → β} {result : β} :
    first.map change = .ok result ↔ ∃ value, first = .ok value ∧ change value = result := by
  cases first with
  | ok value => simp [Except.map]
  | error fault => exact ⟨nofun, fun ⟨_, failed, _⟩ => nomatch failed⟩

@[simp] theorem pure_eq_ok_iff {α : Type} {value result : α} :
    (pure value : Except Fault α) = .ok result ↔ value = result :=
  ⟨Except.ok.inj, congrArg _⟩

/-- A part is read within a whole as it is read by itself. -/
@[simp] theorem within_eq_ok_iff {α : Type} {segment : Segment} {result : Except Fault α}
    {value : α} : within segment result = .ok value ↔ result = .ok value := by
  cases result with
  | ok found => rfl
  | error fault => exact ⟨nofun, nofun⟩

/-- A numeral stands for a natural number when it is a bare row of digits within 64 bits. -/
theorem Numeral.number?_eq_natural_iff {numeral : Numeral} {value : Nat} :
    numeral.number? = some (.natural value) ↔
      ∃ digits, numeral = ⟨false, digits, [], none⟩ ∧ digits.value = value ∧
        value < UInt64.size := by
  constructor
  · intro natural
    obtain ⟨negative, whole, fraction, exponent⟩ := numeral
    rw [number?] at natural
    split at natural
    next bare =>
      obtain ⟨integral, unsigned, small⟩ := bare
      obtain ⟨noFraction, noExponent⟩ := (Bool.and_eq_true _ _).mp integral
      obtain rfl := List.isEmpty_iff.mp noFraction
      obtain rfl := Option.isNone_iff_eq_none.mp noExponent
      obtain rfl := Bool.eq_false_iff.mpr unsigned
      obtain rfl := Number.natural.inj (Option.some.inj natural)
      exact ⟨whole, rfl, rfl, small⟩
    split at natural
    next => nomatch natural
    next =>
      obtain ⟨_, _, fraction⟩ := Option.map_eq_some_iff.mp natural
      nomatch fraction
  · rintro ⟨digits, rfl, rfl, small⟩
    rw [number?, if_pos ⟨rfl, Bool.false_ne_true, small⟩]

/-- The cases of an enumeration are told by their names. -/
theorem caseNamed_eq_ok_iff {α : Type} {cases : List (String × α)} {name : String} {value : α} :
    Draft.caseNamed cases name = .ok value ↔ cases.lookup name = some value := by
  unfold Draft.caseNamed
  cases cases.lookup name with
  | some found => simp
  | none => exact ⟨nofun, nofun⟩

namespace Draft

variable {draft : Draft}

/-! ## What a value may mean -/

/-- A value that means a text. -/
def IsText (draft : Draft) (text : String) : Prop :=
  draft = .string (some text)

/-- A value that means a list of texts. -/
def IsTexts (draft : Draft) (texts : List String) : Prop :=
  draft = .array (texts.map fun text => .string (some text)) true

/-- A value that means a number of 32 bits: a bare row of digits. -/
def IsWord (draft : Draft) (word : UInt32) : Prop :=
  ∃ digits : Digits, draft = .number ⟨false, digits, [], none⟩ ∧ digits.value = word.toNat

/-- A value that means a number of 32 bits or, as `null`, none. -/
def IsWordOrNull (draft : Draft) (word : Option UInt32) : Prop :=
  draft = .null ∧ word = none ∨ ∃ value, draft.IsWord value ∧ word = some value

/-- A value that means the case of a name: the name, or an object whose only member has
that name and the value `null`. -/
def IsCase (draft : Draft) (name : String) : Prop :=
  draft = .string (some name) ∨ draft = .object [(some name, .null)] true

/-! ## What is read of a value -/

theorem readString_eq_ok_iff {text : String} :
    draft.readString = .ok text ↔ draft.IsText text := by
  unfold readString IsText
  split <;> simp_all

theorem readWord32_eq_ok_iff {word : UInt32} : draft.readWord32 = .ok word ↔ draft.IsWord word := by
  constructor
  · intro read
    unfold readWord32 at read
    split at read
    case h_2 => nomatch read
    next numeral =>
    split at read
    case h_1 value natural =>
      obtain ⟨digits, rfl, rfl, -⟩ := Numeral.number?_eq_natural_iff.mp natural
      split at read
      next small =>
        obtain rfl := Except.ok.inj read
        exact ⟨digits, rfl, (UInt32.toNat_ofNat_of_lt' small).symm⟩
      next => nomatch read
    all_goals nomatch read
  · rintro ⟨digits, rfl, value⟩
    have small : digits.value < UInt32.size := value ▸ word.toNat_lt
    have natural := Numeral.number?_eq_natural_iff.mpr
      ⟨digits, rfl, rfl, Nat.lt_trans small (by decide)⟩
    simp only [readWord32, natural, if_pos small]
    rw [value, UInt32.ofNat_toNat]

theorem readOptionalWord32_eq_ok_iff {word : Option UInt32} :
    draft.readOptionalWord32 = .ok word ↔ draft.IsWordOrNull word := by
  by_cases absent : draft = .null
  · subst absent
    have noWord : ¬ ∃ value, IsWord .null value ∧ word = some value :=
      fun ⟨_, ⟨_, isNumber, _⟩, _⟩ => nomatch isNumber
    rw [IsWordOrNull, or_iff_left noWord]
    exact ⟨fun read => ⟨rfl, (Except.ok.inj read).symm⟩, fun given => congrArg _ given.2.symm⟩
  · have noNull : ¬ (draft = .null ∧ word = none) := fun given => absent given.1
    rw [readOptionalWord32, map_eq_ok_iff, IsWordOrNull, or_iff_right noNull]
    · simp only [readWord32_eq_ok_iff, @eq_comm _ word]
    · exact absent

private theorem readStringsFrom_eq_ok_iff (position : Nat) {items : List Draft}
    {texts : List String} :
    readStringsFrom position items = .ok texts ↔
      items = texts.map fun text => .string (some text) := by
  induction items generalizing position texts with
  | nil => cases texts <;> simp [readStringsFrom]
  | cons item rest ih =>
    simp only [readStringsFrom, bind_eq_ok_iff, within_eq_ok_iff, readString_eq_ok_iff, IsText, ih,
      pure_eq_ok_iff]
    cases texts with
    | nil => simp
    | cons text more => simp

theorem readStrings_eq_ok_iff {texts : List String} :
    draft.readStrings = .ok texts ↔ draft.IsTexts texts := by
  unfold readStrings IsTexts
  split
  next items closed =>
    simp only [bind_eq_ok_iff, readStringsFrom_eq_ok_iff, Draft.array.injEq]
    cases closed <;> simp [throw, throwThe, MonadExceptOf.throw]
  next noArray => exact ⟨nofun, fun given => absurd given (noArray _ _)⟩

theorem readUnit_eq_ok_iff : draft.readUnit = .ok () ↔ draft = .null := by
  cases draft <;> first | exact ⟨fun _ => rfl, fun _ => rfl⟩ | exact ⟨nofun, nofun⟩

/-- A case is read off its name, in either form. -/
theorem readCase_eq_ok_iff {α : Type} {cases : List (String × α)} {value : α} :
    draft.readCase .text cases = .ok value ↔
      ∃ name, draft.IsCase name ∧ cases.lookup name = some value := by
  constructor
  · intro read
    unfold readCase at read
    split at read
    case h_1 name => exact ⟨name, .inl rfl, caseNamed_eq_ok_iff.mp read⟩
    case h_3 => nomatch read
    next members closed =>
    split at read
    case h_3 name inner rest _ arranged =>
      simp only [bind_eq_ok_iff, within_eq_ok_iff] at read
      obtain ⟨found, named, ⟨⟩, isNull, ended⟩ := read
      split at ended
      next single =>
        obtain rfl : inner = .null := readUnit_eq_ok_iff.mp isNull
        obtain rfl := List.isEmpty_iff.mp single.1
        obtain rfl : closed = true := single.2
        obtain rfl : members = [(some name, .null)] := arranged
        obtain rfl := pure_eq_ok_iff.mp ended
        exact ⟨name, .inr rfl, caseNamed_eq_ok_iff.mp named⟩
      next => nomatch ended
    all_goals contradiction
  · rintro ⟨name, rfl | rfl, listed⟩
    · exact caseNamed_eq_ok_iff.mpr listed
    · have named := caseNamed_eq_ok_iff.mpr listed
      simp only [readCase, Medium.arrange, named, ok_bind]
      rfl

end Draft

end Json

end Quiesce
