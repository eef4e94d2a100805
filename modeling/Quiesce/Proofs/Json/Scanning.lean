/-
# Scanning finds the tokens

A text is scanned from its bytes, a blank or a token at a time. `scan_eq_iff` says that
this finds the tokens of which the grammar lets the text consist, when no two numerals
among them stand side by side: a numeral is scanned as far as it goes, so two of them
with nothing in between would be one.
-/

import Mathlib.Data.List.Chain
import Quiesce.Proofs.Json.Numerals

namespace Quiesce.Json

namespace Token

/-! ## One token -/

section

variable {rest : List UInt8}

/-- A literal between quotes is read as a string. -/
private theorem first?_string {text : List Char} {parts : List Part} {value : Option String}
    (literal : Literal text parts)
    (denoted : ∀ content : String, value = some content ↔ Denotes parts content.toList) :
    first? (octets ('"' :: (text ++ ['"'])) ++ rest) = some (.string value, rest) := by
  have bytes : octets ('"' :: (text ++ ['"'])) ++ rest = 0x22 :: (octets text ++ 0x22 :: rest) := by
    rw [octets_cons, octets_append, List.append_assoc, List.append_assoc]
    rfl
  have content : Piece.text? (parts.flatMap Part.pieces) = value :=
    Option.ext fun content => (Piece.text?_eq_some_iff parts content).trans (denoted content).symm
  rw [bytes, first?, literal?_of_literal literal, Option.map_some, List.reverse_nil,
    List.nil_append]
  simp only [content]

/-- Every spelling of a token is read as the token, when nothing carries a numeral on. -/
theorem first?_of_spelled {token : Token} {text : List Char} (spelled : token.Spelled text)
    (ends : ∀ numeral, token = .number numeral → EndsNumeral rest) :
    first? (octets text ++ rest) = some (token, rest) := by
  cases spelled with
  | openObject | closeObject | openArray | closeArray | colon | comma | null => rfl
  | boolean value => cases value <;> rfl
  | number spelled => exact first?_numeral spelled (ends _ rfl)
  | string literal denoted => exact first?_string literal denoted

/-- Whatever is read of a text as a token is a spelling of it. -/
theorem exists_of_first? {chars : List Char} {token : Token}
    (read : first? (octets chars) = some (token, rest)) :
    ∃ text more, token.Spelled text ∧ chars = text ++ more ∧ rest = octets more := by
  -- The tokens of one spelling each are known by their bytes.
  have fixed (token : Token) (text : List Char) (spelled : token.Spelled text)
      (ascii : ∀ c ∈ text, c.toNat < 0x80) (bytes : octets chars = octets text ++ rest) :
      ∃ text more, token.Spelled text ∧ chars = text ++ more ∧ rest = octets more := by
    obtain ⟨more, rfl, rfl⟩ := exists_of_octets_eq_append ascii bytes
    exact ⟨text, more, spelled, rfl, rfl⟩
  unfold first? at read
  split at read
  case h_1 bytes =>
    obtain ⟨rfl, rfl⟩ := Prod.mk.inj (Option.some.inj read)
    exact fixed _ _ .openObject (by simp) bytes
  case h_2 bytes =>
    obtain ⟨rfl, rfl⟩ := Prod.mk.inj (Option.some.inj read)
    exact fixed _ _ .closeObject (by simp) bytes
  case h_3 bytes =>
    obtain ⟨rfl, rfl⟩ := Prod.mk.inj (Option.some.inj read)
    exact fixed _ _ .openArray (by simp) bytes
  case h_4 bytes =>
    obtain ⟨rfl, rfl⟩ := Prod.mk.inj (Option.some.inj read)
    exact fixed _ _ .closeArray (by simp) bytes
  case h_5 bytes =>
    obtain ⟨rfl, rfl⟩ := Prod.mk.inj (Option.some.inj read)
    exact fixed _ _ .colon (by simp) bytes
  case h_6 bytes =>
    obtain ⟨rfl, rfl⟩ := Prod.mk.inj (Option.some.inj read)
    exact fixed _ _ .comma (by simp) bytes
  case h_7 later bytes =>
    obtain ⟨⟨pieces, left⟩, literalRead, same⟩ := Option.map_eq_some_iff.mp read
    obtain ⟨rfl, rfl⟩ := Prod.mk.inj same
    have begins : octets chars = octets ['"'] ++ later := bytes
    obtain ⟨more, rfl, rfl⟩ := exists_of_octets_eq_append (by simp) begins
    obtain ⟨text, parts, last, literal, rfl, rfl, rfl⟩ := exists_literal_of_literal? [] literalRead
    refine ⟨'"' :: (text ++ ['"']), last, .string literal ?_, by simp, rfl⟩
    exact Piece.text?_eq_some_iff parts
  case h_8 bytes =>
    obtain ⟨rfl, rfl⟩ := Prod.mk.inj (Option.some.inj read)
    exact fixed _ _ .null (by simp) bytes
  case h_9 bytes =>
    obtain ⟨rfl, rfl⟩ := Prod.mk.inj (Option.some.inj read)
    exact fixed _ _ (.boolean true) (by simp) bytes
  case h_10 bytes =>
    obtain ⟨rfl, rfl⟩ := Prod.mk.inj (Option.some.inj read)
    exact fixed _ _ (.boolean false) (by simp) bytes
  case h_11 later bytes =>
    have begins : octets chars = octets ['-'] ++ later := bytes
    obtain ⟨more, rfl, rfl⟩ := exists_of_octets_eq_append (by simp) begins
    obtain ⟨numeral, text, last, rfl, spelled, rfl, rfl⟩ := exists_of_unsigned? read
    exact ⟨_, last, .number spelled, rfl, rfl⟩
  case h_12 =>
    obtain ⟨numeral, text, last, rfl, spelled, rfl, rfl⟩ := exists_of_unsigned? read
    exact ⟨_, last, .number spelled, rfl, rfl⟩

end

/-- No token starts with a blank. -/
private theorem exists_octets_of_spelled {token : Token} {text : List Char}
    (spelled : token.Spelled text) :
    ∃ byte more, octets text = byte :: more ∧ isBlank byte = false := by
  cases spelled with
  | openObject | closeObject | openArray | closeArray | colon | comma | null =>
    exact ⟨_, _, rfl, rfl⟩
  | boolean value => cases value <;> exact ⟨_, _, rfl, rfl⟩
  | number spelled => exact exists_octets_of_numeral spelled
  | string literal denoted => exact ⟨_, _, rfl, rfl⟩

/-- The blanks are the characters whose bytes are blank. -/
private theorem exists_byte_of_blank {c : Char} (blank : c ∈ blanks) :
    ∃ byte, String.utf8EncodeChar c = [byte] ∧ isBlank byte = true := by
  simp only [blanks, List.mem_cons, List.not_mem_nil, or_false] at blank
  rcases blank with rfl | rfl | rfl | rfl <;> exact ⟨_, rfl, rfl⟩

private theorem exists_blank_of_isBlank {byte : UInt8} (blank : isBlank byte = true) :
    ∃ c ∈ blanks, octets [c] = [byte] ∧ c.toNat < 0x80 := by
  simp only [isBlank, Bool.or_eq_true, decide_eq_true_eq] at blank
  rcases blank with ((rfl | rfl) | rfl) | rfl
  · exact ⟨' ', by simp [blanks], rfl, by simp⟩
  · exact ⟨'\t', by simp [blanks], rfl, by simp⟩
  · exact ⟨'\n', by simp [blanks], rfl, by simp⟩
  · exact ⟨'\r', by simp [blanks], rfl, by simp⟩

/-- Whether a token is a numeral. -/
def isNumeral : Token → Bool
  | .number _ => true
  | _ => false

/-- Whatever does not begin with a numeral carries none on. -/
private theorem endsNumeral_of_lexed {chars : List Char} {tokens : List Token}
    (lexed : Lexed chars tokens) (apart : ∀ token ∈ tokens.head?, token.isNumeral = false) :
    EndsNumeral (octets chars) := by
  cases lexed with
  | nil => exact endsNumeral_nil
  | blank blank rest =>
    simp only [blanks, List.mem_cons, List.not_mem_nil, or_false] at blank
    rcases blank with rfl | rfl | rfl | rfl <;> exact endsNumeral_cons (by decide) _
  | token spelled rest =>
    cases spelled with
    | number spelled => cases apart _ rfl
    | boolean value => cases value <;> exact endsNumeral_cons (by decide) _
    | _ => exact endsNumeral_cons (by decide) _

end Token

/-! ## All tokens -/

/-- No two numerals stand side by side. -/
def Separated (tokens : List Token) : Prop :=
  tokens.IsChain fun first second => ¬ (first.isNumeral ∧ second.isNumeral)

/-- Scanning takes tokens off the front of a byte sequence and goes on with the rest. -/
def ScansTo (bytes : List UInt8) (tokens : List Token) (rest : List UInt8) : Prop :=
  ∀ seen rounds, bytes.length ≤ rounds → ∃ left, rest.length ≤ left ∧
    scan.go seen rounds bytes = scan.go (tokens.reverse ++ seen) left rest

namespace ScansTo

variable {bytes middle rest : List UInt8} {tokens first second : List Token}

theorem refl : ScansTo rest [] rest :=
  fun _ rounds enough => ⟨rounds, enough, rfl⟩

theorem trans (earlier : ScansTo bytes first middle) (later : ScansTo middle second rest) :
    ScansTo bytes (first ++ second) rest := by
  intro seen rounds enough
  obtain ⟨left, enough, scanned⟩ := earlier seen rounds enough
  obtain ⟨last, enough, scannedLater⟩ := later (first.reverse ++ seen) left enough
  refine ⟨last, enough, ?_⟩
  rw [scanned, scannedLater, List.reverse_append, List.append_assoc]

/-- A blank is skipped in one round. -/
theorem of_blank {byte : UInt8} (blank : Token.isBlank byte = true) :
    ScansTo (byte :: rest) [] rest := by
  intro seen rounds enough
  obtain ⟨left, rfl⟩ := Nat.exists_eq_add_one_of_ne_zero (Nat.ne_zero_of_lt enough)
  refine ⟨left, Nat.le_of_succ_le_succ enough, ?_⟩
  rw [scan.go, if_pos blank]
  rfl

/-- A token that starts with no blank is scanned in one round. -/
theorem of_first? {byte : UInt8} {more : List UInt8} {token : Token}
    (noBlank : Token.isBlank byte = false)
    (read : Token.first? (byte :: more ++ rest) = some (token, rest)) :
    ScansTo (byte :: more ++ rest) [token] rest := by
  intro seen rounds enough
  have more_rounds : 0 < rounds := Nat.zero_lt_of_lt enough
  obtain ⟨left, rfl⟩ := Nat.exists_eq_add_one_of_ne_zero (Nat.ne_of_gt more_rounds)
  have shorter : rest.length ≤ left := by
    simp only [List.cons_append, List.length_cons, List.length_append] at enough
    omega
  refine ⟨left, shorter, ?_⟩
  rw [List.cons_append] at read ⊢
  rw [scan.go, noBlank, read]
  rfl

/-- The tokens of a whole byte sequence. -/
theorem scan_eq (all : ScansTo bytes tokens []) : scan bytes = ⟨tokens, true⟩ := by
  obtain ⟨left, -, scanned⟩ := all [] bytes.length (Nat.le_refl _)
  rw [scan, scanned, scan.go]
  simp

end ScansTo

/-- A text is scanned to the tokens of which it consists. -/
private theorem Lexed.scansTo {chars : List Char} {tokens : List Token} (lexed : Lexed chars tokens)
    (separated : Separated tokens) : ScansTo (octets chars) tokens [] := by
  induction lexed with
  | nil => exact .refl
  | blank blank _ ih =>
    obtain ⟨byte, encoded, isBlank⟩ := Token.exists_byte_of_blank blank
    rw [octets_cons, encoded]
    exact (ScansTo.of_blank isBlank).trans (ih separated)
  | @token token text more tokens spelled rest ih =>
    obtain ⟨apart, separated⟩ := List.isChain_cons.mp separated
    obtain ⟨byte, later, encoded, noBlank⟩ := Token.exists_octets_of_spelled spelled
    have ends : ∀ numeral, token = .number numeral → Token.EndsNumeral (octets more) := by
      rintro numeral rfl
      refine Token.endsNumeral_of_lexed rest fun next first => ?_
      simpa [Token.isNumeral] using apart next first
    have read := Token.first?_of_spelled spelled ends
    rw [octets_append]
    rw [encoded] at read ⊢
    exact (ScansTo.of_first? noBlank read).trans (ih separated)

/-- A text that is scanned to its end consists of the tokens found. -/
private theorem exists_lexed_of_go (rounds : Nat) {seen tokens : List Token} {chars : List Char}
    (scanned : scan.go seen rounds (octets chars) = ⟨tokens, true⟩) :
    ∃ found, tokens = seen.reverse ++ found ∧ Lexed chars found := by
  induction rounds generalizing seen chars with
  | zero =>
    cases chars with
    | nil =>
      rw [octets_nil, scan.go] at scanned
      exact ⟨[], by simpa using scanned.symm, .nil⟩
    | cons c chars =>
      obtain ⟨lead, more, encoded, -⟩ := Utf8.chunk_utf8EncodeChar c []
      simp [encoded, scan.go] at scanned
  | succ rounds ih =>
    rcases bytes : octets chars with _ | ⟨byte, rest⟩
    · obtain rfl : chars = [] := by
        cases chars with
        | nil => rfl
        | cons c chars =>
          obtain ⟨lead, more, encoded, -⟩ := Utf8.chunk_utf8EncodeChar c []
          simp [encoded] at bytes
      rw [octets_nil, scan.go] at scanned
      exact ⟨[], by simpa using scanned.symm, .nil⟩
    rw [bytes, scan.go] at scanned
    split at scanned
    next blank =>
      obtain ⟨c, listed, encoded, ascii⟩ := Token.exists_blank_of_isBlank blank
      have begins : octets chars = octets [c] ++ rest := by
        rw [bytes, encoded, List.singleton_append]
      obtain ⟨more, rfl, rfl⟩ := exists_of_octets_eq_append (by simpa using ascii) begins
      obtain ⟨found, rfl, lexed⟩ := ih scanned
      exact ⟨found, rfl, .blank listed lexed⟩
    split at scanned
    case h_2 => cases scanned
    next token left read =>
      rw [← bytes] at read
      obtain ⟨text, more, spelled, rfl, rfl⟩ := Token.exists_of_first? read
      obtain ⟨found, rfl, lexed⟩ := ih scanned
      exact ⟨token :: found, by simp, .token spelled lexed⟩

/-- Scanning finds the tokens of which a text consists. -/
theorem scan_eq_iff {text : String} {tokens : List Token} (separated : Separated tokens) :
    scan (Utf8.encode text) = ⟨tokens, true⟩ ↔ Lexed text.toList tokens := by
  rw [encode_eq_octets]
  constructor
  · intro scanned
    obtain ⟨found, rfl, lexed⟩ := exists_lexed_of_go _ scanned
    exact lexed
  · exact fun lexed => (lexed.scansTo separated).scan_eq

/-- What is scanned to its end consists of the tokens found. -/
theorem lexed_of_scan {text : String} {tokens : List Token}
    (scanned : scan (Utf8.encode text) = ⟨tokens, true⟩) : Lexed text.toList tokens := by
  obtain ⟨found, rfl, lexed⟩ := exists_lexed_of_go _ scanned
  exact lexed

end Quiesce.Json
