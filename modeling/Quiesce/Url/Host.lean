/-
# Reading hosts

The host of a web URL is a name or an address. A name is percent-decoded and
put into its ASCII form; one whose last part is a number is an IPv4 address, whose
parts may be decimal, octal or hexadecimal. An IPv6 address stands in brackets.
The host of another URL is kept as it is, apart from percent-encoding.
-/

import Quiesce.Url.Basic
import Quiesce.Url.Name

namespace Quiesce.Url

/-- The value of a hexadecimal digit. -/
def hexValue? (c : Char) : Option Nat :=
  if c.toNat < 0x80 then Hex.value? (UInt8.ofNat c.toNat) else none

/-- The number that digits of a base spell. -/
def numeral? (base : Nat) (digits : List Char) : Option Nat :=
  digits.foldlM (fun total c =>
    match hexValue? c with
    | some value => if value < base then some (total * base + value) else none
    | none => none) 0

/-- One part of an IPv4 address. -/
def ipv4Part? : List Char → Option Nat
  | [] => none
  | '0' :: 'x' :: digits | '0' :: 'X' :: digits => numeral? 16 digits
  | '0' :: c :: digits => numeral? 8 (c :: digits)
  | digits => numeral? 10 digits

/-- The parts of a dotted name, less one empty part at the end. -/
def dottedParts (text : List Char) : List (List Char) :=
  match (text.splitOn '.').reverse with
  | [] :: part :: rest => (part :: rest).reverse
  | _ => text.splitOn '.'

/-- Whether the last part of a name is a number. -/
def endsInNumber (text : List Char) : Bool :=
  match (dottedParts text).getLast? with
  | some part => (!part.isEmpty && part.all Char.isDigit) || (ipv4Part? part).isSome
  | none => false

/-- The IPv4 address of a dotted text. The last part fills all bytes that the
others leave. -/
def ipv4? (text : List Char) : Option UInt32 := do
  let parts := dottedParts text
  if 4 < parts.length then none
  let numbers ← parts.mapM ipv4Part?
  let last ← numbers.getLast?
  let leading := numbers.dropLast
  let unit := Nat.pow 256 (4 - leading.length)
  if last < unit ∧ leading.all (· < 256) then
    let high := leading.foldl (fun total number => total * 256 + number) 0
    some (UInt32.ofNat (high * unit + last))
  else none

/-- One byte of the IPv4 address that may end an IPv6 address: decimal, without
superfluous zeros. -/
def strictByte? (text : List Char) : Option Nat :=
  match text with
  | [] | '0' :: _ :: _ => none
  | digits => (numeral? 10 digits).filter (· < 256)

/-- One group of an IPv6 address. -/
def group? (text : List Char) : Option UInt16 :=
  if text.isEmpty ∨ 4 < text.length then none else (numeral? 16 text).map UInt16.ofNat

/-- Groups joined by colons; the last two may be written as an IPv4 address. -/
def groups? : List (List Char) → Option (List UInt16)
  | [] => some []
  | [part] =>
    if part.contains '.' then
      match (part.splitOn '.').mapM strictByte? with
      | some [a, b, c, d] => some [UInt16.ofNat (a * 256 + b), UInt16.ofNat (c * 256 + d)]
      | _ => none
    else (group? part).map ([·])
  | part :: rest => do
    let group ← group? part
    let groups ← groups? rest
    return group :: groups

/-- The groups of a text, none if it is empty. -/
def groupsOf? (text : List Char) : Option (List UInt16) :=
  if text.isEmpty then some [] else groups? (text.splitOn ':')

/-- The text before the first pair of colons and the text after it. -/
def splitGap : List Char → Option (List Char × List Char)
  | ':' :: ':' :: rest => some ([], rest)
  | c :: rest => (splitGap rest).map fun (before, after) => (c :: before, after)
  | [] => none

/-- The groups of an IPv6 address. A pair of colons stands for at least one zero
group, and only groups after it may end in an IPv4 address. -/
def ipv6? (text : List Char) : Option (List UInt16) :=
  match splitGap text with
  | none => (groupsOf? text).filter (·.length = 8)
  | some (before, after) => do
    if before.contains '.' then none
    let left ← groupsOf? before
    let right ← groupsOf? after
    if 8 ≤ left.length + right.length then none
    return left ++ List.replicate (8 - left.length - right.length) 0 ++ right

/-- Whether a character may not occur in any host. -/
def isForbidden (c : Char) : Bool :=
  c = '\x00' || isIgnored c || " #/:<>?@[\\]^|".toList.contains c

/-- Whether a character may not occur in the name of a web host. -/
def isForbiddenInName (c : Char) : Bool :=
  isForbidden c || c.toNat < 0x20 || c = '%' || c.toNat = 0x7F

/-- The address between brackets, if a text is one. -/
def bracketed? (text : List Char) : Option (List Char) :=
  match text with
  | '[' :: rest => if rest.getLast? = some ']' then some rest.dropLast else none
  | _ => none

/-- The host of a web URL. -/
def webHost? (text : List Char) : Option Host :=
  if text.head? = some '[' then (bracketed? text).bind fun inner => (ipv6? inner).map .ipv6
  else
    let decoded := Utf8.decode? (Percent.decode (Utf8.encode (String.ofList text)))
    match decoded.bind fun decoded => Name.ascii? decoded.toList with
    | none => none
    | some name =>
      if name.isEmpty ∨ name.any isForbiddenInName then none
      else if endsInNumber name then (ipv4? name).map .ipv4
      else some (.name (String.ofList name))

/-- The host of any other URL. -/
def plainHost? (text : List Char) : Option Host :=
  if text.head? = some '[' then (bracketed? text).bind fun inner => (ipv6? inner).map .ipv6
  else if text.any isForbidden then none
  else some (.name (encoded isControl text))

end Quiesce.Url
