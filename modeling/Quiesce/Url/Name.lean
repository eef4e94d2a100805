/-
# Host names

The name of a web host is compared without regard to letter case and sent in
ASCII. Its characters are folded and composed, and it is divided into labels at
the dots. A label beyond ASCII is written in Punycode; one that is already
written so has to stand for a label that folding and composing leave alone. Each
label beyond ASCII starts with no mark, has joiners only where they change
something, and does not mix directions.
-/

import Quiesce.Text.Composition
import Quiesce.Url.Name.Direction
import Quiesce.Url.Name.Folding
import Quiesce.Url.Name.Joiner
import Quiesce.Url.Punycode

namespace Quiesce.Url.Name

/-- The length up to which a label beyond ASCII can be written. -/
def longestLabel : Nat := 1000

/-- The length up to which what is written in Punycode can be read. -/
def longestPunycode : Nat := 2000

/-- What marks a label that is written in Punycode. -/
def punycodeMark : List Char :=
  "xn--".toList

/-- The label that a folded label stands for. -/
def readLabel? (label : List Char) : Option (List Char) :=
  if punycodeMark.isPrefixOf label then
    let written := label.drop punycodeMark.length
    if written.length ≤ longestPunycode ∧ written.all Punycode.isAscii then
      (Punycode.decode? written).filter fun read =>
        !read.all Punycode.isAscii && read.all (fun c => fold? c = some [c]) &&
          Text.composed read = read
    else none
  else some label

/-- Whether a label can be part of a name, apart from its direction. -/
def isLabel (label : List Char) : Bool :=
  label.all Punycode.isAscii ||
    (label.length ≤ longestLabel && !label.head?.any Text.isMark && joinersFit [] label)

/-- The ASCII form of a label. -/
def writeLabel (label : List Char) : List Char :=
  if label.all Punycode.isAscii then label else punycodeMark ++ Punycode.encode label

/-- The labels that a name stands for. -/
def labels? (name : List Char) : Option (List (List Char)) := do
  let folded ← name.mapM fold?
  let labels ← ((Text.composed folded.flatten).splitOn '.').mapM readLabel?
  if labels.all isLabel ∧ isReadable labels then some labels else none

/-- The ASCII form of a name. -/
def ascii? (name : List Char) : Option (List Char) :=
  (labels? name).map fun labels => ['.'].intercalate (labels.map writeLabel)

end Quiesce.Url.Name
