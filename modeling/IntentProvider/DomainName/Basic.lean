import IntentProvider.DomainName.Direction
import IntentProvider.DomainName.Punycode
import IntentProvider.DomainName.Replacement

/-!
Domain names in ASCII, by UTS #46: every character is replaced as the mapping table says, the text
is put into its composed normal form, and each label with characters beyond ASCII is written in
Punycode behind the letters `xn--`. A label that came with these letters is read back and has to
satisfy what other labels do. No length is checked, and hyphens may stand anywhere.
-/

namespace IntentProvider.DomainName

open IntentProvider.Text

/-- An ASCII character that no domain name in a URL has. -/
def isForbidden (c : Char) : Bool :=
  c.toNat ≤ 0x20 || c.toNat == 0x7F ||
    ['#', '%', '/', ':', '<', '>', '?', '@', '[', '\\', ']', '^', '|'].contains c

/-- Whether a text is in ASCII. -/
def isAscii (cs : List Char) : Bool :=
  cs.all (·.toNat < 0x80)

/-- What precedes Punycode in a label. -/
def acePrefix : List Char :=
  ['x', 'n', '-', '-']

/-- Whether a label consists of characters that may stand in it where they do. -/
def isLabel (cs : List Char) : Bool :=
  !cs.any isForbidden && !cs.head?.any isMark && joinersFit [] cs

/-- The label that is written in Punycode. It must have characters beyond ASCII, each of which
stands for itself, and must be in its normal form. -/
def readBack? (written : List Char) : Option (List Char) := do
  let label ← Punycode.decode? written
  if isAscii written && !isAscii label && label.all isSettled && normalForm label == label
  then some label else none

/-- A label with its characters beyond ASCII. -/
def label? (cs : List Char) : Option (List Char) := do
  let label ← if acePrefix.isPrefixOf cs then readBack? (cs.drop acePrefix.length) else some cs
  if isLabel label then some label else none

/-- The labels of a domain name, or nothing if it is none. -/
def labels? (cs : List Char) : Option (List (List Char)) := do
  let replaced ← cs.mapM replacement?
  let labels ← (splitAt '.' (normalForm replaced.flatten)).mapM label?
  let directions := labels.map (·.map Direction.of)
  if directions.any (·.any Direction.isBidi) && !directions.all Direction.keepRule then none
  else some labels

/-- A label in ASCII. -/
def asciiLabel (label : List Char) : List Char :=
  if isAscii label then label else acePrefix ++ Punycode.encode label

/-- A domain name in ASCII, or nothing if it is none. -/
def toAscii? (cs : List Char) : Option (List Char) :=
  (labels? cs).map fun labels => ['.'].intercalate (labels.map asciiLabel)

end IntentProvider.DomainName
