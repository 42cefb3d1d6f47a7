import IntentProvider.Toml.Node
import IntentProvider.Toml.Token

/-!
TOML documents. A document is a sequence of lines: headers, which say to which table the lines after
them belong, and keys with values.
-/

namespace IntentProvider.Toml

/-- A value that is no array and no table. -/
def scalarValue? (cs : List Char) : Option (Node × List Char) :=
  match cs with
  | 't' :: 'r' :: 'u' :: 'e' :: rest => some (.boolean true, rest)
  | 'f' :: 'a' :: 'l' :: 's' :: 'e' :: rest => some (.boolean false, rest)
  | c :: _ =>
    if c == '"' || c == Char.ofNat 0x27 then (string? cs).map fun r => (.string r.1, r.2)
    else
      ((moment? cs).map fun r => (.moment r.1, r.2)).or <|
        ((float? cs).map fun r => (.float r.1, r.2)).or <|
          (integer? cs).map fun r => (.integer r.1, r.2)
  | [] => none

mutual

/-- A value within `depth` others. `fuel` bounds the calls. -/
def value? : Nat → Nat → List Char → Option (Node × List Char)
  | 0, _, _ => none
  | fuel + 1, depth, cs =>
    match cs with
    | '[' :: rest => if depthLimit ≤ depth + 1 then none else items? fuel (depth + 1) [] rest
    | '\x7b' :: rest => if depthLimit ≤ depth + 1 then none else pairs? fuel (depth + 1) [] rest
    | cs => scalarValue? cs

/-- The rest of an array after some of its values, last first. -/
def items? : Nat → Nat → List Node → List Char → Option (Node × List Char)
  | 0, _, _, _ => none
  | fuel + 1, depth, done, cs => do
    let cs ← skipLines? (cs.length + 1) cs
    match cs with
    | ']' :: rest => some (.array done.reverse, rest)
    | cs =>
      let (v, rest) ← value? fuel depth cs
      let rest ← skipLines? (rest.length + 1) rest
      match rest with
      | ',' :: rest => items? fuel depth (v :: done) rest
      | ']' :: rest => some (.array (v :: done).reverse, rest)
      | _ => none

/-- The rest of a table in braces after some of its keys. A comma must be followed by a key. -/
def pairs? : Nat → Nat → Entries → List Char → Option (Node × List Char)
  | 0, _, _, _ => none
  | fuel + 1, depth, done, cs =>
    match done, skipSpaces cs with
    | [], '\x7d' :: rest => some (.table .inline [], rest)
    | done, cs => do
      let (path, last, rest) ← key? cs
      let rest ← after? '=' rest
      let (v, rest) ← value? fuel depth (skipSpaces rest)
      let done ← insert? path last v done
      match skipSpaces rest with
      | ',' :: rest => pairs? fuel depth done rest
      | '\x7d' :: rest => some (.table .inline done, rest)
      | _ => none

end

/-- The table to which lines belong, and all that has been read. -/
structure Progress where
  header : List String := []
  entries : Entries := []

namespace Progress

/-- A line with a key and a value. -/
def pair? (p : Progress) (cs : List Char) : Option (Progress × List Char) := do
  let (path, last, rest) ← key? cs
  let rest ← after? '=' rest
  let (v, rest) ← value? (rest.length + 1) 0 (skipSpaces rest)
  let rest ← lineEnd? rest
  let entries ← insertAt? p.header path last v p.entries
  some ({ p with entries }, rest)

/-- A line with the header of a table, after its bracket. -/
def table? (p : Progress) (cs : List Char) : Option (Progress × List Char) := do
  let (path, last, rest) ← key? cs
  let rest ← lineEnd? (← after? ']' rest)
  let entries ← declare? path last p.entries
  some (⟨path ++ [last], entries⟩, rest)

/-- A line with the header of one more table of an array, after its brackets. -/
def tables? (p : Progress) (cs : List Char) : Option (Progress × List Char) := do
  let (path, last, rest) ← key? cs
  let rest ← lineEnd? (← after? ']' (← after? ']' rest))
  let entries ← append? path last p.entries
  some (⟨path ++ [last], entries⟩, rest)

/-- A line that is not blank. -/
def line? (p : Progress) : List Char → Option (Progress × List Char)
  | '[' :: '[' :: rest => p.tables? rest
  | '[' :: rest => p.table? rest
  | cs => p.pair? cs

/-- All lines of a document. -/
def lines? : Nat → Progress → List Char → Option Entries
  | 0, _, _ => none
  | fuel + 1, p, cs =>
    match skipSpaces cs with
    | [] => some p.entries
    | '#' :: rest => (lineEnd? ('#' :: rest)).bind (lines? fuel p)
    | '\n' :: rest => lines? fuel p rest
    | '\r' :: rest => (newline? ('\r' :: rest)).bind (lines? fuel p)
    | cs => (p.line? cs).bind fun (p, rest) => lines? fuel p rest

end Progress

/-- The keys and values of a document. A mark of the byte order at its start is passed over. -/
def read? (text : String) : Option Entries :=
  let cs := text.toList
  let cs := if cs.head? = some (Char.ofNat 0xFEFF) then cs.drop 1 else cs
  Progress.lines? (cs.length + 1) {} cs

end IntentProvider.Toml
