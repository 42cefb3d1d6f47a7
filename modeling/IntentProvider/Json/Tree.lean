import IntentProvider.Json.Value
import IntentProvider.Text.Glyph

/-!
A JSON document as it is read, before anything is asked of it. Members stay as they came, repeated
keys included. A number beyond the doubles and a string that is no text (an unpaired surrogate, a
stray byte) have a shape but no value; they matter only where a value is wanted.
-/

namespace IntentProvider.Json

open IntentProvider.Text

/-- A document as read. -/
inductive Tree where
  | null
  | bool (b : Bool)
  | number (n : Option Number)
  | string (s : Option String)
  | array (items : List Tree)
  | object (members : List (Option String × Tree))
  deriving Inhabited

namespace Tree

/-- The levels of arrays and objects that a document may open one inside the other where its values
are wanted. -/
def depthLimit : Nat := 127

mutual

/-- The value of a tree in which at most `depth` levels are opened. A repeated key keeps its first
place and takes its last value. -/
def value? (depth : Nat) : Tree → Option Value
  | null => some .null
  | bool b => some (.bool b)
  | number n => n.map .number
  | string s => s.map .string
  | array items =>
    if depth = 0 then none else (values? (depth - 1) items).map .array
  | object members =>
    if depth = 0 then none
    else (memberValues? (depth - 1) members).map fun ms => .object (putEntries [] ms)

/-- The values of the items of an array. -/
def values? (depth : Nat) : List Tree → Option (List Value)
  | [] => some []
  | t :: ts => do
    let v ← value? depth t
    let vs ← values? depth ts
    some (v :: vs)

/-- The keys and values of the members of an object. -/
def memberValues? (depth : Nat) : List (Option String × Tree) → Option (List (String × Value))
  | [] => some []
  | (key, t) :: ms => do
    let k ← key
    let v ← value? depth t
    let rest ← memberValues? depth ms
    some ((k, v) :: rest)

end

mutual

/-- The tree that reading the text of a value gives. -/
def ofValue : Value → Tree
  | .null => null
  | .bool b => bool b
  | .number n => number (some n)
  | .string s => string (some s)
  | .array items => array (ofValues items)
  | .object members => object (ofMembers members)

/-- The trees of the items of an array. -/
def ofValues : List Value → List Tree
  | [] => []
  | v :: vs => ofValue v :: ofValues vs

/-- The trees of the members of an object. -/
def ofMembers : List (String × Value) → List (Option String × Tree)
  | [] => []
  | (k, v) :: ms => (some k, ofValue v) :: ofMembers ms

end

/-- The four blanks between the tokens of a document. -/
def isJsonBlank (c : Char) : Bool :=
  c == ' ' || c == '\n' || c == '\t' || c == '\r'

/-- Passes over blanks. -/
def skipBlanks : List Glyph → List Glyph
  | .char c :: rest => if isJsonBlank c then skipBlanks rest else .char c :: rest
  | rest => rest

/-- The decimal digit that a glyph is. -/
def digit? : Glyph → Option Nat
  | .char c => if '0' ≤ c && c ≤ '9' then some (c.toNat - '0'.toNat) else none
  | .stray => none

/-- The digits at the start of the glyphs, put after those in `done`, which are last first. -/
def takeDigits (done : List Nat) : List Glyph → List Nat × List Glyph
  | [] => (done.reverse, [])
  | g :: rest =>
    match digit? g with
    | some d => takeDigits (d :: done) rest
    | none => (done.reverse, g :: rest)

/-- The digits at the start of the glyphs, of which there must be one. -/
def someDigits? (gs : List Glyph) : Option (List Nat × List Glyph) :=
  let (ds, rest) := takeDigits [] gs
  if ds.isEmpty then none else some (ds, rest)

/-- The whole part of a number: a single zero, or digits that do not start with one. -/
def whole? (gs : List Glyph) : Option (List Nat × List Glyph) := do
  let (ds, rest) ← someDigits? gs
  if ds.head? == some 0 && 1 < ds.length then none else some (ds, rest)

/-- The fraction of a number, if a point comes next. -/
def fraction? : List Glyph → Option (Option (List Nat) × List Glyph)
  | .char '.' :: rest => do
    let (ds, rest) ← someDigits? rest
    some (some ds, rest)
  | rest => some (none, rest)

/-- The digits of an exponent with its sign. -/
def signedDigits? (negative : Bool) (gs : List Glyph) : Option (Option Int × List Glyph) := do
  let (ds, rest) ← someDigits? gs
  let n : Int := (ds.foldl (fun n d => n * 10 + d) 0 : Nat)
  some (some (if negative then -n else n), rest)

/-- What follows the letter of an exponent. -/
def exponentDigits? : List Glyph → Option (Option Int × List Glyph)
  | .char '+' :: rest => signedDigits? false rest
  | .char '-' :: rest => signedDigits? true rest
  | rest => signedDigits? false rest

/-- The exponent of a number, if its letter comes next. -/
def exponent? : List Glyph → Option (Option Int × List Glyph)
  | .char 'e' :: rest => exponentDigits? rest
  | .char 'E' :: rest => exponentDigits? rest
  | rest => some (none, rest)

/-- A number after its sign. -/
def unsignedNumber? (negative : Bool) (gs : List Glyph) : Option (Tree × List Glyph) := do
  let (whole, rest) ← whole? gs
  let (fraction, rest) ← fraction? rest
  let (exponent, rest) ← exponent? rest
  some (number (Number.Literal.number? ⟨negative, whole, fraction, exponent⟩), rest)

/-- The value of a hexadecimal digit. -/
def hex? : Glyph → Option Nat
  | .char c =>
    if '0' ≤ c && c ≤ '9' then some (c.toNat - 48)
    else if 'a' ≤ c && c ≤ 'f' then some (c.toNat - 87)
    else if 'A' ≤ c && c ≤ 'F' then some (c.toNat - 55)
    else none
  | .stray => none

/-- The value of the four digits of an escaped UTF-16 unit. -/
def unit? (a b c d : Glyph) : Option Nat := do
  let a ← hex? a
  let b ← hex? b
  let c ← hex? c
  let d ← hex? d
  some (((a * 16 + b) * 16 + c) * 16 + d)

/-- The character that a backslash and a letter stand for. -/
def escaped? : Char → Option Char
  | '"' => some '"'
  | '\\' => some '\\'
  | '/' => some '/'
  | 'b' => some (Char.ofNat 8)
  | 'f' => some (Char.ofNat 12)
  | 'n' => some '\n'
  | 'r' => some '\r'
  | 't' => some '\t'
  | _ => none

/-- The text read so far (last character first, or nothing if it is no text), with the leading
surrogate that still waits for its trailing one. -/
structure Draft where
  text : Option (List Char)
  waiting : Option Nat

namespace Draft

/-- No text yet. -/
def start : Draft := ⟨some [], none⟩

/-- The text after one more character. -/
def push (p : Draft) (c : Char) : Draft :=
  ⟨if p.waiting.isSome then none else p.text.map (c :: ·), none⟩

/-- The text after a byte that is no character. -/
def spoil (_ : Draft) : Draft :=
  ⟨none, none⟩

/-- The text after an escaped UTF-16 unit. -/
def pushUnit (p : Draft) (n : Nat) : Draft :=
  match p.waiting with
  | some lead =>
    if 0xDC00 ≤ n && n < 0xE000 then
      ⟨p.text.map (Char.ofNat (0x10000 + (lead - 0xD800) * 0x400 + (n - 0xDC00)) :: ·), none⟩
    else ⟨none, none⟩
  | none =>
    if 0xD800 ≤ n && n < 0xDC00 then ⟨p.text, some n⟩
    else if 0xDC00 ≤ n && n < 0xE000 then ⟨none, none⟩
    else ⟨p.text.map (Char.ofNat n :: ·), none⟩

/-- The text at the closing quotation mark. -/
def close (p : Draft) : Option String :=
  if p.waiting.isSome then none else p.text.map fun cs => String.ofList cs.reverse

end Draft

/-- The rest of a string after its opening quotation mark. Control characters must be escaped. -/
def string? (p : Draft) : List Glyph → Option (Option String × List Glyph)
  | [] => none
  | .stray :: rest => string? p.spoil rest
  | .char '"' :: rest => some (p.close, rest)
  | .char '\\' :: .char 'u' :: a :: b :: c :: d :: rest =>
    match unit? a b c d with
    | some n => string? (p.pushUnit n) rest
    | none => none
  | .char '\\' :: .char e :: rest =>
    match escaped? e with
    | some c => string? (p.push c) rest
    | none => none
  | .char c :: rest => if c = '\\' || c.toNat < 32 then none else string? (p.push c) rest

mutual

/-- A tree at the start of the glyphs and what follows it. `fuel` bounds the calls. -/
def read? : Nat → List Glyph → Option (Tree × List Glyph)
  | 0, _ => none
  | fuel + 1, gs =>
    match gs with
    | .char 'n' :: .char 'u' :: .char 'l' :: .char 'l' :: rest => some (null, rest)
    | .char 't' :: .char 'r' :: .char 'u' :: .char 'e' :: rest => some (bool true, rest)
    | .char 'f' :: .char 'a' :: .char 'l' :: .char 's' :: .char 'e' :: rest =>
      some (bool false, rest)
    | .char '"' :: rest => (string? .start rest).map fun r => (string r.1, r.2)
    | .char '-' :: rest => unsignedNumber? true rest
    | .char '[' :: rest =>
      match skipBlanks rest with
      | .char ']' :: rest => some (array [], rest)
      | rest => readItems? fuel [] rest
    | .char '{' :: rest =>
      match skipBlanks rest with
      | .char '}' :: rest => some (object [], rest)
      | rest => readMembers? fuel [] rest
    | gs => unsignedNumber? false gs

/-- The items of an array, of which at least one more must come, after those in `done`. -/
def readItems? : Nat → List Tree → List Glyph → Option (Tree × List Glyph)
  | 0, _, _ => none
  | fuel + 1, done, gs =>
    match read? fuel gs with
    | none => none
    | some (t, rest) =>
      match skipBlanks rest with
      | .char ']' :: rest => some (array (t :: done).reverse, rest)
      | .char ',' :: rest => readItems? fuel (t :: done) (skipBlanks rest)
      | _ => none

/-- The members of an object, of which at least one more must come, after those in `done`. -/
def readMembers? : Nat → List (Option String × Tree) → List Glyph → Option (Tree × List Glyph)
  | 0, _, _ => none
  | fuel + 1, done, gs =>
    match gs with
    | .char '"' :: rest =>
      match string? .start rest with
      | none => none
      | some (key, rest) =>
        match skipBlanks rest with
        | .char ':' :: rest =>
          match read? fuel (skipBlanks rest) with
          | none => none
          | some (t, rest) =>
            match skipBlanks rest with
            | .char '}' :: rest => some (object ((key, t) :: done).reverse, rest)
            | .char ',' :: rest => readMembers? fuel ((key, t) :: done) (skipBlanks rest)
            | _ => none
        | _ => none
    | _ => none

end

/-- The tree of a whole document, with blanks around it and nothing else. -/
def ofGlyphs? (gs : List Glyph) : Option Tree := do
  let (t, rest) ← read? (2 * gs.length + 2) (skipBlanks gs)
  if (skipBlanks rest).isEmpty then some t else none

/-- The tree of a document received as bytes. -/
def ofBytes? (bytes : ByteArray) : Option Tree :=
  ofGlyphs? (Glyph.ofBytes bytes.toList)

/-- The tree of a document given as text. -/
def ofText? (s : String) : Option Tree :=
  ofGlyphs? (Glyph.ofChars s.toList)

end Tree

end IntentProvider.Json
