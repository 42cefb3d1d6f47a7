import IntentProvider.Json.Number
import IntentProvider.Map.Ordered

/-!
JSON values. The members of an object keep the order in which their keys first came, and each key
comes once. `render` writes a value compactly: no blanks, and in strings only the quotation mark,
the backslash and the control characters below U+0020 escaped.
-/

namespace IntentProvider.Json

/-- A JSON value. -/
inductive Value where
  | null
  | bool (b : Bool)
  | number (n : Number)
  | string (s : String)
  | array (items : List Value)
  | object (members : List (String × Value))
  deriving Inhabited, Repr

/-- A document: the members of an object. -/
abbrev Document := OrderedMap Value

namespace Value

/-- The text of a value, if it is a string. -/
def string? : Value → Option String
  | string s => some s
  | _ => none

theorem bind_string?_eq_some_iff {v : Option Value} {s : String} :
    v.bind string? = some s ↔ v = some (string s) := by
  rw [Option.bind_eq_some_iff]
  constructor
  · rintro ⟨w, rfl, hs⟩
    cases w <;> cases hs
    rfl
  · rintro rfl
    exact ⟨_, rfl, rfl⟩

/-- The members of a value, if it is an object. -/
def members? : Value → Option (List (String × Value))
  | object members => some members
  | _ => none

/-- The document of a value, if it is an object. -/
def document? : Value → Option Document
  | object members => some (OrderedMap.ofList members)
  | _ => none

/-- The value under a key of an object. -/
def get? (v : Value) (key : String) : Option Value :=
  v.members?.bind (·.lookup key)

/-- Whether a value is `null`. -/
def isNull : Value → Bool
  | null => true
  | _ => false

/-- The object of a document. -/
def ofDocument (d : Document) : Value :=
  object d.entries

/-- An unsigned word as a value. -/
def ofUInt64 (n : UInt64) : Value :=
  number (.ofUInt64 n)

/-- The hexadecimal digits of a control character. -/
def hexDigit (n : Nat) : Char :=
  if n < 10 then Char.ofNat (n + 48) else Char.ofNat (n + 87)

/-- How a character of a string is written. -/
def escape (c : Char) : List Char :=
  if c = '"' then ['\\', '"']
  else if c = '\\' then ['\\', '\\']
  else if 32 ≤ c.toNat then [c]
  else if c.toNat = 8 then ['\\', 'b']
  else if c.toNat = 9 then ['\\', 't']
  else if c.toNat = 10 then ['\\', 'n']
  else if c.toNat = 12 then ['\\', 'f']
  else if c.toNat = 13 then ['\\', 'r']
  else ['\\', 'u', '0', '0', hexDigit (c.toNat / 16), hexDigit (c.toNat % 16)]

/-- A string in quotation marks. -/
def quote (s : String) : List Char :=
  '"' :: (s.toList.flatMap escape ++ ['"'])

mutual

/-- The compact text of a value. -/
def render : Value → List Char
  | null => ['n', 'u', 'l', 'l']
  | bool true => ['t', 'r', 'u', 'e']
  | bool false => ['f', 'a', 'l', 's', 'e']
  | number n => n.render
  | string s => quote s
  | array items => '[' :: (renderItems items ++ [']'])
  | object members => '{' :: (renderMembers members ++ ['}'])

/-- The texts of the items of an array, with commas between them. -/
def renderItems : List Value → List Char
  | [] => []
  | [v] => render v
  | v :: vs => render v ++ ',' :: renderItems vs

/-- The texts of the members of an object, with commas between them. -/
def renderMembers : List (String × Value) → List Char
  | [] => []
  | [(k, v)] => quote k ++ ':' :: render v
  | (k, v) :: ms => quote k ++ ':' :: (render v ++ ',' :: renderMembers ms)

end

/-- The compact text of a value. -/
def text (v : Value) : String :=
  String.ofList v.render

end Value

end IntentProvider.Json
