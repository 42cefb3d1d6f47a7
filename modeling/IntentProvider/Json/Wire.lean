import IntentProvider.Json.Tree
import IntentProvider.Map.Sorted
import IntentProvider.Time.Rfc3339

/-!
Types with a form on the wire. A record is read by name, from an object in which members of other
names are passed over and none of its own comes twice, or by position, from an array of at most as
many items as it has fields. Written it is always an object.
-/

namespace IntentProvider.Json

open IntentProvider.Time

/-- A type that is read from documents and written to them. -/
class Wire (α : Type) where
  /-- Reads a tree in which at most so many levels are opened. -/
  read? : Nat → Tree → Option α
  /-- The value to write. -/
  write : α → Value

namespace Wire

/-- Reads a whole document. -/
def ofTree? (α : Type) [Wire α] (t : Tree) : Option α :=
  read? Tree.depthLimit t

/-- Reads a document received as bytes. -/
def ofBytes? (α : Type) [Wire α] (bytes : ByteArray) : Option α :=
  (Tree.ofBytes? bytes).bind (ofTree? α)

/-- Reads a document given as text. -/
def ofText? (α : Type) [Wire α] (s : String) : Option α :=
  (Tree.ofText? s).bind (ofTree? α)

/-- Reads a value. -/
def ofValue? (α : Type) [Wire α] (v : Value) : Option α :=
  ofTree? α (Tree.ofValue v)

/-- The text of what is written. -/
def text {α : Type} [Wire α] (a : α) : String :=
  (write a).text

end Wire

/-- The parts of a record that a document gives, by the names of its fields. -/
abbrev Fields := List (String × Tree)

namespace Fields

/-- Takes the members that are fields. A key that is no text, or a field that comes twice, is
refused. -/
def select? (names : List String) : Fields → List (Option String × Tree) → Option Fields
  | found, [] => some found
  | found, (key, t) :: rest => do
    let k ← key
    if names.contains k then
      if (found.lookup k).isSome then none else select? names (found ++ [(k, t)]) rest
    else select? names found rest

/-- The parts of a record with the given fields, read by name or by position. -/
def read? (names : List String) (depth : Nat) : Tree → Option Fields
  | .object members => if depth = 0 then none else select? names [] members
  | .array items =>
    if depth = 0 || names.length < items.length then none else some (names.zip items)
  | _ => none

/-- A field that must be given. -/
def required {α : Type} [Wire α] (fields : Fields) (depth : Nat) (name : String) : Option α :=
  (fields.lookup name).bind (Wire.read? (depth - 1))

/-- A field that has a value of its own when it is not given. -/
def orDefault {α : Type} [Wire α] (fields : Fields) (depth : Nat) (name : String) (default : α) :
    Option α :=
  match fields.lookup name with
  | some t => Wire.read? (depth - 1) t
  | none => some default

end Fields

/-- The tag of an enumeration: its name, or an object whose one member has that name and is
null. -/
def tag? (depth : Nat) : Tree → Option String
  | .string s => s
  | .object [(key, .null)] => if depth = 0 then none else key
  | _ => none

/-- A member that is written only if it has a value. -/
def optionalMember {α : Type} [Wire α] (name : String) : Option α → List (String × Value)
  | some a => [(name, Wire.write a)]
  | none => []

instance : Wire String where
  read?
    | _, .string s => s
    | _, _ => none
  write := .string

instance : Wire Bool where
  read?
    | _, .bool b => some b
    | _, _ => none
  write := .bool

instance : Wire UInt64 where
  read?
    | _, .number n => n.bind Number.toUInt64?
    | _, _ => none
  write := .ofUInt64

instance : Wire UInt32 where
  read?
    | _, .number n => (n.bind (Number.toNat? (Nat.pow 2 32))).map UInt32.ofNat
    | _, _ => none
  write n := .ofUInt64 n.toUInt64

instance : Wire Value where
  read? := Tree.value?
  write v := v

instance : Wire Document where
  read? depth t := (t.value? depth).bind Value.document?
  write := .ofDocument

instance : Wire Instant where
  read?
    | _, .string s => s.bind fun s => Rfc3339.read? s.toList
    | _, _ => none
  write t := .string t.text

instance {α : Type} [Wire α] : Wire (Option α) where
  read?
    | _, .null => some none
    | depth, t => (Wire.read? depth t).map some
  write
    | some a => Wire.write a
    | none => .null

instance {α : Type} [Wire α] : Wire (List α) where
  read?
    | depth, .array items =>
      if depth = 0 then none else items.mapM (Wire.read? (depth - 1))
    | _, _ => none
  write as := .array (as.map Wire.write)

/-- Reads one entry of a map. -/
def pairing? {α : Type} [Wire α] (depth : Nat) (member : Option String × Tree) :
    Option (String × α) := do
  let key ← member.1
  let a ← Wire.read? depth member.2
  some (key, a)

instance {α : Type} [Wire α] : Wire (SortedMap α) where
  read?
    | depth, .object members =>
      if depth = 0 then none
      else (members.mapM (pairing? (depth - 1))).map SortedMap.ofList
    | _, _ => none
  write m := .object (m.entries.map fun e => (e.1, Wire.write e.2))

/-- A document for which null stands for the empty one. -/
structure LaxDocument where
  document : Document

instance : Wire LaxDocument where
  read?
    | _, .null => some ⟨{}⟩
    | depth, t => (Wire.read? depth t).map LaxDocument.mk
  write d := .ofDocument d.document

end IntentProvider.Json
