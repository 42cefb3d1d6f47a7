import IntentProvider.Map.Ordered

/-!
The tree of a TOML document. Tables remember how they came about, because that decides what may
still be added to them: a table is declared once, and a table within a value is complete.
-/

namespace IntentProvider.Toml

/-- How a table came about. -/
inductive Origin where
  /-- By a header of its own. -/
  | declared
  /-- On the way to the table of another header. -/
  | passed
  /-- On the way to the last part of a dotted key. -/
  | dotted
  /-- As a value in braces. -/
  | inline
  deriving DecidableEq, Repr

/-- A value in a document. Numbers that are no integers, and dates and times, keep their text. -/
inductive Node where
  | string (s : String)
  | integer (n : Int)
  | boolean (b : Bool)
  | float (text : String)
  | moment (text : String)
  | array (items : List Node)
  | table (origin : Origin) (entries : List (String × Node))
  /-- Tables declared by headers in double brackets. -/
  | tables (items : List Node)
  deriving Inhabited

/-- The keys of a table with their values. -/
abbrev Entries := List (String × Node)

/-- Changes the table that a path leads to, making the tables that are missing. A dotted key does
not lead into a declared table, and nothing leads into a value. Of several tables the last one
counts. -/
def descend? (byDots : Bool) (change : Origin → Entries → Option Entries) :
    List String → Origin → Entries → Option Entries
  | [], origin, entries => change origin entries
  | key :: path, _, entries =>
    match entries.lookup key with
    | none => do
      let origin := if byDots then .dotted else .passed
      let inner ← descend? byDots change path origin []
      some (entries ++ [(key, .table origin inner)])
    | some (.table origin inner) =>
      if origin = .inline || (byDots && origin = .declared) then none
      else do
        let inner ← descend? byDots change path origin inner
        some (putEntry key (.table origin inner) entries)
    | some (.tables items) =>
      match items.getLast? with
      | some (.table origin inner) => do
        let inner ← descend? byDots change path origin inner
        some (putEntry key (.tables (items.dropLast ++ [.table origin inner])) entries)
      | _ => none
    | some _ => none

/-- Adds a value under a dotted key to a table. A table made by dotted keys takes no others, and no
key comes twice. -/
def insert? (path : List String) (key : String) (value : Node) (entries : Entries) :
    Option Entries :=
  descend? true
    (fun origin entries =>
      if (origin = .dotted) = path.isEmpty || (entries.lookup key).isSome then none
      else some (entries ++ [(key, value)]))
    path .declared entries

/-- Declares the table at a path. -/
def declare? (path : List String) (key : String) (entries : Entries) : Option Entries :=
  descend? false
    (fun _ entries =>
      match entries.lookup key with
      | none => some (entries ++ [(key, .table .declared [])])
      | some (.table .passed inner) => some (putEntry key (.table .declared inner) entries)
      | some _ => none)
    path .declared entries

/-- Declares one more table in the array of tables at a path. -/
def append? (path : List String) (key : String) (entries : Entries) : Option Entries :=
  descend? false
    (fun _ entries =>
      match entries.lookup key with
      | none => some (entries ++ [(key, .tables [.table .declared []])])
      | some (.tables items) =>
        some (putEntry key (.tables (items ++ [.table .declared []])) entries)
      | some _ => none)
    path .declared entries

/-- Adds a value under a dotted key to the table that a header has declared. -/
def insertAt? (header path : List String) (key : String) (value : Node) (entries : Entries) :
    Option Entries :=
  descend? false (fun _ entries => insert? path key value entries) header .declared entries

end IntentProvider.Toml
