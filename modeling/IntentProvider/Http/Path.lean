import IntentProvider.Text.Percent
import IntentProvider.Text.Split

/-!
Paths of URLs. A path is a sequence of segments, each after a slash, in which segments of dots are
resolved: one dot stands for the place where it is, two for the place above. There is no place above
the root, nor above a drive letter.
-/

namespace IntentProvider.Http

open IntentProvider.Text

/-- A path. -/
inductive Path where
  | segments (segments : List (List Char))
  /-- A text that is no sequence of segments. -/
  | whole (text : List Char)
  deriving DecidableEq, Repr

namespace Path

/-- What is encoded in a path, and in a fragment but for the last four. -/
def isEncoded (c : Char) : Bool :=
  c.toNat < 0x20 || [' ', '"', '<', '>', Char.ofNat 0x60, '#', '?', '\x7b', '\x7d'].contains c

/-- Whether a segment stands for the place where it is. -/
def isSingleDot (s : List Char) : Bool :=
  let s := s.map Char.toLower
  s == ['.'] || s == ['%', '2', 'e']

/-- Whether a segment stands for the place above. -/
def isDoubleDot (s : List Char) : Bool :=
  let s := s.map Char.toLower
  s == ['.', '.'] || s == ['.', '%', '2', 'e'] || s == ['%', '2', 'e', '.'] ||
    s == ['%', '2', 'e', '%', '2', 'e']

/-- Whether a text begins with a drive letter, after which there is nothing or a backslash. -/
def beginsWithDrive : List Char → Bool
  | a :: b :: rest =>
    a.isAlpha && (b == ':' || b == '|') && (rest.isEmpty || rest.head? == some '\\')
  | _ => false

/-- Whether a text is a drive letter. -/
def isDrive (s : List Char) : Bool :=
  s.length == 2 && beginsWithDrive s

/-- The place above a path. -/
def above (path : List (List Char)) : List (List Char) :=
  if path.getLast?.any beginsWithDrive then path else path.dropLast

/-- Appends segments to a path, resolving those that consist of dots. -/
def walk (path : List (List Char)) : List (List Char) → List (List Char)
  | [] => path
  | [s] =>
    if isDoubleDot s then above path ++ [[]]
    else if isSingleDot s then path ++ [[]]
    else path ++ [Percent.encode isEncoded s]
  | s :: rest =>
    if isDoubleDot s then walk (above path) rest
    else if isSingleDot s then walk path rest
    else walk (path ++ [Percent.encode isEncoded s]) rest

/-- The segments of a text, which may begin with a slash. -/
def read (cs : List Char) : List (List Char) :=
  walk [] (splitAt '/' (if cs.head? == some '/' then cs.drop 1 else cs))

/-- The segments of the path of a file. Empty segments in front fall away, and a colon follows a
drive letter that comes first. -/
def ofFile (segments : List (List Char)) : List (List Char) :=
  let segments :=
    match segments with
    | s :: rest => (if isDrive s then s.take 1 ++ [':'] else s) :: rest
    | [] => []
  match segments.dropWhile List.isEmpty with
  | [] => [[]]
  | rest => rest

/-- The text of a path. -/
def text : Path → List Char
  | segments ss => ss.flatMap fun s => '/' :: s
  | whole cs => cs

example : walk [] [['C', ':'], ['.', '.'], ['a']] = [['C', ':'], ['a']] := by decide

example : walk [] [['C', 'C', ':'], ['.', '.'], ['a']] = [['a']] := by decide

end Path

end IntentProvider.Http
