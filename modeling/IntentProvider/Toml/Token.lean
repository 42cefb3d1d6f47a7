import IntentProvider.Text.Radix

/-!
The tokens of TOML documents: blanks, comments, keys, strings, numbers, dates and times. Every
reader takes a text and gives what it has read with the rest, or nothing if the text starts
otherwise.
-/

namespace IntentProvider.Toml

open IntentProvider.Text

/-- A blank within a line. -/
def isSpace (c : Char) : Bool :=
  c == ' ' || c == '\t'

/-- A character that may stand in a comment, and in a string apart from its delimiters. -/
def isPlain (c : Char) : Bool :=
  c == '\t' || (0x20 ≤ c.toNat && c.toNat != 0x7F)

/-- A decimal digit. -/
def isDigit (c : Char) : Bool :=
  '0' ≤ c && c ≤ '9'

/-- Passes over blanks within a line. -/
def skipSpaces (cs : List Char) : List Char :=
  cs.dropWhile isSpace

/-- Passes over the end of a line. -/
def newline? : List Char → Option (List Char)
  | '\n' :: rest => some rest
  | '\r' :: '\n' :: rest => some rest
  | _ => none

/-- Passes over a comment, if one comes next. -/
def skipComment : List Char → List Char
  | '#' :: rest => rest.dropWhile isPlain
  | rest => rest

/-- Passes over the end of a line or of the document, with blanks and a comment before it. -/
def lineEnd? (cs : List Char) : Option (List Char) :=
  match skipComment (skipSpaces cs) with
  | [] => some []
  | rest => newline? rest

/-- Passes over blanks, comments and ends of lines. Every comment must end with its line. -/
def skipLines? : Nat → List Char → Option (List Char)
  | 0, _ => none
  | fuel + 1, cs =>
    match skipSpaces cs with
    | '#' :: rest => (newline? (rest.dropWhile isPlain)).bind (skipLines? fuel)
    | '\n' :: rest => skipLines? fuel rest
    | '\r' :: rest => (newline? ('\r' :: rest)).bind (skipLines? fuel)
    | rest => some rest

/-- The character with the number that hexadecimal digits spell. -/
def scalar? (digits : List Char) : Option Char := do
  let n ← Radix.continue? 16 0x110000 0 digits
  if n.isValidChar then some (Char.ofNat n) else none

/-- The character that an escape stands for, after its backslash. -/
def escape? : List Char → Option (Char × List Char)
  | 'b' :: rest => some (Char.ofNat 8, rest)
  | 't' :: rest => some ('\t', rest)
  | 'n' :: rest => some ('\n', rest)
  | 'f' :: rest => some (Char.ofNat 12, rest)
  | 'r' :: rest => some ('\r', rest)
  | '"' :: rest => some ('"', rest)
  | '\\' :: rest => some ('\\', rest)
  | 'u' :: rest =>
    if rest.length < 4 then none else (scalar? (rest.take 4)).map fun c => (c, rest.drop 4)
  | 'U' :: rest =>
    if rest.length < 8 then none else (scalar? (rest.take 8)).map fun c => (c, rest.drop 8)
  | _ => none

/-- The rest of a string in quotation marks, after those characters in `done`, last first. -/
def basic? : Nat → List Char → List Char → Option (String × List Char)
  | 0, _, _ => none
  | fuel + 1, done, cs =>
    match cs with
    | '"' :: rest => some (String.ofList done.reverse, rest)
    | '\\' :: rest => (escape? rest).bind fun (c, rest) => basic? fuel (c :: done) rest
    | c :: rest => if isPlain c then basic? fuel (c :: done) rest else none
    | [] => none

/-- The rest of a string in apostrophes. -/
def literal? (cs : List Char) : Option (String × List Char) :=
  match cs.dropWhile fun c => isPlain c && c != Char.ofNat 0x27 with
  | c :: rest =>
    if c = Char.ofNat 0x27 then
      some (String.ofList (cs.takeWhile fun c => isPlain c && c != Char.ofNat 0x27), rest)
    else none
  | [] => none

/-- What follows a backslash that ends a line: the blanks and lines after it are passed over. -/
def continuation? (cs : List Char) : Option (List Char) :=
  (newline? (skipSpaces cs)).map blanks
where
  /-- Passes over blanks and ends of lines. -/
  blanks : List Char → List Char
    | [] => []
    | c :: rest =>
      if isSpace c || c == '\n' then blanks rest
      else if c == '\r' then
        match rest with
        | '\n' :: rest => blanks rest
        | _ => c :: rest
      else c :: rest

/-- The marks at the start of a text, of which at most five are taken. -/
def marks (mark : Char) (cs : List Char) : Nat :=
  ((cs.take 5).takeWhile (· == mark)).length

/-- The rest of a string between three marks each, in which lines may end. `escapes` says whether a
backslash has a meaning. Up to two marks may stand anywhere, also before the closing ones. -/
def multiline? (mark : Char) (escapes : Bool) :
    Nat → List Char → List Char → Option (String × List Char)
  | 0, _, _ => none
  | fuel + 1, done, cs =>
    match cs with
    | [] => none
    | c :: rest =>
      if c = mark then
        let n := marks mark cs
        if n < 3 then multiline? mark escapes fuel (c :: done) rest
        else some (String.ofList (List.replicate (n - 3) mark ++ done).reverse, cs.drop n)
      else if escapes && c == '\\' then
        match continuation? rest with
        | some rest => multiline? mark escapes fuel done rest
        | none =>
          (escape? rest).bind fun (c, rest) => multiline? mark escapes fuel (c :: done) rest
      else if isPlain c then multiline? mark escapes fuel (c :: done) rest
      else (newline? cs).bind fun rest => multiline? mark escapes fuel ('\n' :: done) rest

/-- The text after the end of a line at its start. -/
def dropNewline (cs : List Char) : List Char :=
  (newline? cs).getD cs

/-- A string of any of the four forms. -/
def string? : List Char → Option (String × List Char)
  | '"' :: '"' :: '"' :: rest => multiline? '"' true (rest.length + 1) [] (dropNewline rest)
  | '"' :: rest => basic? (rest.length + 1) [] rest
  | a :: b :: c :: rest =>
    if [a, b, c].all (· == Char.ofNat 0x27) then
      multiline? (Char.ofNat 0x27) false (rest.length + 1) [] (dropNewline rest)
    else if a = Char.ofNat 0x27 then literal? (b :: c :: rest)
    else none
  | a :: rest => if a = Char.ofNat 0x27 then literal? rest else none
  | [] => none

/-- A character of a key without quotation marks. -/
def isKeyChar (c : Char) : Bool :=
  c.isAlphanum || c == '-' || c == '_'

/-- One part of a key. -/
def simpleKey? : List Char → Option (String × List Char)
  | '"' :: rest => basic? (rest.length + 1) [] rest
  | c :: rest =>
    if c = Char.ofNat 0x27 then literal? rest
    else if isKeyChar c then
      some (String.ofList (c :: rest.takeWhile isKeyChar), rest.dropWhile isKeyChar)
    else none
  | [] => none

/-- The parts of a key, with points and blanks between them. -/
def keyParts? : Nat → List Char → Option (List String × List Char)
  | 0, _ => none
  | fuel + 1, cs => do
    let (part, rest) ← simpleKey? (skipSpaces cs)
    match skipSpaces rest with
    | '.' :: rest =>
      let (parts, rest) ← keyParts? fuel rest
      some (part :: parts, rest)
    | rest => some ([part], rest)

/-- How deep the parts of a key, and values within values, may go. -/
def depthLimit : Nat := 80

/-- A key: the path to a table, and the last part. -/
def key? (cs : List Char) : Option (List String × String × List Char) := do
  let (parts, rest) ← keyParts? (cs.length + 1) cs
  let last ← parts.getLast?
  if depthLimit ≤ parts.length then none else some (parts.dropLast, last, rest)

/-- The digits of a number without the underscores, each of which stands between two digits. -/
def digits? (isDigit : Char → Bool) : List Char → Option (List Char × List Char)
  | [] => none
  | c :: rest =>
    if isDigit c then
      match rest with
      | '_' :: rest => (digits? isDigit rest).map fun (ds, rest) => (c :: ds, rest)
      | rest =>
        match digits? isDigit rest with
        | some (ds, rest) => some (c :: ds, rest)
        | none =>
          match rest with
          | d :: _ => if isDigit d then none else some ([c], rest)
          | [] => some ([c], [])
    else none

/-- Whether a number is negative, and the text after its sign. -/
def sign : List Char → Bool × List Char
  | '-' :: rest => (true, rest)
  | '+' :: rest => (false, rest)
  | rest => (false, rest)

/-- The digits of a whole number, which start with a zero only if that is all. -/
def whole? : List Char → Option (List Char × List Char)
  | '0' :: rest => some (['0'], rest)
  | rest => digits? isDigit rest

/-- An integer in a base other than ten. -/
def based? (base : Nat) (cs : List Char) : Option (Int × List Char) := do
  let (ds, rest) ← digits? (fun c => (Radix.digit? base c).isSome) cs
  let n ← Radix.continue? base (Nat.pow 2 63) 0 ds
  some ((n : Int), rest)

/-- An integer of 64 bits. -/
def integer? : List Char → Option (Int × List Char)
  | '0' :: 'x' :: rest => based? 16 rest
  | '0' :: 'o' :: rest => based? 8 rest
  | '0' :: 'b' :: rest => based? 2 rest
  | cs => do
    let (negative, rest) := sign cs
    let (ds, rest) ← whole? rest
    let n ← Radix.continue? 10 (if negative then Nat.pow 2 63 + 1 else Nat.pow 2 63) 0 ds
    some (if negative then -(n : Int) else (n : Int), rest)

/-- The digits after the point of a number, if it has one. -/
def fraction? : List Char → Option (List Char × List Char)
  | '.' :: rest => digits? isDigit rest
  | rest => some ([], rest)

/-- The exponent of a number, if it has one. -/
def exponent? (cs : List Char) : Option (Option Int × List Char) :=
  match cs with
  | c :: rest =>
    if c == 'e' || c == 'E' then do
      let (negative, rest) := sign rest
      let (ds, rest) ← digits? isDigit rest
      let n : Int := (ds.foldl (fun n d => n * 10 + (d.toNat - 48)) 0 : Nat)
      some (some (if negative then -n else n), rest)
    else some (none, cs)
  | [] => some (none, [])

/-- Whether `m * 10 ^ e` is beyond the largest double, so that it would be rounded to infinity. -/
def overflows (m : Nat) (e : Int) : Bool :=
  let least := Nat.pow 2 1024 - Nat.pow 2 970
  if m = 0 then false
  else if 0 ≤ e then 400 < e || least ≤ m * Nat.pow 10 e.toNat
  else
    let digits := (Nat.toDigits 10 m).length
    if digits ≤ e.natAbs then false else least * Nat.pow 10 e.natAbs ≤ m

/-- A number with a point or an exponent, or one that is infinite or none. A positive one must not
be beyond the largest double. -/
def float? (cs : List Char) : Option (String × List Char) := do
  let (negative, rest) := sign cs
  match rest with
  | 'i' :: 'n' :: 'f' :: rest => some (String.ofList (cs.take (cs.length - rest.length)), rest)
  | 'n' :: 'a' :: 'n' :: rest => some (String.ofList (cs.take (cs.length - rest.length)), rest)
  | rest => do
    let (whole, rest) ← whole? rest
    let (fraction, afterFraction) ← fraction? rest
    let (exponent, rest) ← exponent? afterFraction
    if fraction.isEmpty && exponent.isNone then none
    else
      let m := (whole ++ fraction).foldl (fun n d => n * 10 + (d.toNat - 48)) 0
      if !negative && overflows m (exponent.getD 0 - fraction.length) then none
      else some (String.ofList (cs.take (cs.length - rest.length)), rest)

/-- A number of exactly so many digits, within bounds. -/
def field? (width least greatest : Nat) (cs : List Char) : Option (Nat × List Char) := do
  let ds := cs.take width
  if ds.length = width && ds.all isDigit then
    let n := ds.foldl (fun n d => n * 10 + (d.toNat - 48)) 0
    if least ≤ n && n ≤ greatest then some (n, cs.drop width) else none
  else none

/-- The text after a character. -/
def after? (c : Char) : List Char → Option (List Char)
  | d :: rest => if d = c then some rest else none
  | [] => none

/-- The number of days of a month. -/
def daysIn (year month : Nat) : Nat :=
  if month = 2 then
    if year % 4 = 0 && (year % 100 != 0 || year % 400 = 0) then 29 else 28
  else if month = 4 || month = 6 || month = 9 || month = 11 then 30
  else 31

/-- Passes over a date. -/
def date? (cs : List Char) : Option (List Char) := do
  let (year, rest) ← field? 4 0 9999 cs
  let (month, rest) ← field? 2 1 12 (← after? '-' rest)
  let (_, rest) ← field? 2 1 (daysIn year month) (← after? '-' rest)
  some rest

/-- Passes over the fraction of a second, if one comes next. -/
def secondFraction? : List Char → Option (List Char)
  | '.' :: rest =>
    let ds := rest.takeWhile isDigit
    if ds.isEmpty then none else some (rest.dropWhile isDigit)
  | rest => some rest

/-- Passes over a time of day. -/
def time? (cs : List Char) : Option (List Char) := do
  let (_, rest) ← field? 2 0 23 cs
  let (_, rest) ← field? 2 0 59 (← after? ':' rest)
  let (_, rest) ← field? 2 0 60 (← after? ':' rest)
  secondFraction? rest

/-- Passes over an offset, if one comes next. -/
def skipOffset? : List Char → Option (List Char)
  | 'Z' :: rest => some rest
  | 'z' :: rest => some rest
  | c :: rest =>
    if c == '+' || c == '-' then do
      let (_, rest) ← field? 2 0 23 rest
      let (_, rest) ← field? 2 0 59 (← after? ':' rest)
      some rest
    else some (c :: rest)
  | [] => some []

/-- Passes over what follows a date: a time, possibly with an offset, if one comes next. -/
def skipTime? (cs : List Char) : Option (List Char) :=
  match cs with
  | c :: rest =>
    if c == 'T' || c == 't' || c == ' ' then
      match time? rest with
      | some rest => skipOffset? rest
      | none => some cs
    else some cs
  | [] => some []

/-- A date, a time, or both. -/
def moment? (cs : List Char) : Option (String × List Char) := do
  let rest ← (date? cs).elim (time? cs) skipTime?
  some (String.ofList (cs.take (cs.length - rest.length)), rest)

end IntentProvider.Toml
