import IntentProvider.Http.Host
import IntentProvider.Http.Path

/-!
URLs, read as web clients read them: blanks and control characters at the ends fall away, tabs and
line ends anywhere; dot segments are resolved; what may not stand in a path, a query or a fragment
is percent-encoded, and percent signs are left as they are. Some schemes are made for hosts; with
them and with files a backslash is a slash, and the path has a segment at least. The request target
is the path with the query; the fragment is not sent.
-/

namespace IntentProvider.Http

open IntentProvider.Text

/-- The part of a URL that names the host. -/
structure Authority where
  /-- The name of a user, percent-encoded. -/
  user : List Char := []
  /-- The password of the user, percent-encoded. -/
  password : List Char := []
  host : Host
  /-- The port, if it is not the usual one of the scheme. -/
  port : Option Nat := none
  deriving DecidableEq, Repr

/-- A URL. -/
structure Url where
  scheme : List Char
  authority : Option Authority := none
  path : Path
  query : Option (List Char) := none
  fragment : Option (List Char) := none
  deriving DecidableEq, Repr

/-- What a scheme is for. -/
inductive SchemeUse where
  /-- Resources of hosts, with a usual port. -/
  | hosts (port : Nat)
  | files
  | other
  deriving DecidableEq, Repr

namespace SchemeUse

/-- The use of a scheme. -/
def of (scheme : List Char) : SchemeUse :=
  match String.ofList scheme with
  | "http" => hosts 80
  | "https" => hosts 443
  | "ws" => hosts 80
  | "wss" => hosts 443
  | "ftp" => hosts 21
  | "file" => files
  | _ => other

/-- The usual port. -/
def port? : SchemeUse → Option Nat
  | hosts port => some port
  | _ => none

/-- Whether a backslash is a slash, and hosts are domain names. -/
def isSpecial (u : SchemeUse) : Bool :=
  u != other

end SchemeUse

namespace Authority

/-- What is encoded in the name or the password of a user. -/
def isEncoded (c : Char) : Bool :=
  Path.isEncoded c || ['/', ':', ';', '=', '@', '[', '\\', ']', '^', '|'].contains c

/-- The text up to the last occurrence of a character and the text after it. -/
def splitLast? (c : Char) (cs : List Char) : Option (List Char × List Char) :=
  match cs.reverse.dropWhile (· != c) with
  | [] => none
  | _ :: before => some (before.reverse, (cs.reverse.takeWhile (· != c)).reverse)

/-- The text before the first colon outside brackets, and what begins with that colon. -/
def splitHost (isInside : Bool) : List Char → List Char × List Char
  | [] => ([], [])
  | c :: cs =>
    if c == ':' && !isInside then ([], c :: cs)
    else
      let (host, rest) := splitHost (c == '[' || (isInside && c != ']')) cs
      (c :: host, rest)

/-- A port after its colon and what follows it, which begins with a backslash if there is anything.
The port is none if it is not given or is the usual one. -/
def port? (usual : Option Nat) (cs : List Char) : Option (Option Nat × List Char) := do
  let digits := (cs.drop 1).takeWhile Char.isDigit
  let rest := (cs.drop 1).dropWhile Char.isDigit
  if rest.head?.any (· != '\\') then none
  else if digits.isEmpty then some (none, rest)
  else
    let n ← Radix.read? 10 0x10000 digits
    some (if usual == some n then none else some n, rest)

/-- Reads the part of a URL that names the host, and what follows it up to the next slash. -/
def read? (use : SchemeUse) (cs : List Char) : Option (Authority × List Char) := do
  let (userInfo, rest) :=
    match splitLast? '@' cs with
    | some (userInfo, rest) => (some userInfo, rest)
    | none => (none, cs)
  let (hostText, portText) := splitHost false rest
  let host ← if hostText.isEmpty then some (.name []) else Host.read? use.isSpecial hostText
  let (port, rest) ← port? use.port? portText
  let named := userInfo.getD []
  let authority : Authority :=
    { user := Percent.encode isEncoded (named.takeWhile (· != ':'))
      password := Percent.encode isEncoded ((named.dropWhile (· != ':')).drop 1)
      host, port }
  if hostText.isEmpty && (use.isSpecial || !portText.isEmpty || userInfo.any (· != [':'])) then none
  else some (authority, rest)

/-- The name and the password of the user, if there are any. The name must be encoded text; a
password that is none counts as empty. -/
def credentials? (a : Authority) : Option (List UInt8 × List UInt8) :=
  let isText (bytes : List UInt8) : Bool := (Glyph.text? (Glyph.ofBytes bytes)).isSome
  let user := Percent.decode a.user
  let password := (some (Percent.decode a.password)).filter isText
  if !isText user || (user.isEmpty && password.getD [] == []) then none
  else some (user, password.getD [])

/-- The text of the part. -/
def text (a : Authority) : List Char :=
  a.user ++ (if a.password.isEmpty then [] else ':' :: a.password) ++
    (if a.user.isEmpty && a.password.isEmpty then [] else ['@']) ++ a.host.text ++
    (match a.port with
      | some n => ':' :: (Nat.repr n).toList
      | none => [])

end Authority

namespace Url

/-- A control character of ASCII or the blank. -/
def isControlOrSpace (c : Char) : Bool :=
  c.toNat ≤ 0x20

/-- What is encoded in a fragment. -/
def inFragmentSet (c : Char) : Bool :=
  c.toNat < 0x20 || [' ', '"', '<', '>', Char.ofNat 0x60].contains c

/-- What is encoded in a query. With schemes for hosts it is the apostrophe, too. -/
def inQuerySet (use : SchemeUse) (c : Char) : Bool :=
  c.toNat < 0x20 || [' ', '"', '#', '<', '>'].contains c ||
    (use.isSpecial && c == Char.ofNat 0x27)

/-- A text without what falls away before it is read. -/
def clean (cs : List Char) : List Char :=
  let cs := ((cs.dropWhile isControlOrSpace).reverse.dropWhile isControlOrSpace).reverse
  cs.filter fun c => c != '\t' && c != '\n' && c != '\r'

/-- Whether a character may stand in a scheme after its first letter. -/
def isSchemeChar (c : Char) : Bool :=
  c.isAlphanum || c == '+' || c == '-' || c == '.'

/-- A scheme in lower case and what follows its colon. -/
def scheme? : List Char → Option (List Char × List Char)
  | [] => none
  | c :: cs =>
    match cs.dropWhile isSchemeChar with
    | ':' :: rest =>
      if c.isAlpha then some ((c :: cs.takeWhile isSchemeChar).map Char.toLower, rest) else none
    | _ => none

/-- A slash, which a backslash is with special schemes. -/
def isSlash (use : SchemeUse) (c : Char) : Bool :=
  c == '/' || (use.isSpecial && c == '\\')

/-- Whether a character ends the part of a URL that names the host. -/
def endsAuthority (use : SchemeUse) (c : Char) : Bool :=
  isSlash use c || c == '?' || c == '#'

/-- The text before the query and the fragment, the query and the fragment. -/
def cut (use : SchemeUse) (cs : List Char) :
    List Char × Option (List Char) × Option (List Char) :=
  let before := cs.takeWhile (· != '#')
  (before.takeWhile (· != '?'),
    match before.dropWhile (· != '?') with
    | _ :: q => some (Percent.encode (inQuerySet use) q)
    | [] => none,
    match cs.dropWhile (· != '#') with
    | _ :: f => some (Percent.encode inFragmentSet f)
    | [] => none)

/-- The segments of a path. Without a text there are none, unless the scheme is special. -/
def segmentsOf (use : SchemeUse) (cs : List Char) : List (List Char) :=
  if use.isSpecial then Path.read (cs.map fun c => if c == '\\' then '/' else c)
  else if cs.isEmpty then []
  else Path.read cs

/-- Reads a URL with a host from what follows the slashes after the scheme. -/
def hosted? (scheme : List Char) (use : SchemeUse) (cs : List Char) : Option Url := do
  let (authority, rest) ← Authority.read? use (cs.takeWhile (!endsAuthority use ·))
  let (path, query, fragment) := cut use (rest ++ cs.dropWhile (!endsAuthority use ·))
  some { scheme, authority, path := .segments (segmentsOf use path), query, fragment }

/-- The host of a file and what follows it, from what follows two slashes. A drive letter is no
host, and `localhost` is none. -/
def fileHost? (cs : List Char) : Option (Host × List Char) :=
  let name := cs.takeWhile (!endsAuthority .files ·)
  let rest := cs.dropWhile (!endsAuthority .files ·)
  if Path.isDrive name then some (.name [], cs)
  else if name.isEmpty then some (.name [], rest)
  else (Host.read? true name).map fun host =>
    (if host == .name "localhost".toList then .name [] else host, rest)

/-- Reads the URL of a file from what follows the scheme. There is no host beside a drive letter. -/
def file? (scheme cs : List Char) : Option Url := do
  let (host, rest) ←
    match cs with
    | a :: b :: rest =>
      if isSlash .files a && isSlash .files b then fileHost? rest else some (.name [], cs)
    | _ => some (.name [], cs)
  let (path, query, fragment) := cut .files rest
  let segments := segmentsOf .files path
  let host := if segments.head?.any Path.isDrive then .name [] else host
  some
    { scheme, authority := some { host }, path := .segments (Path.ofFile segments)
      query, fragment }

/-- Reads a URL of any other scheme from what follows it. -/
def other? (scheme cs : List Char) : Option Url :=
  match cs with
  | '/' :: '/' :: rest => hosted? scheme .other rest
  | _ =>
    let (path, query, fragment) := cut .other cs
    let path :=
      if path.head? == some '/' then .segments (segmentsOf .other path)
      else .whole (Percent.encode Host.isControl path)
    some { scheme, path, query, fragment }

/-- Reads a text. -/
def read? (text : String) : Option Url := do
  let (scheme, rest) ← scheme? (clean text.toList)
  match SchemeUse.of scheme with
  | .hosts port => hosted? scheme (.hosts port) (rest.dropWhile (isSlash (.hosts port)))
  | .files => file? scheme rest
  | .other => other? scheme rest

/-- Whether a URL names a host. -/
def hasHost (u : Url) : Bool :=
  u.authority.any fun a => !a.host.isNone

/-- The name and the password of a user, if there are any. -/
def credentials? (u : Url) : Option (List UInt8 × List UInt8) :=
  u.authority.bind Authority.credentials?

/-- A URL without its credentials, if it has any. -/
def withoutCredentials (u : Url) : Url :=
  if u.credentials?.isSome then
    { u with authority := u.authority.map fun a => { a with user := [], password := [] } }
  else u

/-- What comes between the scheme and the path. A path that would be taken for a host is kept apart
by a dot segment. -/
def authorityText (u : Url) : List Char :=
  match u.authority, u.path with
  | some a, _ => '/' :: '/' :: a.text
  | none, .segments ([] :: _ :: _) => ['/', '.']
  | none, _ => []

/-- A query with its mark, if there is one. -/
def queryText (u : Url) : List Char :=
  match u.query with
  | some q => '?' :: q
  | none => []

/-- A fragment with its mark, if there is one. -/
def fragmentText (u : Url) : List Char :=
  match u.fragment with
  | some f => '#' :: f
  | none => []

/-- What a request for a URL asks for. -/
def target (u : Url) : String :=
  String.ofList (u.path.text ++ u.queryText)

/-- The characters of a URL. -/
def chars (u : Url) : List Char :=
  u.scheme ++ ':' :: (u.authorityText ++ u.path.text ++ u.queryText ++ u.fragmentText)

/-- The text of a URL. -/
def text (u : Url) : String :=
  String.ofList u.chars

/-- Whether a character may stand in a URL, but not in the host of a request. -/
def isUnsendable (c : Char) : Bool :=
  ['"', Char.ofNat 0x60, '\x7b', '\x7d'].contains c

/-- Whether requests can be sent to a URL: its scheme is one of HTTP, its host has no character that
requests do not, and it is not longer than 65534 characters. -/
def isSendable (u : Url) : Bool :=
  (u.scheme == ['h', 't', 't', 'p'] || u.scheme == ['h', 't', 't', 'p', 's']) &&
    !u.authority.any (·.host.text.any isUnsendable) && u.chars.length ≤ 65534

end Url

end IntentProvider.Http
