import IntentProvider.Config.Basic
import IntentProvider.Toml.Document
import IntentProvider.Text.Glyph

/-!
Settings as text. They are the keys at the top of a TOML document; other keys are passed over, and a
key that is not given has its usual value.
-/

namespace IntentProvider

open IntentProvider.Text
open IntentProvider.Toml

namespace Config

/-- A setting that is a text. -/
def string? (entries : Entries) (key default : String) : Option String :=
  match entries.lookup key with
  | none => some default
  | some (.string s) => some s
  | some _ => none

/-- A setting that is a natural number below a limit. -/
def nat? (entries : Entries) (key : String) (limit default : Nat) : Option Nat :=
  match entries.lookup key with
  | none => some default
  | some (.integer n) => if 0 ≤ n ∧ n < limit then some n.toNat else none
  | some _ => none

/-- A setting that is a truth value. -/
def bool? (entries : Entries) (key : String) (default : Bool) : Option Bool :=
  match entries.lookup key with
  | none => some default
  | some (.boolean b) => some b
  | some _ => none

/-- The settings in a document. -/
def ofEntries? (entries : Entries) : Option Config := do
  let usual : Config := {}
  let engineUrl ← string? entries "engine_url" usual.engineUrl
  let key ← string? entries "s2s_key" usual.key
  let publicHost ← string? entries "public_host" usual.publicHost
  let publicPort ← nat? entries "public_port" (Nat.pow 2 16) usual.publicPort.toNat
  let bindHost ← string? entries "bind_host" ""
  let requestTimeout ← nat? entries "request_timeout_secs" (Nat.pow 2 64) usual.requestTimeout.toNat
  let shutdownTimeout ←
    nat? entries "shutdown_timeout_secs" (Nat.pow 2 64) usual.shutdownTimeout.toNat
  let bodyLimit ← nat? entries "body_limit_bytes" (Nat.pow 2 64) usual.bodyLimit.toNat
  let allowExtraProps ← bool? entries "allow_extra_props" usual.allowExtraProps
  some
    { engineUrl, key, publicHost, allowExtraProps
      publicPort := UInt16.ofNat publicPort
      bindHost := (entries.lookup "bind_host").map fun _ => bindHost
      requestTimeout := UInt64.ofNat requestTimeout
      shutdownTimeout := UInt64.ofNat shutdownTimeout
      bodyLimit := UInt64.ofNat bodyLimit }

/-- What is said about a text that holds no settings. -/
def unreadableText : String := "not the settings of a provider"

/-- The settings in a text, if they have no fault. -/
def ofText (text : String) : Except Failure Config :=
  match (Toml.read? text).bind ofEntries? with
  | none => .error (.toml unreadableText)
  | some c => c.validate.map fun _ => c

/-- The settings in the content of a file, or the reason why the file has none. -/
def ofFile (path : String) (content : Except String ByteArray) : Except Failure Config :=
  match content with
  | .error reason => .error (.config (.unreadable path reason))
  | .ok bytes =>
    match Glyph.text? (Glyph.ofBytes bytes.toList) with
    | none => .error (.config (.unreadable path "stream did not contain valid UTF-8"))
    | some cs => ofText (String.ofList cs)

end Config

end IntentProvider
