import IntentProvider.Http.Headers
import IntentProvider.Text.Blank
import IntentProvider.Text.Radix
import IntentProvider.Text.Split

/-!
Contexts of distributed tracing. A context is read from a `traceparent` header or else from an
`uber-trace-id` header, and is passed on in a `traceparent` header. Identifiers that have to be
drawn are given from outside.
-/

namespace IntentProvider.Trace

open IntentProvider.Http
open IntentProvider.Text

/-- The identity of a unit of work within a trace. -/
structure Context where
  traceId : BitVec 128
  spanId : BitVec 64
  parentSpanId : Option (BitVec 64)
  sampled : Bool
  deriving DecidableEq, Repr

/-- Numbers drawn for a new context. -/
structure Draw where
  trace : BitVec 128
  span : BitVec 64

/-- The span that a drawn number gives. It is odd, so never zero. -/
def Draw.spanId (d : Draw) : BitVec 64 :=
  d.span ||| 1

/-- The name of the header in which contexts are passed on. -/
def traceparentName : String := "traceparent"

/-- The name of the header that is read if there is no readable `traceparent`. -/
def uberTraceIdName : String := "uber-trace-id"

namespace Context

/-- The first context of a new trace. -/
def root (d : Draw) : Context where
  traceId := d.trace
  spanId := d.spanId
  parentSpanId := none
  sampled := true

/-- A new span of the same trace, whose parent is this one. -/
def child (c : Context) (d : Draw) : Context where
  traceId := c.traceId
  spanId := d.spanId
  parentSpanId := some c.spanId
  sampled := c.sampled

/-- Sixteen hexadecimal digits of a span. -/
def spanHex (n : BitVec 64) : List Char :=
  Radix.padded 16 16 n.toNat

/-- Thirty-two hexadecimal digits of a trace. -/
def traceHex (n : BitVec 128) : List Char :=
  Radix.padded 16 32 n.toNat

/-- The text of the trace. -/
def traceText (c : Context) : String :=
  String.ofList (traceHex c.traceId)

/-- The text of the span. -/
def spanText (c : Context) : String :=
  String.ofList (spanHex c.spanId)

/-- The text of the span that caused this one. -/
def parentText (c : Context) : Option String :=
  c.parentSpanId.map fun n => String.ofList (spanHex n)

/-- The value of a `traceparent` header that names this span as the parent. -/
def traceparent (c : Context) : String :=
  String.ofList (['0', '0', '-'] ++ traceHex c.traceId ++ '-' :: spanHex c.spanId ++
    ['-', '0', if c.sampled then '1' else '0'])

/-- A hexadecimal number of at most so many bits. -/
def hex? (bits : Nat) (cs : List Char) : Option (BitVec bits) :=
  (Radix.read? 16 (Nat.pow 2 bits) cs).map (BitVec.ofNat bits)

/-- The context with the given identifiers, of which the trace and the span must not be zero. The
lowest bit of the flags says whether the trace is sampled. -/
def ofIds? (trace : BitVec 128) (span : BitVec 64) (parent : Option (BitVec 64))
    (flags : BitVec 8) : Option Context :=
  if trace = 0 ∨ span = 0 then none else some ⟨trace, span, parent, flags.getLsbD 0⟩

/-- Reads the value of a `traceparent` header. -/
def ofTraceparent? (value : List Char) : Option Context :=
  match splitAt '-' (trim value) with
  | version :: trace :: span :: flags :: _ => do
    if version.length ≠ 2 || version.map Char.toLower = ['f', 'f'] then none
    if trace.length ≠ 32 || span.length ≠ 16 || flags.length ≠ 2 then none
    let trace ← hex? 128 trace
    let span ← hex? 64 span
    let flags ← hex? 8 flags
    ofIds? trace span none flags
  | _ => none

/-- Reads the value of an `uber-trace-id` header. A parent of zero is none. -/
def ofUberTraceId? (value : List Char) : Option Context :=
  match splitAt ':' (trim value) with
  | [trace, span, parent, flags] => do
    if 32 < trace.length || 16 < span.length then none
    let trace ← hex? 128 trace
    let span ← hex? 64 span
    let parent ← hex? 64 parent
    let flags ← hex? 8 flags
    ofIds? trace span (if parent = 0 then none else some parent) flags
  | _ => none

/-- The context that a message carries. -/
def ofHeaders? (h : Headers) : Option Context :=
  ((h.text? traceparentName).bind fun v => ofTraceparent? v.toList).or
    ((h.text? uberTraceIdName).bind fun v => ofUberTraceId? v.toList)

/-- The context of the work that a message causes: a child of the context that it carries, or the
root of a new trace. -/
def following (h : Headers) (d : Draw) : Context :=
  match ofHeaders? h with
  | some parent => parent.child d
  | none => root d

/-- Passes a context on in the headers of a message. -/
def inject (c : Context) (h : Headers) : Headers :=
  h.set traceparentName c.traceparent

end Context

end IntentProvider.Trace
