import IntentProvider.Proofs.Text.Radix
import IntentProvider.Proofs.Text.Split
import IntentProvider.Trace.Context
import Mathlib.Data.List.Chain

/-!
A context that is passed on in the headers of a message is read back from them, whatever the headers
said before. So along a chain of calls, each of which is made with the context of the call before
it, the trace stays the same and every span has the one before it as its parent.
-/

namespace IntentProvider.Trace

open IntentProvider.Http
open IntentProvider.Text

namespace Context

theorem trim_of_forall {cs : List Char} (h : ∀ c ∈ cs, isBlank c = false) : trim cs = cs := by
  have hfront (ds : List Char) (hds : ∀ c ∈ ds, isBlank c = false) : ds.dropWhile isBlank = ds := by
    cases ds with
    | nil => rfl
    | cons d rest => exact List.dropWhile_cons_of_neg (by simp [hds d])
  rw [trim, trimStart, hfront cs h, trimEnd, hfront cs.reverse (by simpa using h),
    List.reverse_reverse]

def flagHex (sampled : Bool) : List Char :=
  ['0', if sampled then '1' else '0']

theorem toList_traceparent (c : Context) :
    c.traceparent.toList =
      ['0', '0'] ++
        [traceHex c.traceId, spanHex c.spanId, flagHex c.sampled].flatMap ('-' :: ·) := by
  rw [traceparent, String.toList_ofList]
  simp [flagHex]

theorem hex?_padded {bits width : Nat} (n : BitVec bits) (hpos : width ≠ 0)
    (hwidth : Nat.pow 2 bits ≤ Nat.pow 16 width) :
    hex? bits (Radix.padded 16 width n.toNat) = some n := by
  have hn : n.toNat < Nat.pow 2 bits := n.isLt
  rw [hex?, Radix.read?_padded hpos (Nat.lt_of_lt_of_le hn hwidth) hn, Option.map_some,
    BitVec.ofNat_toNat, BitVec.setWidth_eq]

theorem hex?_flagHex (sampled : Bool) :
    hex? 8 (flagHex sampled) = some (if sampled then 1#8 else 0#8) := by
  cases sampled <;> decide

/-- A character that a header may have, but not at an end and not between the fields of one. -/
def isPlain (d : Char) : Bool :=
  !isBlank d && d != '-' && Headers.isReadable d

theorem isPlain_of_mem_fields {c : Context} {field : List Char}
    (h : field ∈ [['0', '0'], traceHex c.traceId, spanHex c.spanId, flagHex c.sampled]) :
    ∀ d ∈ field, isPlain d = true := by
  have hdigit : ∀ d < 16, isPlain (Radix.digitChar d) = true := by decide
  have hflag : ∀ sampled, (flagHex sampled).all isPlain = true := by decide
  have hpadded (width n : Nat) : ∀ d ∈ Radix.padded 16 width n, isPlain d = true :=
    Radix.forall_mem_padded (by decide) hdigit
  simp only [List.mem_cons, List.not_mem_nil, or_false] at h
  rcases h with h | h | h | h
  · have hversion : ['0', '0'].all isPlain = true := by decide
    rw [h]
    exact List.all_eq_true.mp hversion
  · rw [h]
    exact hpadded 32 c.traceId.toNat
  · rw [h]
    exact hpadded 16 c.spanId.toNat
  · rw [h]
    exact List.all_eq_true.mp (hflag c.sampled)

theorem mem_traceparent {c : Context} {d : Char} (h : d ∈ c.traceparent.toList) :
    d = '-' ∨ isPlain d = true := by
  rw [toList_traceparent] at h
  rcases List.mem_append.mp h with h | h
  · exact .inr (isPlain_of_mem_fields (c := c) List.mem_cons_self d h)
  · obtain ⟨field, hfield, h⟩ := List.mem_flatMap.mp h
    exact (List.mem_cons.mp h).imp_right
      (isPlain_of_mem_fields (List.mem_cons_of_mem _ hfield) d)

theorem isBlank_of_mem_traceparent {c : Context} {d : Char} (h : d ∈ c.traceparent.toList) :
    isBlank d = false := by
  rcases mem_traceparent h with rfl | h
  · decide
  · simp_all [isPlain]

theorem isReadable_of_mem_traceparent {c : Context} {d : Char} (h : d ∈ c.traceparent.toList) :
    Headers.isReadable d = true := by
  rcases mem_traceparent h with rfl | h
  · decide
  · exact (Bool.and_eq_true_iff.mp h).2

theorem splitAt_traceparent (c : Context) :
    splitAt '-' (trim c.traceparent.toList) =
      [['0', '0'], traceHex c.traceId, spanHex c.spanId, flagHex c.sampled] := by
  rw [trim_of_forall fun d hd => isBlank_of_mem_traceparent hd, toList_traceparent]
  refine splitAt_join fun field hfield hdash => ?_
  exact absurd (isPlain_of_mem_fields hfield '-' hdash) (by decide)

theorem ofIds?_eq_some_iff {trace : BitVec 128} {span : BitVec 64} {parent : Option (BitVec 64)}
    {flags : BitVec 8} {c : Context} :
    ofIds? trace span parent flags = some c ↔
      (trace ≠ 0 ∧ span ≠ 0) ∧ c = ⟨trace, span, parent, flags.getLsbD 0⟩ := by
  rw [ofIds?, Option.ite_none_left_eq_some, not_or, Option.some.injEq]
  exact and_congr_right' eq_comm

theorem ofTraceparent?_traceparent {c : Context} (htrace : c.traceId ≠ 0) (hspan : c.spanId ≠ 0) :
    ofTraceparent? c.traceparent.toList = some { c with parentSpanId := none } := by
  have htraceLength : (traceHex c.traceId).length = 32 := Radix.padded_length 16 32 _
  have hspanLength : (spanHex c.spanId).length = 16 := Radix.padded_length 16 16 _
  have htraceRead : hex? 128 (traceHex c.traceId) = some c.traceId :=
    hex?_padded c.traceId (by decide) (by decide)
  have hspanRead : hex? 64 (spanHex c.spanId) = some c.spanId :=
    hex?_padded c.spanId (by decide) (by decide)
  have hflagLength : (flagHex c.sampled).length = 2 := rfl
  have hflag : (if c.sampled then 1#8 else 0#8)[0] = c.sampled := by
    cases c.sampled <;> simp
  rw [ofTraceparent?, splitAt_traceparent]
  simpa [htraceLength, hspanLength, hflagLength, htraceRead, hspanRead, hex?_flagHex,
    ofIds?_eq_some_iff, hflag] using And.intro htrace hspan

theorem text?_inject (c : Context) (h : Headers) :
    (c.inject h).text? traceparentName = some c.traceparent := by
  have hreadable : c.traceparent.toList.all Headers.isReadable = true :=
    List.all_eq_true.mpr fun d hd => isReadable_of_mem_traceparent hd
  rw [inject, Headers.text?, Headers.first?, Headers.values_set_self, List.head?_cons,
    Option.filter_some, if_pos hreadable]

/-- Whatever headers a context is injected into, it is read back from them. -/
theorem ofHeaders?_inject {c : Context} (htrace : c.traceId ≠ 0) (hspan : c.spanId ≠ 0)
    (h : Headers) : ofHeaders? (c.inject h) = some { c with parentSpanId := none } := by
  rw [ofHeaders?, text?_inject, Option.bind_some, ofTraceparent?_traceparent htrace hspan,
    Option.some_or]

theorem ne_zero_of_ofTraceparent? {value : List Char} {c : Context}
    (h : ofTraceparent? value = some c) : c.traceId ≠ 0 := by
  unfold ofTraceparent? at h
  split at h
  · simp only [Option.bind_eq_bind, Option.bind_none, Option.ite_none_left_eq_some,
      Option.bind_eq_some_iff] at h
    obtain ⟨-, -, trace, -, span, -, flags, -, h⟩ := h
    obtain ⟨⟨htrace, -⟩, rfl⟩ := ofIds?_eq_some_iff.mp h
    exact htrace
  · cases h

theorem ne_zero_of_ofUberTraceId? {value : List Char} {c : Context}
    (h : ofUberTraceId? value = some c) : c.traceId ≠ 0 := by
  unfold ofUberTraceId? at h
  split at h
  · simp only [Option.bind_eq_bind, Option.bind_none, Option.ite_none_left_eq_some,
      Option.bind_eq_some_iff] at h
    obtain ⟨-, trace, -, span, -, parent, -, flags, -, h⟩ := h
    obtain ⟨⟨htrace, -⟩, rfl⟩ := ofIds?_eq_some_iff.mp h
    exact htrace
  · cases h

theorem ne_zero_of_ofHeaders? {h : Headers} {c : Context} (hc : ofHeaders? h = some c) :
    c.traceId ≠ 0 := by
  rcases Option.or_eq_some_iff.mp hc with hc | ⟨-, hc⟩
  · obtain ⟨value, -, hvalue⟩ := Option.bind_eq_some_iff.mp hc
    exact ne_zero_of_ofTraceparent? hvalue
  · obtain ⟨value, -, hvalue⟩ := Option.bind_eq_some_iff.mp hc
    exact ne_zero_of_ofUberTraceId? hvalue

/-- What a message says about its trace, or else a new trace. -/
def origin (inbound : Headers) (d : Draw) : Context :=
  (ofHeaders? inbound).getD (root d)

theorem following_eq (inbound : Headers) (d : Draw) :
    following inbound d =
      ⟨(origin inbound d).traceId, d.spanId, (ofHeaders? inbound).map (·.spanId),
        (origin inbound d).sampled⟩ := by
  rw [following, origin]
  cases ofHeaders? inbound <;> rfl

theorem odd_spanId (d : Draw) : d.spanId.getLsbD 0 = true := by
  simp [Draw.spanId]

theorem following_inject {c : Context} (htrace : c.traceId ≠ 0) (hspan : c.spanId ≠ 0)
    (h : Headers) (d : Draw) :
    following (c.inject h) d = ⟨c.traceId, d.spanId, some c.spanId, c.sampled⟩ := by
  rw [following, ofHeaders?_inject htrace hspan]
  rfl

/-- A call from one process to the next: the headers that it has already, and what is drawn for the
context in which it is answered. -/
structure Hop where
  headers : Headers
  draw : Draw

/-- The contexts of calls each of which is made while the one before it is answered. -/
def hops : Context → List Hop → List Context
  | _, [] => []
  | c, hop :: rest =>
      let next := following (c.inject hop.headers) hop.draw
      next :: hops next rest

/-- The contexts of a chain of calls, the first of which is a message from outside. -/
def journey (inbound : Headers) (d : Draw) (rest : List Hop) : List Context :=
  following inbound d :: hops (following inbound d) rest

/-- A context of some trace, with a span that was drawn. -/
structure Within (traceId : BitVec 128) (sampled : Bool) (c : Context) : Prop where
  traceId_eq : c.traceId = traceId
  sampled_eq : c.sampled = sampled
  odd : c.spanId.getLsbD 0 = true

theorem Within.spanId_ne_zero {traceId : BitVec 128} {sampled : Bool} {c : Context}
    (h : Within traceId sampled c) : c.spanId ≠ 0 := by
  intro hzero
  have hodd := h.odd
  rw [hzero] at hodd
  cases hodd

section Hops

variable {traceId : BitVec 128} {sampled : Bool} {c : Context}

theorem following_inject_of_within (htrace : traceId ≠ 0) (h : Within traceId sampled c)
    (hop : Hop) :
    Within traceId sampled (following (c.inject hop.headers) hop.draw) ∧
      (following (c.inject hop.headers) hop.draw).parentSpanId = some c.spanId := by
  have hc : c.traceId ≠ 0 := by
    rw [h.traceId_eq]
    exact htrace
  rw [following_inject hc h.spanId_ne_zero]
  exact ⟨⟨h.traceId_eq, h.sampled_eq, odd_spanId hop.draw⟩, rfl⟩

theorem within_of_mem_hops (htrace : traceId ≠ 0) (h : Within traceId sampled c)
    (rest : List Hop) : ∀ x ∈ hops c rest, Within traceId sampled x := by
  induction rest generalizing c with
  | nil => simp [hops]
  | cons hop rest ih =>
      obtain ⟨hnext, -⟩ := following_inject_of_within htrace h hop
      intro x hx
      rcases List.mem_cons.mp hx with rfl | hx
      · exact hnext
      · exact ih hnext x hx

theorem isChain_hops (htrace : traceId ≠ 0) (h : Within traceId sampled c) (rest : List Hop) :
    List.IsChain (fun a b => b.parentSpanId = some a.spanId) (c :: hops c rest) := by
  induction rest generalizing c with
  | nil => exact .singleton c
  | cons hop rest ih =>
      obtain ⟨hnext, hparent⟩ := following_inject_of_within htrace h hop
      exact .cons_cons hparent (ih hnext)

end Hops

def stale : Headers :=
  .ofList [("Uber-Trace-Id", "a:b:c:0"),
    ("traceparent", "00-0000000000000000000000000000000f-000000000000000e-00")]

/-- A context survives being passed on, and so do the trace and the sampling of a message along all
the calls that it leads to. Each of these continues the trace, with the span before it as parent. -/
theorem trace_of_journey :
    (∀ (c : Context) (h : Headers), c.traceId ≠ 0 → c.spanId ≠ 0 →
      ofHeaders? (c.inject h) = some { c with parentSpanId := none }) ∧
    ∀ (inbound : Headers) (d : Draw) (rest : List Hop),
      (ofHeaders? inbound = none → d.trace ≠ 0) →
        (∀ c ∈ journey inbound d rest,
          Within (origin inbound d).traceId (origin inbound d).sampled c) ∧
        (following inbound d).parentSpanId = (ofHeaders? inbound).map (·.spanId) ∧
        (journey inbound d rest).IsChain fun a b => b.parentSpanId = some a.spanId := by
  refine ⟨fun c h htrace hspan => ofHeaders?_inject htrace hspan h, ?_⟩
  intro inbound d rest hdraw
  have htrace : (origin inbound d).traceId ≠ 0 := by
    rw [origin]
    cases hinbound : ofHeaders? inbound with
    | none => exact hdraw hinbound
    | some c => exact ne_zero_of_ofHeaders? hinbound
  have hfirst : Within (origin inbound d).traceId (origin inbound d).sampled
      (following inbound d) := by
    rw [following_eq]
    exact ⟨rfl, rfl, odd_spanId d⟩
  refine ⟨?_, congrArg parentSpanId (following_eq inbound d), isChain_hops htrace hfirst rest⟩
  intro c hc
  rcases List.mem_cons.mp hc with rfl | hc
  · exact hfirst
  · exact within_of_mem_hops htrace hfirst rest c hc

theorem trace_of_journey_stale :
    (ofHeaders? stale).map traceId = some 0xf ∧
    ofHeaders? (inject ⟨1, 2, some 3, true⟩ stale) = some ⟨1, 2, none, true⟩ ∧
    ofHeaders? {} = none ∧
    ∀ c ∈ journey {} ⟨7, 8⟩ [⟨stale, ⟨0, 0⟩⟩, ⟨stale, ⟨1, 2⟩⟩],
      c.traceId = 7 ∧ c.sampled = true := by
  refine ⟨by decide +kernel, trace_of_journey.1 ⟨1, 2, some 3, true⟩ stale (by decide) (by decide),
    by decide +kernel, ?_⟩
  intro c hc
  obtain ⟨hwithin, -, -⟩ := trace_of_journey.2 {} ⟨7, 8⟩ [⟨stale, ⟨0, 0⟩⟩, ⟨stale, ⟨1, 2⟩⟩]
    fun _ => by decide
  exact ⟨(hwithin c hc).traceId_eq, (hwithin c hc).sampled_eq⟩

end Context

end IntentProvider.Trace
