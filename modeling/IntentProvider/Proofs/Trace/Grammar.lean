import IntentProvider.Proofs.Trace.Propagation

/-!
The headers from which a context is read. The identifiers in a header are numbers of hexadecimal
digits; a plus sign may precede each of them, and then it takes the place of a digit. The version
of a `traceparent` may be any two characters but `ff`. So the identifiers are passed on as they came,
in lower case, with a zero in the place of a plus sign.
-/

namespace IntentProvider.Trace

open IntentProvider.Http
open IntentProvider.Text
open IntentProvider.Text.Radix

namespace Context

/-- A field stands for a number. -/
structure Spells {bits : Nat} (field : List Char) (n : BitVec bits) : Prop where
  isSigned : IsSigned 16 field
  number_eq : number 16 (unsigned field) = n.toNat

theorem hex?_eq_some_iff {bits : Nat} {field : List Char} {n : BitVec bits} :
    hex? bits field = some n ↔ Spells field n := by
  have hlimit : 0 < Nat.pow 2 bits := Nat.pow_pos (by decide)
  rw [hex?, Option.map_eq_some_iff]
  constructor
  · rintro ⟨m, hm, rfl⟩
    obtain ⟨hsigned, rfl, hlt⟩ := (read?_eq_some_iff (by decide) hlimit).mp hm
    exact ⟨hsigned, (Nat.mod_eq_of_lt hlt).symm⟩
  · rintro ⟨hsigned, hnumber⟩
    refine ⟨n.toNat, (read?_eq_some_iff (by decide) hlimit).mpr ⟨hsigned, hnumber, n.isLt⟩, ?_⟩
    rw [BitVec.ofNat_toNat, BitVec.setWidth_eq]

/-- The fields of a `traceparent` header that say what a context is. -/
structure SpellsTraceparent (version trace span flags : List Char) (c : Context) : Prop where
  version_length : version.length = 2
  version_ne : version.map Char.toLower ≠ ['f', 'f']
  trace_length : trace.length = 32
  span_length : span.length = 16
  flags_length : flags.length = 2
  trace : Spells trace c.traceId
  span : Spells span c.spanId
  parent : c.parentSpanId = none
  flags : ∃ n : BitVec 8, Spells flags n ∧ c.sampled = n.getLsbD 0
  trace_ne_zero : c.traceId ≠ 0
  span_ne_zero : c.spanId ≠ 0

/-- The fields of an `uber-trace-id` header that say what a context is. -/
structure SpellsUberTraceId (trace span parent flags : List Char) (c : Context) : Prop where
  trace_length : trace.length ≤ 32
  span_length : span.length ≤ 16
  trace : Spells trace c.traceId
  span : Spells span c.spanId
  parent : ∃ n : BitVec 64, Spells parent n ∧ c.parentSpanId = if n = 0 then none else some n
  flags : ∃ n : BitVec 8, Spells flags n ∧ c.sampled = n.getLsbD 0
  trace_ne_zero : c.traceId ≠ 0
  span_ne_zero : c.spanId ≠ 0

/-- The value of a `traceparent` header stands for a context. Further fields say nothing. -/
def DenotesTraceparent (value : List Char) (c : Context) : Prop :=
  ∃ version trace span flags rest,
    splitAt '-' (trim value) = version :: trace :: span :: flags :: rest ∧
      SpellsTraceparent version trace span flags c

/-- The value of an `uber-trace-id` header stands for a context. -/
def DenotesUberTraceId (value : List Char) (c : Context) : Prop :=
  ∃ trace span parent flags, splitAt ':' (trim value) = [trace, span, parent, flags] ∧
    SpellsUberTraceId trace span parent flags c

theorem ofTraceparent?_eq_some_iff {value : List Char} {c : Context} :
    ofTraceparent? value = some c ↔ DenotesTraceparent value c := by
  constructor
  · intro h
    unfold ofTraceparent? at h
    split at h
    · rename_i version trace span flags rest hfields
      simp only [Option.bind_eq_bind, Option.bind_none, Option.ite_none_left_eq_some,
        Option.bind_eq_some_iff, hex?_eq_some_iff, ofIds?_eq_some_iff] at h
      obtain ⟨hversion, hlength, n, hn, m, hm, k, hk, ⟨htrace, hspan⟩, rfl⟩ := h
      simp only [Bool.or_eq_true, decide_eq_true_eq, not_or, ne_eq, not_not] at hversion hlength
      exact ⟨version, trace, span, flags, rest, hfields, {
        version_length := hversion.1
        version_ne := hversion.2
        trace_length := hlength.1.1
        span_length := hlength.1.2
        flags_length := hlength.2
        trace := hn
        span := hm
        parent := rfl
        flags := ⟨k, hk, rfl⟩
        trace_ne_zero := htrace
        span_ne_zero := hspan }⟩
    · cases h
  · rintro ⟨version, trace, span, flags, rest, hfields, h⟩
    obtain ⟨k, hk, hsampled⟩ := h.flags
    have hc : c = ⟨c.traceId, c.spanId, none, k.getLsbD 0⟩ := by
      rw [← hsampled, ← h.parent]
    rw [ofTraceparent?, hfields]
    simp only [h.version_length, h.version_ne, h.trace_length, h.span_length, h.flags_length,
      hex?_eq_some_iff.mpr h.trace, hex?_eq_some_iff.mpr h.span, hex?_eq_some_iff.mpr hk,
      Option.bind_eq_bind, Option.bind_some, ne_eq, not_true_eq_false]
    exact ofIds?_eq_some_iff.mpr ⟨⟨h.trace_ne_zero, h.span_ne_zero⟩, hc⟩

theorem ofUberTraceId?_eq_some_iff {value : List Char} {c : Context} :
    ofUberTraceId? value = some c ↔ DenotesUberTraceId value c := by
  constructor
  · intro h
    unfold ofUberTraceId? at h
    split at h
    · rename_i trace span parent flags hfields
      simp only [Option.bind_eq_bind, Option.bind_none, Option.ite_none_left_eq_some,
        Option.bind_eq_some_iff, hex?_eq_some_iff, ofIds?_eq_some_iff] at h
      obtain ⟨hlength, n, hn, m, hm, j, hj, k, hk, ⟨htrace, hspan⟩, rfl⟩ := h
      simp only [Bool.or_eq_true, decide_eq_true_eq, not_or, not_lt] at hlength
      exact ⟨trace, span, parent, flags, hfields, {
        trace_length := hlength.1
        span_length := hlength.2
        trace := hn
        span := hm
        parent := ⟨j, hj, rfl⟩
        flags := ⟨k, hk, rfl⟩
        trace_ne_zero := htrace
        span_ne_zero := hspan }⟩
    · cases h
  · rintro ⟨trace, span, parent, flags, hfields, h⟩
    obtain ⟨j, hj, hparent⟩ := h.parent
    obtain ⟨k, hk, hsampled⟩ := h.flags
    have hc : c = ⟨c.traceId, c.spanId, if j = 0 then none else some j, k.getLsbD 0⟩ := by
      rw [← hsampled, ← hparent]
    have htraceLength : ¬ 32 < trace.length := Nat.not_lt.mpr h.trace_length
    have hspanLength : ¬ 16 < span.length := Nat.not_lt.mpr h.span_length
    rw [ofUberTraceId?, hfields]
    simp only [htraceLength, hspanLength, hex?_eq_some_iff.mpr h.trace,
      hex?_eq_some_iff.mpr h.span, hex?_eq_some_iff.mpr hj, hex?_eq_some_iff.mpr hk,
      Option.bind_eq_bind, Option.bind_some]
    exact ofIds?_eq_some_iff.mpr ⟨⟨h.trace_ne_zero, h.span_ne_zero⟩, hc⟩

/-- The first fields of a header value consist of hexadecimal digits only. -/
def HexFields (sep : Char) (count : Nat) (value : List Char) : Prop :=
  ∀ field ∈ (splitAt sep (trim value)).take count, IsNumeral 16 field

/-- The fields of a `traceparent` header that name the trace and the span. -/
def identifiers (value : List Char) : List (List Char) :=
  ((splitAt '-' (trim value)).take 3).drop 1

/-- A field is written in lower case, with a zero in the place of a plus sign. -/
theorem padded_of_spells {bits width : Nat} {field : List Char} {n : BitVec bits}
    (h : Spells field n) (hlength : field.length = width) :
    padded 16 width n.toNat = (unsigned field).map Char.toLower := by
  have hdigits := (h.isSigned.unsigned (by decide)).2
  rw [← h.number_eq, ← padded_number hdigits, length_unsigned, hlength]

theorem identifiers_of_denotes {value : List Char} {c : Context} (h : DenotesTraceparent value c) :
    identifiers c.traceparent.toList =
      (identifiers value).map fun field => (unsigned field).map Char.toLower := by
  obtain ⟨version, trace, span, flags, rest, hfields, h⟩ := h
  rw [identifiers, identifiers, splitAt_traceparent, hfields]
  simp only [List.drop_succ_cons, List.drop_zero, List.take_succ_cons, List.take_zero,
    List.map_cons, List.map_nil, ← padded_of_spells h.trace h.trace_length,
    ← padded_of_spells h.span h.span_length]
  rfl

/-- A `traceparent` header that is hexadecimal throughout, and a context that is passed on with the
same identifiers up to the case of letters. -/
structure Faithful (value : List Char) (c : Context) : Prop where
  hex : HexFields '-' 4 value
  same : identifiers c.traceparent.toList = (identifiers value).map (·.map Char.toLower)

theorem hexFields_traceparent_iff {value : List Char} {c : Context}
    (h : DenotesTraceparent value c) :
    HexFields '-' 4 value ↔ HexFields '-' 1 value ∧
      ∀ field ∈ ((splitAt '-' (trim value)).take 4).drop 1, field.head? ≠ some '+' := by
  obtain ⟨version, trace, span, flags, rest, hfields, h⟩ := h
  obtain ⟨n, hflags, -⟩ := h.flags
  rw [HexFields, HexFields, hfields]
  simp [h.trace.isSigned.isNumeral_iff, h.span.isSigned.isNumeral_iff,
    hflags.isSigned.isNumeral_iff]

theorem hexFields_uberTraceId_iff {value : List Char} {c : Context}
    (h : DenotesUberTraceId value c) :
    HexFields ':' 4 value ↔ ∀ field ∈ splitAt ':' (trim value), field.head? ≠ some '+' := by
  obtain ⟨trace, span, parent, flags, hfields, h⟩ := h
  obtain ⟨n, hparent, -⟩ := h.parent
  obtain ⟨m, hflags, -⟩ := h.flags
  rw [HexFields, hfields]
  simp [h.trace.isSigned.isNumeral_iff, h.span.isSigned.isNumeral_iff,
    hparent.isSigned.isNumeral_iff, hflags.isSigned.isNumeral_iff]

/-- Hexadecimal digits are passed on as they came, in lower case. -/
theorem faithful_iff {value : List Char} {c : Context} (h : DenotesTraceparent value c) :
    Faithful value c ↔ HexFields '-' 4 value := by
  constructor
  · exact Faithful.hex
  · intro hhex
    refine ⟨hhex, (identifiers_of_denotes h).trans (List.map_congr_left fun field hfield => ?_)⟩
    have hmem : field ∈ (splitAt '-' (trim value)).take 4 := by
      exact (List.take_subset_take_left _ (by decide)) (List.mem_of_mem_drop hfield)
    rw [unsigned_of_isNumeral (hhex field hmem)]

/-- A message has a readable `traceparent` header that stands for a context. -/
def CarriesTraceparent (h : Headers) (c : Context) : Prop :=
  ∃ value, h.text? traceparentName = some value ∧ DenotesTraceparent value.toList c

/-- A message has a readable `uber-trace-id` header that stands for a context. -/
def CarriesUberTraceId (h : Headers) (c : Context) : Prop :=
  ∃ value, h.text? uberTraceIdName = some value ∧ DenotesUberTraceId value.toList c

theorem ofHeaders?_eq_some_iff {h : Headers} {c : Context} :
    ofHeaders? h = some c ↔
      CarriesTraceparent h c ∨ (∀ c, ¬CarriesTraceparent h c) ∧ CarriesUberTraceId h c := by
  have htraceparent (c : Context) :
      ((h.text? traceparentName).bind fun v => ofTraceparent? v.toList) = some c ↔
        CarriesTraceparent h c := by
    simp only [Option.bind_eq_some_iff, ofTraceparent?_eq_some_iff, CarriesTraceparent]
  have huberTraceId :
      ((h.text? uberTraceIdName).bind fun v => ofUberTraceId? v.toList) = some c ↔
        CarriesUberTraceId h c := by
    simp only [Option.bind_eq_some_iff, ofUberTraceId?_eq_some_iff, CarriesUberTraceId]
  rw [ofHeaders?, Option.or_eq_some_iff, Option.eq_none_iff_forall_ne_some, huberTraceId]
  simp only [ne_eq, htraceparent]

/-- A header that stands for no context is as good as none. -/
theorem following_cases (h : Headers) (d : Draw) :
    (∀ c, CarriesTraceparent h c → following h d = c.child d) ∧
    ((∀ c, ¬CarriesTraceparent h c) → ∀ c, CarriesUberTraceId h c →
      following h d = c.child d) ∧
    ((∀ c, ¬CarriesTraceparent h c) → (∀ c, ¬CarriesUberTraceId h c) →
      following h d = root d) := by
  have hfollowing {c : Context} (hc : ofHeaders? h = some c) : following h d = c.child d := by
    rw [following, hc]
  refine ⟨fun c hc => hfollowing (ofHeaders?_eq_some_iff.mpr (.inl hc)),
    fun hnone c hc => hfollowing (ofHeaders?_eq_some_iff.mpr (.inr ⟨hnone, hc⟩)), ?_⟩
  intro htraceparent huberTraceId
  have hnone : ofHeaders? h = none := by
    refine Option.eq_none_iff_forall_ne_some.mpr fun c hc => ?_
    rcases ofHeaders?_eq_some_iff.mp hc with hc | ⟨-, hc⟩
    · exact htraceparent c hc
    · exact huberTraceId c hc
  rw [following, hnone]

/-- The headers that are accepted are those that stand for a context, and a message is as good as
without the others. What is accepted is hexadecimal but for the version and plus signs, and passed
on as it came but for the case of letters and the plus signs. -/
theorem accepted_up_to_signs (value : List Char) (h : Headers) (d : Draw) :
    (∀ c, ofTraceparent? value = some c ↔ DenotesTraceparent value c) ∧
    (∀ c, ofUberTraceId? value = some c ↔ DenotesUberTraceId value c) ∧
    (∀ c, ofTraceparent? value = some c →
      identifiers c.traceparent.toList =
        (identifiers value).map (fun field => (unsigned field).map Char.toLower) ∧
      (Faithful value c ↔ HexFields '-' 1 value ∧
        ∀ field ∈ ((splitAt '-' (trim value)).take 4).drop 1, field.head? ≠ some '+')) ∧
    (∀ c, ofUberTraceId? value = some c →
      (HexFields ':' 4 value ↔
        ∀ field ∈ splitAt ':' (trim value), field.head? ≠ some '+')) ∧
    (∀ c, CarriesTraceparent h c → following h d = c.child d) ∧
    ((∀ c, ¬CarriesTraceparent h c) → ∀ c, CarriesUberTraceId h c → following h d = c.child d) ∧
    ((∀ c, ¬CarriesTraceparent h c) → (∀ c, ¬CarriesUberTraceId h c) →
      following h d = root d) := by
  refine ⟨fun _ => ofTraceparent?_eq_some_iff, fun _ => ofUberTraceId?_eq_some_iff,
    fun c hc => ?_, fun c hc => ?_, following_cases h d⟩
  · have hdenotes := ofTraceparent?_eq_some_iff.mp hc
    exact ⟨identifiers_of_denotes hdenotes,
      (faithful_iff hdenotes).trans (hexFields_traceparent_iff hdenotes)⟩
  · exact hexFields_uberTraceId_iff (ofUberTraceId?_eq_some_iff.mp hc)

def capitals : List Char :=
  "00-4BF92F3577B34DA6A3CE929D0E0E4736-00F067AA0BA902B7-01".toList

def capitalsContext : Context :=
  ⟨0x4bf92f3577b34da6a3ce929d0e0e4736, 0x00f067aa0ba902b7, none, true⟩

def short : List Char :=
  "7a1b2c:3d4e5f:0:1".toList

theorem accepted_up_to_signs_capitals :
    DenotesTraceparent capitals capitalsContext ∧
    Faithful capitals capitalsContext ∧
    HexFields ':' 4 short ∧
    following {} ⟨7, 8⟩ = root ⟨7, 8⟩ := by
  have hcapitals : ofTraceparent? capitals = some capitalsContext := by decide +kernel
  have hshort : ofUberTraceId? short = some ⟨0x7a1b2c, 0x3d4e5f, none, true⟩ := by decide +kernel
  obtain ⟨hdenotes, -, hpassed, -, -, -, hroot⟩ := accepted_up_to_signs capitals {} ⟨7, 8⟩
  obtain ⟨-, -, -, hhex, -⟩ := accepted_up_to_signs short {} ⟨7, 8⟩
  refine ⟨(hdenotes _).mp hcapitals, (hpassed _ hcapitals).2.mpr ⟨?_, by decide +kernel⟩,
    (hhex _ hshort).mpr (by decide +kernel), hroot ?_ ?_⟩
  · unfold HexFields
    decide +kernel
  · rintro c ⟨value, hvalue, -⟩
    cases hvalue
  · rintro c ⟨value, hvalue, -⟩
    cases hvalue

/-- A header with a plus sign, which is passed on as a zero. -/
def signed : List Char :=
  "00-+bf92f3577b34da6a3ce929d0e0e4736-00f067aa0ba902b7-01".toList

def signedContext : Context :=
  ⟨0x0bf92f3577b34da6a3ce929d0e0e4736, 0x00f067aa0ba902b7, none, true⟩

/-- Neither a plus sign nor a version that is no number keeps a header from being accepted. -/
theorem accepted_with_sign :
    ofTraceparent? signed = some signedContext ∧ ¬HexFields '-' 4 signed ∧
      identifiers signedContext.traceparent.toList ≠
        (identifiers signed).map (·.map Char.toLower) ∧
    (ofTraceparent? "zz-4bf92f3577b34da6a3ce929d0e0e4736-00f067aa0ba902b7-01".toList).isSome ∧
    (ofUberTraceId? "+7a1b2c:3d4e5f:+0:+1".toList).isSome ∧
      ¬HexFields ':' 4 "+7a1b2c:3d4e5f:+0:+1".toList := by
  unfold HexFields
  decide +kernel

end Context

end IntentProvider.Trace
