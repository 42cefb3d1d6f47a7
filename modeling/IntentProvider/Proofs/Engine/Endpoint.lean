import IntentProvider.Proofs.Engine.Call
import IntentProvider.Proofs.Http.Url
import IntentProvider.Proofs.Program.World

/-!
Where the requests about entities go. The identifiers in the path of a request are not encoded, so
that a request reaches the endpoint of its entity exactly if the identifiers have nothing in them
that is read as a part of a URL.
-/

namespace IntentProvider.Http

open IntentProvider.Text
open IntentProvider.Text.Percent

/-- The segments that a request target decodes to, if it has no query. -/
def endpoint? (target : String) : Option (List (List UInt8)) :=
  if '?' ∈ target.toList then none
  else some ((splitAt '/' (target.toList.drop 1)).map decode)

/-- Segments that a URL has in its path as they are. -/
structure Routable (segments : List (List Char)) : Prop where
  plain : ∀ s ∈ segments, ∀ c ∈ s, c ∉ ['/', '\\', '?', '#', '\t', '\n', '\r']
  verbatim : ∀ s ∈ segments, Path.Verbatim s
  /-- What ends a URL does not fall away. -/
  ending : ∀ s ∈ segments.getLast?, ∀ c ∈ s.getLast?, Url.isControlOrSpace c = false

namespace Path

theorem walk_ne_nil (path : List (List Char)) {segments : List (List Char)} (h : segments ≠ []) :
    walk path segments ≠ [] := by
  induction segments generalizing path with
  | nil => exact absurd rfl h
  | cons s rest ih =>
      cases rest with
      | nil =>
          rw [walk]
          split
          · simp
          · split <;> simp
      | cons next rest =>
          rw [walk_cons path s (List.cons_ne_nil next rest)]
          exact ih (follow path s) (List.cons_ne_nil next rest)

theorem question_not_mem_text {path : List (List Char)} (h : Clear path) :
    '?' ∉ (Path.segments path).text := by
  intro hmem
  obtain ⟨s, hs, hc⟩ := List.mem_flatMap.mp hmem
  rcases List.mem_cons.mp hc with hc | hc
  · exact absurd hc (by decide)
  · exact (h s hs).2 hc

end Path

/-- A URL whose path goes on after some segments as a text says, and whose query is that of the
text. -/
structure Goes (v : Url) (path : List (List Char)) (after : List Char) : Prop where
  path_eq :
    v.path = .segments (Path.walk path (splitAt '/' (Url.slashed (Url.beforeQuery after))))
  query_iff : v.query = none ↔ '?' ∉ after.takeWhile (· != '#')

theorem endpoint?_of_goes {path : List (List Char)} (hclear : Path.Clear path) {after : List Char}
    {v : Url} (h : Goes v path after) :
    endpoint? v.target =
      if '?' ∈ after.takeWhile (· != '#') then none
      else some ((Path.walk path (splitAt '/' (Url.slashed (Url.beforeQuery after)))).map
        decode) := by
  obtain ⟨hpath, hquery⟩ := h
  have hwalk := Path.clear_walk hclear fun s hs =>
    @not_mem_of_mem_splitAt '/' (Url.slashed (Url.beforeQuery after)) s hs
  have hne := Path.walk_ne_nil path (splitAt_ne_nil '/' (Url.slashed (Url.beforeQuery after)))
  rw [endpoint?, Url.target, String.toList_ofList, hpath]
  by_cases hmark : '?' ∈ after.takeWhile (· != '#')
  · rw [if_pos hmark, if_pos]
    cases hv : v.query with
    | none => exact absurd hmark (hquery.mp hv)
    | some q =>
        rw [Url.queryText, hv]
        exact List.mem_append_right _ List.mem_cons_self
  · rw [if_neg hmark, Url.queryText, hquery.mpr hmark, List.append_nil,
      if_neg (Path.question_not_mem_text hwalk), Path.splitAt_text (fun s hs => (hwalk s hs).1) hne]

/-! What is left of a text in the path of a URL. -/

theorem length_utf8_of_sublist {cs ds : List Char} (h : cs.Sublist ds) :
    (utf8 cs).length + (ds.length - cs.length) ≤ (utf8 ds).length := by
  induction h with
  | slnil => exact Nat.le_refl _
  | cons c h ih =>
      have hc := length_le_length_utf8 [c]
      have hlength := h.length_le
      rw [utf8_cons, List.length_append, List.length_cons]
      simp only [utf8, List.flatMap_singleton, List.length_singleton] at hc ih ⊢
      omega
  | cons_cons c h ih =>
      rw [utf8_cons, utf8_cons, List.length_append, List.length_append, List.length_cons,
        List.length_cons]
      omega

theorem eq_of_sublist_of_length_utf8 {cs ds : List Char} (h : cs.Sublist ds)
    (hlength : (utf8 ds).length ≤ (utf8 cs).length) : cs = ds := by
  have hle := length_utf8_of_sublist h
  exact h.eq_of_length_le (by omega)

namespace Url

theorem trimEnd_sublist (cs : List Char) : (trimEnd cs).Sublist cs := by
  have h := (List.dropWhile_sublist (p := isControlOrSpace) (l := cs.reverse)).reverse
  rwa [List.reverse_reverse] at h

theorem unbroken_sublist (cs : List Char) : (unbroken cs).Sublist cs :=
  List.filter_sublist

theorem beforeQuery_sublist (cs : List Char) : (beforeQuery cs).Sublist cs :=
  (List.takeWhile_sublist _).trans (List.takeWhile_sublist _)

/-- What a URL has of a text in its path, as it was written. -/
def kept (cs : List Char) : List Char :=
  beforeQuery (unbroken (trimEnd cs))

theorem kept_sublist (cs : List Char) : (kept cs).Sublist cs :=
  ((beforeQuery_sublist _).trans (unbroken_sublist _)).trans (trimEnd_sublist cs)

theorem kept_eq_self_iff (cs : List Char) :
    kept cs = cs ↔ trimEnd cs = cs ∧ unbroken cs = cs ∧ beforeQuery cs = cs := by
  constructor
  · intro h
    have htrim : trimEnd cs = cs := by
      have hsub := (beforeQuery_sublist _).trans (unbroken_sublist (trimEnd cs))
      rw [← kept, h] at hsub
      exact (trimEnd_sublist cs).eq_of_length_le hsub.length_le
    rw [kept, htrim] at h
    have hunbroken : unbroken cs = cs := by
      have hsub := beforeQuery_sublist (unbroken cs)
      rw [h] at hsub
      exact (unbroken_sublist cs).eq_of_length_le hsub.length_le
    rw [hunbroken] at h
    exact ⟨htrim, hunbroken, h⟩
  · rintro ⟨htrim, hunbroken, hquery⟩
    rw [kept, htrim, hunbroken, hquery]

theorem length_utf8_slashed (cs : List Char) : (utf8 (slashed cs)).length = (utf8 cs).length := by
  induction cs with
  | nil => rfl
  | cons c cs ih =>
      have hc : (String.utf8EncodeChar (if c == '\\' then '/' else c)).length =
          (String.utf8EncodeChar c).length := by
        split
        · rename_i hback
          rw [beq_iff_eq.mp hback]
          decide
        · rfl
      rw [slashed, List.map_cons, utf8_cons, utf8_cons, List.length_append, List.length_append, hc,
        ← slashed, ih]

end Url

namespace Path

theorem weight_eq_length (path : List (List Char)) :
    weight path = ((path.map decode).flatMap (47 :: ·)).length := by
  rw [weight, List.flatMap_map]

theorem cost_eq_length (segments : List (List Char)) :
    cost segments = ((segments.map utf8).flatMap (47 :: ·)).length := by
  induction segments with
  | nil => rfl
  | cons s rest ih =>
      rw [cost_cons, ih, List.map_cons, List.flatMap_cons, List.length_append, List.length_cons]

theorem decode_of_verbatim {s : List Char} (h : Verbatim s) :
    decode (Percent.encode isEncoded s) = utf8 s := by
  rw [decode_encode_segment]
  rcases decode_cases s with ⟨-, hs⟩ | ⟨hescape, -⟩
  · exact hs
  · rw [h.2.2] at hescape
    cases hescape

theorem map_decode_walk_of_verbatim (path : List (List Char)) {segments : List (List Char)}
    (h : ∀ s ∈ segments, Verbatim s) :
    (walk path segments).map decode = path.map decode ++ segments.map utf8 := by
  rw [walk_of_verbatim path h, List.map_append, List.map_map]
  refine congrArg (path.map decode ++ ·) (List.map_congr_left fun s hs => ?_)
  exact decode_of_verbatim (h s hs)

end Path

theorem map_utf8_inj {segments segments' : List (List Char)}
    (h : segments.map utf8 = segments'.map utf8) : segments = segments' :=
  (List.map_inj_right fun _ _ => utf8_inj).mp h

section Joined

variable {segments : List (List Char)} {after : List Char}

theorem exists_of_mem_joined (hafter : '/' :: after = segments.flatMap ('/' :: ·)) {c : Char}
    (hc : c ∈ after) : ∃ s ∈ segments, c = '/' ∨ c ∈ s := by
  have hmem : c ∈ segments.flatMap ('/' :: ·) := hafter ▸ List.mem_cons_of_mem '/' hc
  obtain ⟨s, hs, hcs⟩ := List.mem_flatMap.mp hmem
  exact ⟨s, hs, List.mem_cons.mp hcs⟩

theorem mem_joined (hafter : '/' :: after = segments.flatMap ('/' :: ·)) {s : List Char}
    (hs : s ∈ segments) {c : Char} (hc : c ∈ s) (hslash : c ≠ '/') : c ∈ after := by
  have hmem : c ∈ segments.flatMap ('/' :: ·) :=
    List.mem_flatMap.mpr ⟨s, hs, List.mem_cons_of_mem '/' hc⟩
  rw [← hafter, List.mem_cons] at hmem
  exact hmem.resolve_left hslash

/-- The whole ends as its last segment does, or in a slash if this is empty. -/
theorem exists_getLast?_joined (hafter : '/' :: after = segments.flatMap ('/' :: ·)) :
    ∃ s, segments.getLast? = some s ∧ after.getLast?.getD '/' = s.getLast?.getD '/' := by
  rcases List.eq_nil_or_concat segments with rfl | ⟨init, s, rfl⟩
  · cases hafter
  · rw [List.concat_eq_append] at hafter ⊢
    refine ⟨s, List.getLast?_concat, ?_⟩
    have hlast := congrArg List.getLast? hafter
    rw [List.flatMap_append, List.flatMap_singleton, List.getLast?_append, List.getLast?_cons,
      List.getLast?_cons, Option.some_or, Option.some.injEq] at hlast
    exact hlast

theorem forall_getLast?_iff (cs : List Char) :
    (∀ c ∈ cs.getLast?, Url.isControlOrSpace c = false) ↔
      Url.isControlOrSpace (cs.getLast?.getD '/') = false := by
  cases cs.getLast? with
  | none => simp [Url.isControlOrSpace]
  | some c => simp

/-- A text is the path that it stands for exactly if its segments are routable. -/
theorem routable_iff (hafter : '/' :: after = segments.flatMap ('/' :: ·)) :
    Routable segments ↔
      (∀ s ∈ segments, Path.Verbatim s) ∧ Url.kept after = after ∧
        splitAt '/' (Url.slashed after) = segments := by
  obtain ⟨last, hlast, hending⟩ := exists_getLast?_joined hafter
  rw [Url.kept_eq_self_iff, Url.trimEnd_eq_self_iff, Url.unbroken_eq_self_iff,
    Url.beforeQuery_eq_self_iff, forall_getLast?_iff, hending, ← forall_getLast?_iff]
  constructor
  · rintro ⟨hplain, hverbatim, hend⟩
    have hchar : ∀ c ∈ after, c ∉ ['\\', '?', '#', '\t', '\n', '\r'] := by
      intro c hc hmem
      obtain ⟨s, hs, rfl | hcs⟩ := exists_of_mem_joined hafter hc
      · exact absurd hmem (by decide)
      · exact hplain s hs c hcs (List.mem_cons_of_mem '/' hmem)
    refine ⟨hverbatim, ⟨hend last hlast, ?_, ?_⟩, ?_⟩
    · intro c hc hmem
      exact hchar c hc (by grind)
    · intro c hc hmem
      exact hchar c hc (by grind)
    · rw [Url.slashed_of_not_mem fun hmem => hchar _ hmem List.mem_cons_self]
      cases segments with
      | nil => cases hlast
      | cons s rest =>
          rw [List.flatMap_cons, List.cons_append, List.cons.injEq] at hafter
          rw [hafter.2]
          exact splitAt_join fun f hf hslash => hplain f hf '/' hslash List.mem_cons_self
  · rintro ⟨hverbatim, ⟨hend, hbreaks, hmarks⟩, hsplit⟩
    refine ⟨?_, hverbatim, ?_⟩
    · intro s hs c hc hmem
      have hslash : c ≠ '/' := by
        rintro rfl
        rw [← hsplit] at hs
        exact not_mem_of_mem_splitAt hs hc
      have hback : c ≠ '\\' := by
        rintro rfl
        exact Url.back_not_mem_slashed after (mem_of_mem_splitAt (hsplit ▸ hs) hc)
      have hbreak := hbreaks c (mem_joined hafter hs hc hslash)
      have hmark := hmarks c (mem_joined hafter hs hc hslash)
      grind
    · intro s hs
      rw [hlast] at hs
      cases hs
      exact hend

theorem map_decode_walk_iff (hafter : '/' :: after = segments.flatMap ('/' :: ·))
    (path : List (List Char)) :
    (Path.walk path (splitAt '/' (Url.slashed (Url.kept after)))).map decode =
      path.map decode ++ segments.map utf8 ↔ Routable segments := by
  rw [routable_iff hafter]
  constructor
  · intro h
    have hcost : Path.cost segments = (utf8 ('/' :: after)).length := by rw [Path.cost, hafter]
    have hweight : Path.weight (Path.walk path (splitAt '/' (Url.slashed (Url.kept after)))) =
        Path.weight path + Path.cost segments := by
      rw [Path.weight_eq_length, h, List.flatMap_append, List.length_append,
        ← Path.weight_eq_length, ← Path.cost_eq_length]
    obtain ⟨hle, hverbatim⟩ :=
      Path.weight_walk path (splitAt '/' (Url.slashed (Url.kept after)))
    have hslash : (String.utf8EncodeChar '/').length = 1 := by decide
    rw [hweight, Path.cost_splitAt, hcost, utf8_cons, utf8_cons, List.length_append,
      List.length_append, Url.length_utf8_slashed, hslash] at hle hverbatim
    have hkept : Url.kept after = after :=
      eq_of_sublist_of_length_utf8 (Url.kept_sublist after) (by omega)
    rw [hkept] at h hverbatim
    have hall := hverbatim (Nat.le_refl _)
    rw [Path.map_decode_walk_of_verbatim path hall] at h
    have hsegments := map_utf8_inj (List.append_cancel_left h)
    rw [hsegments] at hall
    exact ⟨hall, hkept, hsegments⟩
  · rintro ⟨hverbatim, hkept, hsegments⟩
    rw [hkept, hsegments, Path.map_decode_walk_of_verbatim path hverbatim]

theorem endpoint?_eq_iff (hafter : '/' :: after = segments.flatMap ('/' :: ·))
    {path : List (List Char)} (hclear : Path.Clear path) {v : Url}
    (h : Goes v path (Url.unbroken (Url.trimEnd after))) :
    endpoint? v.target = some (path.map decode ++ segments.map utf8) ↔ Routable segments := by
  rw [endpoint?_of_goes hclear h]
  split
  · rename_i hmark
    refine ⟨fun hnone => absurd hnone (by simp), fun hroutable => ?_⟩
    obtain ⟨-, hkept, -⟩ := (routable_iff hafter).mp hroutable
    obtain ⟨htrim, hunbroken, hquery⟩ := (Url.kept_eq_self_iff after).mp hkept
    rw [htrim, hunbroken] at hmark
    have hmem := (List.takeWhile_sublist _).subset hmark
    exact absurd List.mem_cons_self ((Url.beforeQuery_eq_self_iff after).mp hquery _ hmem)
  · rw [Option.some.injEq]
    exact map_decode_walk_iff hafter path

end Joined

end IntentProvider.Http

namespace IntentProvider

open IntentProvider.Http
open IntentProvider.Text
open IntentProvider.Text.Percent

/-- The identifiers in the path of the request for a call, if this is the path of an entity. -/
def StoreCall.identifiers? (nameSpace version : String) : StoreCall → Option (List String)
  | .create kind _ _ => some [nameSpace, version, kind]
  | .get r => some [nameSpace, version, r.kind, r.uuid]
  | .updateSpec metadata _ => some [nameSpace, version, metadata.kind, metadata.uuid]
  | .updateStatus .. => none
  | .delete r => some [nameSpace, version, r.kind, r.uuid]

namespace Client

/-- The entities that a client asks for are served after some segments, to which the URL of its
engine leads. -/
def Serves (c : Client) (root : List (List Char)) : Prop :=
  ∃ u, Url.read? (c.baseUrl ++ "/services") = some u ∧ u.isHttp ∧ u.query = none ∧
    u.fragment = none ∧ u.path = .segments (root ++ [Url.services])

theorem exists_url_of_request {c : Client} {method : Method} {path : String}
    {body : Option Json.Value} {q : Request} (h : c.request method path body = .ok q) :
    ∃ u, Url.read? (c.baseUrl ++ path) = some u ∧ q.url.target = u.target := by
  obtain ⟨u, hu, rfl⟩ := Request.formable_of_make h
  exact ⟨u, hu.read, Url.target_withoutCredentials u⟩

/-- The path of the requests about an entity. -/
def servicePath (ids : List String) : String :=
  "/services" ++ String.ofList ((ids.map String.toList).flatMap ('/' :: ·))

/-- A request for the path of an entity reaches the endpoint of this entity exactly if the
identifiers in its path are routable. -/
theorem endpoint?_of_request {c : Client} {root : List (List Char)} (hroot : c.Serves root)
    {id : String} {ids : List String} {method : Method} {body : Option Json.Value} {q : Request}
    (h : c.request method (servicePath (id :: ids)) body = .ok q) :
    endpoint? q.url.target = some ((root ++ [Url.services]).map Percent.decode ++
        ((id :: ids).map String.toList).map utf8) ↔
      Routable ((id :: ids).map String.toList) := by
  obtain ⟨u, hu, hhttp, hquery, hfragment, hpath⟩ := hroot
  let segments := (id :: ids).map String.toList
  let after := id.toList ++ (ids.map String.toList).flatMap ('/' :: ·)
  have hafter : '/' :: after = segments.flatMap ('/' :: ·) := rfl
  have hbase : c.baseUrl ++ "/services" =
      String.ofList (c.baseUrl.toList ++ '/' :: Url.services) := by
    simp [Url.services]
  have htext : c.baseUrl ++ servicePath (id :: ids) =
      String.ofList (c.baseUrl.toList ++ '/' :: (Url.services ++ '/' :: after)) := by
    simp [← String.toList_inj, servicePath, Url.services, after]
  rw [hbase] at hu
  obtain ⟨hclear, hcontinues⟩ := Url.read?_append hu hhttp hquery hfragment hpath
  obtain ⟨v, hv, hafterwards⟩ := hcontinues after
  obtain ⟨v', hv', htarget⟩ := exists_url_of_request h
  rw [htext, hv, Option.some.injEq] at hv'
  subst hv'
  have hservices : Path.Clear [Url.services] := by
    intro s hs
    rw [List.mem_singleton.mp hs]
    decide
  rw [htarget]
  exact endpoint?_eq_iff hafter (hclear.append hservices) ⟨hafterwards.1, hafterwards.2⟩

theorem request_of_perform {σ : Type} {world : (q : Effect) → σ → q.Answer × σ} {c : Client}
    {nameSpace version : String} {call : StoreCall} {ids : List String}
    (hids : call.identifiers? nameSpace version = some ids) {x : σ}
    {i : Exchange Effect.Answer} {q : Request}
    (hi : i ∈ ((EntityStore.engine c nameSpace version).perform call).exchanges world x)
    (hq : i.question = .send q) :
    ∃ method body, c.request method (servicePath ids) body = .ok q := by
  have hpath (kind : String) :
      kindPath nameSpace version kind = servicePath [nameSpace, version, kind] := by
    simp [← String.toList_inj, kindPath, entitiesPath, servicePath]
  have hpath' (r : Reference) :
      entityPath nameSpace version r = servicePath [nameSpace, version, r.kind, r.uuid] := by
    simp [← String.toList_inj, entityPath, kindPath, entitiesPath, servicePath]
  cases call with
  | create kind spec extension =>
      cases hids
      obtain ⟨_, hrequest, rfl⟩ := exists_of_mem_exchanges_call hi
      cases hq
      exact ⟨_, _, hpath kind ▸ hrequest⟩
  | updateStatus metadata status => cases hids
  | _ =>
      cases hids
      obtain ⟨_, hrequest, rfl⟩ := exists_of_mem_exchanges_call hi
      cases hq
      exact ⟨_, _, hpath' _ ▸ hrequest⟩

/-- A request that an operation on entities sends, with the identifiers in its path. -/
def Sends {σ : Type} (c : Client) (world : (q : Effect) → σ → q.Answer × σ) (ids : List String)
    (q : Request) : Prop :=
  ∃ nameSpace version call x i, call.identifiers? nameSpace version = some ids ∧
    i ∈ ((EntityStore.engine c nameSpace version).perform call).exchanges world x ∧
    i.question = .send q

/-- The endpoint of what has some identifiers. -/
def endpointOf (root : List (List Char)) (ids : List String) : List (List UInt8) :=
  (root ++ [Url.services]).map Percent.decode ++ (ids.map String.toList).map utf8

theorem endpointOf_inj {root : List (List Char)} {ids ids' : List String}
    (h : endpointOf root ids = endpointOf root ids') : ids = ids' := by
  have hchars := map_utf8_inj (List.append_cancel_left h)
  exact (List.map_inj_right fun _ _ => String.toList_inj.mp).mp hchars

theorem endpoint?_of_sends {σ : Type} {c : Client} {root : List (List Char)} (hroot : c.Serves root)
    {world : (q : Effect) → σ → q.Answer × σ} {ids : List String} {q : Request}
    (h : c.Sends world ids q) :
    endpoint? q.url.target = some (endpointOf root ids) ↔ Routable (ids.map String.toList) := by
  obtain ⟨nameSpace, version, call, x, i, hids, hi, hq⟩ := h
  obtain ⟨method, body, hrequest⟩ := request_of_perform hids hi hq
  cases ids with
  | nil => cases call <;> cases hids
  | cons id ids => exact endpoint?_of_request hroot hrequest

/-- The requests about entities reach the endpoints of these entities, and different ones for
different entities, exactly as far as the identifiers are routable. -/
theorem reaches_iff_routable {σ : Type} {c : Client} {root : List (List Char)}
    (hroot : c.Serves root) {world : (q : Effect) → σ → q.Answer × σ} {ids : List String}
    {q : Request} (h : c.Sends world ids q) :
    (endpoint? q.url.target = some (endpointOf root ids) ↔ Routable (ids.map String.toList)) ∧
    ∀ ids' q', c.Sends world ids' q' → Routable (ids.map String.toList) →
      Routable (ids'.map String.toList) → q.url.target = q'.url.target → ids = ids' := by
  refine ⟨endpoint?_of_sends hroot h, ?_⟩
  intro ids' q' h' hroutable hroutable' htarget
  have hreached := (endpoint?_of_sends hroot h).mpr hroutable
  have hreached' := (endpoint?_of_sends hroot h').mpr hroutable'
  rw [htarget, hreached', Option.some.injEq] at hreached
  exact (endpointOf_inj hreached).symm

section Loopback

/-- A client of an engine on this machine. -/
def onLoopback : Client :=
  ofUrl "http://[::1]:3000" "k"

/-- No request has a reply. -/
def unavailable : World Unit :=
  World.answering (.error .malformed)

theorem serves_onLoopback : onLoopback.Serves [] := by
  have hread : (Url.read? (onLoopback.baseUrl ++ "/services")).any fun u =>
      u.isHttp && u.query.isNone && u.fragment.isNone && u.path == .segments [Url.services] := by
    decide +kernel
  simp only [Option.any_eq_true, Bool.and_eq_true, Option.isNone_iff_eq_none, beq_iff_eq] at hread
  obtain ⟨u, hu, ⟨⟨hhttp, hquery⟩, hfragment⟩, hpath⟩ := hread
  exact ⟨u, hu, hhttp, hquery, hfragment, hpath⟩

/-- An entity is deleted with one request, the first effect. -/
theorem sends_delete {c : Client} {nameSpace version : String} {r : Reference} {q : Request}
    (hq : c.request .delete (entityPath nameSpace version r) none = .ok q) :
    c.Sends unavailable [nameSpace, version, r.kind, r.uuid] q := by
  refine ⟨nameSpace, version, .delete r, (), ⟨.send q, .error .malformed⟩, rfl, ?_, rfl⟩
  change _ ∈ (c.call .delete _ none r.uuid fun _ => .ok ()).exchanges unavailable ()
  rw [call_of_ok hq, Script.exchanges_ask]
  exact List.mem_cons_self

/-- The target of the request that deletes an entity. -/
theorem exists_sends_delete {r : Reference} {target : String}
    (h : (onLoopback.request .delete (entityPath "files" "v1" r) none).toOption.map
      (·.url.target) = some target) :
    ∃ q, onLoopback.Sends unavailable ["files", "v1", r.kind, r.uuid] q ∧
      q.url.target = target := by
  cases hq : onLoopback.request .delete (entityPath "files" "v1" r) none with
  | error f =>
      rw [hq] at h
      cases h
  | ok q =>
      rw [hq] at h
      exact ⟨q, sends_delete hq, Option.some.inj h⟩

/-- A blank in an identifier is encoded, and stands for itself. -/
theorem reaches_iff_routable_blank :
    onLoopback.Serves [] ∧ ∃ q, onLoopback.Sends unavailable ["files", "v1", "Bucket", "a b"] q ∧
      q.url.target = "/services/files/v1/Bucket/a%20b" ∧
      endpoint? q.url.target = some (endpointOf [] ["files", "v1", "Bucket", "a b"]) := by
  have htarget : (onLoopback.request .delete (entityPath "files" "v1" ⟨"a b", "Bucket"⟩)
      none).toOption.map (·.url.target) = some "/services/files/v1/Bucket/a%20b" := by
    decide +kernel
  obtain ⟨q, hsends, hq⟩ := exists_sends_delete htarget
  refine ⟨serves_onLoopback, q, hsends, hq, ?_⟩
  refine (reaches_iff_routable serves_onLoopback hsends).1.mpr ⟨?_, by decide, ?_⟩
  · simp
  · simp [Url.isControlOrSpace]

/-- With dot segments in an identifier a request for one entity deletes another one. -/
theorem redirected_by_dots :
    ∃ q q', onLoopback.Sends unavailable ["files", "v1", "Bucket", "../Lock/a"] q ∧
      onLoopback.Sends unavailable ["files", "v1", "Lock", "a"] q' ∧
      q.url.target = q'.url.target ∧
      endpoint? q.url.target ≠ some (endpointOf [] ["files", "v1", "Bucket", "../Lock/a"]) := by
  have htarget : (onLoopback.request .delete (entityPath "files" "v1" ⟨"../Lock/a", "Bucket"⟩)
      none).toOption.map (·.url.target) = some "/services/files/v1/Lock/a" := by
    decide +kernel
  have htarget' : (onLoopback.request .delete (entityPath "files" "v1" ⟨"a", "Lock"⟩)
      none).toOption.map (·.url.target) = some "/services/files/v1/Lock/a" := by
    decide +kernel
  obtain ⟨q, hsends, hq⟩ := exists_sends_delete htarget
  obtain ⟨q', hsends', hq'⟩ := exists_sends_delete htarget'
  refine ⟨q, q', hsends, hsends', by rw [hq, hq'], ?_⟩
  rw [hq]
  decide +kernel

end Loopback

end Client

end IntentProvider
