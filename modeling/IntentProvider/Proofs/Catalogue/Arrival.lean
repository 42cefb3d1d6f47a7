import IntentProvider.Proofs.Catalogue.Address
import IntentProvider.Proofs.Http.Directory
import IntentProvider.Proofs.Http.Literal
import IntentProvider.Proofs.Server.Snapshot

/-!
Whether a procedure is called at the URL that is made known for it. The name of a procedure stands
in this URL and in its route as it is, but what is asked for is what a client reads from the URL. So
a call arrives exactly if the name is literal, at an address that is read as that of a host. The
names that are refused do not include all that are not literal.
-/

namespace IntentProvider

open IntentProvider.Http
open IntentProvider.Text

namespace RouteTable

/-- Whoever has a route is handed what is asked for at a target. -/
def Reaches (target route : String) : Prop :=
  ∀ {H : Type} (t : RouteTable H) (h : H) (limit size : Nat), t.routes.get? route = some h →
    size ≤ limit → t.resolve limit "POST" target size = .handler h

theorem reaches_iff {target route : String} (hplain : Route.IsPlain route) :
    Reaches target route ↔ pathOf target = route := by
  constructor
  · intro h
    by_contra hne
    -- a table that has this route only
    have hget : (SortedMap.singleton route ()).get? (pathOf target) = none := by
      rw [SortedMap.singleton, SortedMap.get?_insert, if_neg hne]
      rfl
    have hentries : ∀ e ∈ (SortedMap.singleton route ()).entries, Route.IsPlain e.1 := by
      intro e he
      obtain rfl : e = (route, ()) := List.mem_singleton.mp he
      exact hplain
    have hself : (SortedMap.singleton route ()).get? route = some () := by
      rw [SortedMap.singleton, SortedMap.get?_insert, if_pos rfl]
    have hreached := h { routes := .singleton route () } () 0 0 hself (Nat.le_refl 0)
    rw [resolve_of_missing hentries hget rfl] at hreached
    cases hreached
  · rintro rfl H t h limit size hget hsize
    rw [resolve_post hget, if_neg (Nat.not_lt.mpr hsize)]

theorem pathOf_eq_self_iff {target : String} (hslash : target.toList.head? = some '/') :
    pathOf target = target ↔ '?' ∉ target.toList ∧ '#' ∉ target.toList := by
  have hscheme : afterScheme? (target.toList.takeWhile fun c => c != '?' && c != '#') = none := by
    cases htarget : target.toList with
    | nil => rfl
    | cons c cs =>
        rw [htarget, List.head?_cons, Option.some.injEq] at hslash
        subst hslash
        rfl
  rw [pathOf, hscheme, ← String.toList_inj, String.toList_ofList, List.takeWhile_eq_self_iff]
  constructor
  · intro h
    exact ⟨fun hmem => absurd (h _ hmem) (by decide), fun hmem => absurd (h _ hmem) (by decide)⟩
  · rintro ⟨hquestion, hhash⟩ c hc
    have hc₁ : c ≠ '?' := fun heq => hquestion (heq ▸ hc)
    have hc₂ : c ≠ '#' := fun heq => hhash (heq ▸ hc)
    simp [hc₁, hc₂]

end RouteTable

/-- What a client asks for at a URL is a route as it is written, and reaches the handler of it. -/
def Arrives (url route : String) : Prop :=
  ∃ u, Url.read? url = some u ∧ u.target = route ∧ RouteTable.Reaches u.target route

/-- The segments of the path of a procedure. -/
def routeFields (name : String) (kind : Option String) : List (List Char) :=
  kind.toList.map String.toList ++ [name.toList]

theorem text_routeFields (name : String) (kind : Option String) :
    (Path.segments (routeFields name kind)).text = (routePath name kind).toList := by
  cases kind <;> simp [routeFields, Path.text, toList_routePath, kindPath]

namespace CallbackAddress

/-- An address that is read as that of a host, and nothing more. -/
def IsOrigin (a : CallbackAddress) : Prop :=
  ∃ u, Url.read? (a.base ++ "/") = some u ∧ u.isHttp ∧ u.path = .segments [[]] ∧
    u.query = none ∧ u.fragment = none

theorem url_eq {a : CallbackAddress} {name : String} {kind : Option String} {after : List Char}
    (h : (routePath name kind).toList = '/' :: after) :
    a.url name kind = String.ofList (a.base.toList ++ '/' :: after) := by
  rw [url, ← h, ← String.toList_inj, String.toList_append, String.toList_ofList]

section Route

variable {name : String} {kind : Option String}

theorem slash_notMem_routeFields (hname : ProcedureName.validate name kind = .ok ())
    (hkind : ∀ k ∈ kind, ∀ c ∈ k.toList, c.isAlphanum = true) :
    ∀ s ∈ routeFields name kind, '/' ∉ s := by
  intro s hs hslash
  rcases List.mem_append.mp hs with hs | hs
  · obtain ⟨k, hk, rfl⟩ := List.mem_map.mp hs
    exact absurd (hkind k (Option.mem_toList.mp hk) '/' hslash) (by decide)
  · rw [List.mem_singleton.mp hs] at hslash
    exact ProcedureName.slash_notMem hname hslash

theorem getLast?_routePath (hname : ProcedureName.validate name kind = .ok ()) :
    (routePath name kind).toList.getLast? = name.toList.getLast? := by
  have hne : name.toList ≠ [] := by
    simpa using (ProcedureName.validate_eq_ok_iff.mp hname).1
  rw [toList_routePath, List.getLast?_append, List.getLast?_cons, List.getLast?_eq_some_getLast hne]
  rfl

theorem isPlain_routePath (hname : ProcedureName.validate name kind = .ok ())
    (hkind : ∀ k ∈ kind, ∀ c ∈ k.toList, c.isAlphanum = true) :
    Route.IsPlain (routePath name kind) := by
  refine ⟨by cases kind <;> simp [toList_routePath, kindPath], ?_⟩
  refine (forall_mem_routePath (by decide)).mpr ⟨fun k hk c hc => ?_, fun c hc => ?_⟩
  · exact Path.forall_isAlphanum (P := fun c => Route.isCapture c = false) (by decide)
      (hkind k hk c hc)
  · have hroutable := (ProcedureName.validate_eq_ok_iff.mp hname).2.1 c hc
    exact (ProcedureName.isUnroutable_eq_false_iff.mp hroutable).2

end Route

section Url

variable {a : CallbackAddress} {name : String} {kind : Option String} {after : List Char}

theorem exists_read?_url (ha : a.IsOrigin) (hafter : (routePath name kind).toList = '/' :: after) :
    ∃ v, Url.read? (a.url name kind) = some v ∧
      v.path = .segments (Path.walk [] (splitAt '/'
        (Url.slashed (Url.beforeQuery (Url.unbroken (Url.trimEnd after)))))) ∧
      (v.query = none ↔ '?' ∉ (Url.unbroken (Url.trimEnd after)).takeWhile (· != '#')) := by
  obtain ⟨u, hu, hhttp, hpath, hquery, hfragment⟩ := ha
  have hbase : Url.read? (String.ofList (a.base.toList ++ ['/'])) = some u := by
    rw [← hu, String.ofList_append, String.ofList_toList]
  rw [url_eq hafter]
  exact (Url.read?_slash hbase hhttp hquery hfragment hpath).2 after

theorem arrives_of_literal (ha : a.IsOrigin) (hafter : (routePath name kind).toList = '/' :: after)
    (hplain : Route.IsPlain (routePath name kind))
    (hsplit : splitAt '/' after = routeFields name kind)
    (hliteral : ∀ s ∈ routeFields name kind, Path.IsLiteral s) :
    Arrives (a.url name kind) (routePath name kind) := by
  have hchars : ∀ c ∈ (routePath name kind).toList, Path.isLiteral c = true := by
    rw [← text_routeFields]
    intro c hc
    obtain ⟨s, hs, hc⟩ := List.mem_flatMap.mp hc
    rcases List.mem_cons.mp hc with rfl | hc
    · decide
    · exact (hliteral s hs).chars c hc
  have hne {d : Char} (hd : Path.isLiteral d = false) : d ∉ (routePath name kind).toList :=
    fun hmem => Path.ne_of_isLiteral hd (hchars d hmem) rfl
  obtain ⟨v, hread, hpath, hquery⟩ := exists_read?_url ha hafter
  obtain ⟨hkept, hmark⟩ := Url.kept_of_literal fun c hc =>
    hchars c (hafter ▸ List.mem_cons_of_mem '/' hc)
  rw [hkept, hsplit, Path.walk_of_literal [] hliteral, List.nil_append] at hpath
  have htarget : v.target = routePath name kind := by
    rw [Url.target, Url.queryText, hquery.mpr hmark, hpath, List.append_nil, text_routeFields,
      String.ofList_toList]
  refine ⟨v, hread, htarget, (RouteTable.reaches_iff hplain).mpr ?_⟩
  rw [htarget]
  exact (RouteTable.pathOf_eq_self_iff hplain.1).mpr ⟨hne (by decide), hne (by decide)⟩

/-- What arrives is in the path of the URL as it is in the route, so that all of it is literal. -/
theorem walk_of_arrives (ha : a.IsOrigin) (hafter : (routePath name kind).toList = '/' :: after)
    (hplain : Route.IsPlain (routePath name kind))
    (h : Arrives (a.url name kind) (routePath name kind)) :
    (∀ c ∈ after, Path.isLiteral c = true) ∧
      (Path.segments (Path.walk [] (splitAt '/' after))).text = '/' :: after := by
  obtain ⟨u, hu, htarget, hreaches⟩ := h
  obtain ⟨v, hread, hpath, -⟩ := exists_read?_url ha hafter
  obtain rfl : u = v := Option.some.inj (hu.symm.trans hread)
  rw [RouteTable.reaches_iff hplain, htarget, RouteTable.pathOf_eq_self_iff hplain.1] at hreaches
  have hquery : u.queryText = [] := by
    rw [Url.queryText, Url.query_eq_none_of_target (htarget ▸ hreaches.1)]
  have htext : u.path.text = '/' :: after := by
    rw [← hafter, ← htarget, Url.target, String.toList_ofList, hquery, List.append_nil]
  rw [hpath] at htext
  have hliteral : ∀ c ∈ after, Path.isLiteral c = true := by
    intro c hc
    refine Path.isLiteral_of_mem_walk ?_ c (htext ▸ List.mem_cons_of_mem '/' hc)
    exact fun s hs hback => Url.back_not_mem_slashed _ (mem_of_mem_splitAt hs hback)
  rw [(Url.kept_of_literal hliteral).1] at htext
  exact ⟨hliteral, htext⟩

theorem arrives_iff_literal (ha : a.IsOrigin) (hname : ProcedureName.validate name kind = .ok ())
    (hkind : ∀ k ∈ kind, ∀ c ∈ k.toList, c.isAlphanum = true) :
    Arrives (a.url name kind) (routePath name kind) ↔ Path.IsLiteral name.toList := by
  have hplain := isPlain_routePath hname hkind
  obtain ⟨after, hafter⟩ := List.head?_eq_some_iff.mp hplain.1
  have hsplit : splitAt '/' after = routeFields name kind := by
    have htext := Path.splitAt_text (slash_notMem_routeFields hname hkind) (by simp [routeFields])
    rwa [text_routeFields, hafter] at htext
  constructor
  · intro h
    obtain ⟨hliteral, htext⟩ := walk_of_arrives ha hafter hplain h
    have hmem : name.toList ∈ splitAt '/' after := by simp [hsplit, routeFields]
    have hdots : ¬(Path.isSingleDot name.toList = true ∨ Path.isDoubleDot name.toList = true) := by
      intro hdots
      have hlast := Path.text_walk_of_dots
        ((kind.toList.map String.toList).foldl Path.follow []) hdots
      rw [← Path.walk_append [] _ (List.cons_ne_nil _ _), ← routeFields, ← hsplit, htext, ← hafter,
        getLast?_routePath hname] at hlast
      exact ProcedureName.slash_notMem hname (List.mem_of_getLast? hlast)
    rw [not_or, Bool.not_eq_true, Bool.not_eq_true] at hdots
    exact ⟨fun c hc => hliteral c (mem_of_mem_splitAt hmem hc), hdots.1, hdots.2⟩
  · intro h
    refine arrives_of_literal ha hafter hplain hsplit fun s hs => ?_
    rcases List.mem_append.mp hs with hs | hs
    · obtain ⟨k, hk, rfl⟩ := List.mem_map.mp hs
      exact Path.isLiteral_of_alphanum (hkind k (Option.mem_toList.mp hk))
    · rw [List.mem_singleton.mp hs]
      exact h

end Url

section Origin

open IntentProvider.Http.Url

/-- The scheme of the address. -/
def http : List Char :=
  ['h', 't', 't', 'p']

/-- What names the host is read by itself, whatever follows the slash after it. -/
theorem exists_read?_eq (a : CallbackAddress) :
    ∃ origin? : Option (Authority × List Char), ∀ after,
      Url.read? (String.ofList (a.base.toList ++ '/' :: after)) =
        origin?.map fun origin =>
          located http 80 origin.1 (origin.2 ++ '/' :: unbroken (Url.trimEnd after)) := by
  let middle := '/' :: '/' :: unbroken (a.host.toList ++ ':' :: a.port.toNat.repr.toList)
  have hclean (after : List Char) : clean (String.ofList (a.base.toList ++ '/' :: after)).toList =
      http ++ ':' :: (middle ++ '/' :: unbroken (Url.trimEnd after)) := by
    have hbase : a.base.toList =
        "http://".toList ++ (a.host.toList ++ ':' :: a.port.toNat.repr.toList) := by
      simp [base]
    rw [String.toList_ofList, clean_append_slash, hbase]
    rfl
  have hscheme (after : List Char) :
      scheme? (clean (String.ofList (a.base.toList ++ '/' :: after)).toList) =
        some (http, middle ++ '/' :: unbroken (Url.trimEnd after)) := by
    rw [hclean]
    rfl
  -- the colon before the port is no slash, so that the host ends before the path begins
  have hmiddle : middle.dropWhile (isSlash (.hosts 80)) ≠ [] := by
    intro hempty
    have hcolon := List.dropWhile_eq_nil_iff.mp hempty ':' (by simp [middle, unbroken])
    exact absurd hcolon (by decide)
  let before := middle.dropWhile (isSlash (.hosts 80))
  refine ⟨(Authority.read? (.hosts 80) (before.takeWhile (!endsAuthority (.hosts 80) ·))).map
    fun found => (found.1, found.2 ++ before.dropWhile (!endsAuthority (.hosts 80) ·)), ?_⟩
  intro after
  rw [read?_of_scheme? (hscheme after) rfl, List.dropWhile_append,
    if_neg (by simpa using hmiddle), hosted?_eq, Option.map_map]
  rfl

theorem target_located_of_hash (scheme : List Char) (port : Nat) (authority : Authority)
    (before after after' : List Char) :
    (located scheme port authority (before ++ '#' :: after)).target =
      (located scheme port authority (before ++ '#' :: after')).target := by
  have hcut (after : List Char) :
      (before ++ '#' :: after).takeWhile (· != '#') = before.takeWhile (· != '#') :=
    takeWhile_append_cons before rfl after
  simp only [located, Url.target, Url.queryText, cut, hcut]

section Located

variable {scheme front : List Char} {port : Nat} {authority : Authority}

/-- If two names after the same slash are asked for as they are, no query and no fragment begins
before this slash. -/
theorem marks_notMem_of_targets
    (ha : (located scheme port authority (front ++ ['/', 'a'])).target = "/a")
    (hb : (located scheme port authority (front ++ ['/', 'b'])).target = "/b") :
    '?' ∉ front ∧ '#' ∉ front := by
  have hhash : '#' ∉ front := by
    -- what follows the beginning of a fragment is not asked for
    intro hmem
    obtain ⟨before, after, rfl⟩ := List.append_of_mem hmem
    rw [List.append_assoc, List.cons_append] at ha hb
    have hsame := target_located_of_hash scheme port authority before (after ++ ['/', 'a'])
      (after ++ ['/', 'b'])
    rw [ha, hb] at hsame
    exact absurd hsame (by decide)
  refine ⟨fun hmem => ?_, hhash⟩
  have hquery : (cut (.hosts port) (front ++ ['/', 'a'])).2.1 = none :=
    query_eq_none_of_target (u := located scheme port authority _) (by rw [ha]; decide)
  have htake : (front ++ ['/', 'a']).takeWhile (· != '#') = front ++ ['/', 'a'] := by
    refine List.takeWhile_eq_self_iff.mpr fun c hc => bne_iff_ne.mpr ?_
    rintro rfl
    exact (List.mem_append.mp hc).elim hhash (by decide)
  rw [query_eq_none_iff, htake] at hquery
  exact hquery (List.mem_append_left _ hmem)

/-- So nothing stands between the host and the slash. -/
theorem located_of_targets
    (ha : (located scheme port authority (front ++ ['/', 'a'])).target = "/a")
    (hb : (located scheme port authority (front ++ ['/', 'b'])).target = "/b") :
    (located scheme port authority (front ++ ['/'])).path = .segments [[]] ∧
      (located scheme port authority (front ++ ['/'])).query = none ∧
      (located scheme port authority (front ++ ['/'])).fragment = none := by
  obtain ⟨hquestion, hhash⟩ := marks_notMem_of_targets ha hb
  have hquery : (cut (.hosts port) front).2.1 = none :=
    (query_eq_none_iff _ front).mpr fun hmem => hquestion ((List.takeWhile_sublist _).subset hmem)
  have hfragment : (cut (.hosts port) front).2.2 = none := by
    have hdrop : front.dropWhile (· != '#') = [] :=
      List.dropWhile_eq_nil_iff.mpr fun c hc => bne_iff_ne.mpr fun heq => hhash (heq ▸ hc)
    simp only [cut, hdrop]
  have hcut := cut_append hquery hfragment
  obtain ⟨root, -, hsegments⟩ := exists_segmentsOf_eq port front
  have hpath (after : List Char) (hafter : beforeQuery ('/' :: after) = '/' :: after) :
      (located scheme port authority (front ++ '/' :: after)).path =
        .segments (Path.walk root (splitAt '/' (slashed after))) := by
    simp only [located, hcut, hafter, hsegments]
  have hroot : root = [] := by
    have hnone : (located scheme port authority (front ++ ['/', 'a'])).query = none :=
      query_eq_none_of_target (by rw [ha]; decide)
    have hwalk : Path.walk root (splitAt '/' (slashed ['a'])) = root ++ [['a']] := rfl
    have htext := congrArg String.toList ha
    rw [Url.target, String.toList_ofList, Url.queryText, hnone, List.append_nil, hpath ['a'] rfl,
      hwalk, Path.text, List.flatMap_append] at htext
    have hempty : root.flatMap ('/' :: ·) = [] := List.append_left_eq_self.mp htext
    refine List.eq_nil_iff_forall_not_mem.mpr fun s hs => ?_
    exact List.cons_ne_nil '/' s (List.flatMap_eq_nil_iff.mp hempty s hs)
  subst hroot
  refine ⟨hpath [] rfl, ?_, ?_⟩
  · simp only [located, hcut]
    rfl
  · simp only [located, hcut]
    rfl

end Located

theorem isOrigin_of_arrives {a : CallbackAddress} (ha : Arrives (a.url "a" none) "/a")
    (hb : Arrives (a.url "b" none) "/b") : a.IsOrigin := by
  obtain ⟨origin?, hread⟩ := exists_read?_eq a
  obtain ⟨u, hu, hutarget, -⟩ := ha
  obtain ⟨v, hv, hvtarget, -⟩ := hb
  rw [url_eq (show (routePath "a" none).toList = ['/', 'a'] from rfl), hread] at hu
  rw [url_eq (show (routePath "b" none).toList = ['/', 'b'] from rfl), hread] at hv
  cases origin? with
  | none => cases hu
  | some origin =>
      cases hu
      cases hv
      obtain ⟨hpath, hquery, hfragment⟩ := located_of_targets hutarget hvtarget
      refine ⟨_, ?_, rfl, hpath, hquery, hfragment⟩
      have hbase := hread []
      rwa [String.ofList_append, String.ofList_toList] at hbase

end Origin

/-- At an address that is that of a host, those names arrive that are literal. At another address
not all of these do. -/
theorem arrives_iff (a : CallbackAddress) :
    (a.IsOrigin → ∀ name kind, ProcedureName.validate name kind = .ok () →
      (∀ k ∈ kind, ∀ c ∈ k.toList, c.isAlphanum = true) →
      (Arrives (a.url name kind) (routePath name kind) ↔ Path.IsLiteral name.toList)) ∧
    ((∀ name kind, ProcedureName.validate name kind = .ok () →
      (∀ k ∈ kind, ∀ c ∈ k.toList, c.isAlphanum = true) → Path.IsLiteral name.toList →
      Arrives (a.url name kind) (routePath name kind)) → a.IsOrigin) := by
  refine ⟨fun ha name kind hname hkind => arrives_iff_literal ha hname hkind, fun h => ?_⟩
  have hletter (name : String) (hfault : ProcedureName.fault? name none = none)
      (halphanum : name.toList.all Char.isAlphanum = true) :
      Arrives (a.url name none) (routePath name none) :=
    h name none (ProcedureName.validate_eq_ok_iff_fault?.mpr hfault) nofun
      (Path.isLiteral_of_alphanum (List.all_eq_true.mp halphanum))
  exact isOrigin_of_arrives (hletter "a" (by decide) (by decide))
    (hletter "b" (by decide) (by decide))

/-- An address on this machine. -/
def onLoopback : CallbackAddress :=
  ⟨"[::1]", 9000⟩

theorem isOrigin_onLoopback : onLoopback.IsOrigin := by
  have hread : (Url.read? (onLoopback.base ++ "/")).any fun u =>
      u.isHttp && u.path == .segments [[]] && u.query.isNone && u.fragment.isNone := by
    decide +kernel
  simp only [Option.any_eq_true, Bool.and_eq_true, Option.isNone_iff_eq_none, beq_iff_eq] at hread
  obtain ⟨u, hu, ⟨⟨hhttp, hpath⟩, hquery⟩, hfragment⟩ := hread
  exact ⟨u, hu, hhttp, hpath, hquery, hfragment⟩

theorem arrives_iff_resize :
    onLoopback.IsOrigin ∧
      Arrives (onLoopback.url "resize" (some "Bucket")) (routePath "resize" (some "Bucket")) := by
  have hname : ProcedureName.fault? "resize" (some "Bucket") = none := by decide +kernel
  have hkind : "Bucket".toList.all Char.isAlphanum = true := by decide +kernel
  have halphanum : "resize".toList.all Char.isAlphanum = true := by decide +kernel
  refine ⟨isOrigin_onLoopback, ?_⟩
  refine ((arrives_iff onLoopback).1 isOrigin_onLoopback "resize" (some "Bucket") ?_ ?_).mpr ?_
  · exact ProcedureName.validate_eq_ok_iff_fault?.mpr hname
  · rintro k ⟨⟩
    exact List.all_eq_true.mp hkind
  · exact Path.isLiteral_of_alphanum (List.all_eq_true.mp halphanum)

theorem not_arrives_of_target {name : String} {target : String}
    (h : (Url.read? (onLoopback.url name none)).map Url.target = some target)
    (hne : target ≠ routePath name none) :
    ¬Arrives (onLoopback.url name none) (routePath name none) := by
  rintro ⟨u, hu, htarget, -⟩
  rw [hu, Option.map_some, htarget, Option.some.injEq] at h
  exact hne h.symm

/-- Names are accepted that a client encodes or resolves, or takes for a path and a query. -/
theorem accepted_but_not_arriving :
    onLoopback.IsOrigin ∧
    (∀ name ∈ ["größe", "..", "a?b"], ProcedureName.validate name none = .ok ()) ∧
    (Url.read? (onLoopback.url "größe" none)).map Url.target = some "/gr%C3%B6%C3%9Fe" ∧
    (Url.read? (onLoopback.url ".." none)).map Url.target = some "/" ∧
    ∀ name ∈ ["größe", "..", "a?b"],
      ¬Arrives (onLoopback.url name none) (routePath name none) := by
  have hfaults : ∀ name ∈ ["größe", "..", "a?b"], ProcedureName.fault? name none = none := by
    decide +kernel
  have hnames : ∀ name ∈ ["größe", "..", "a?b"], ProcedureName.validate name none = .ok () :=
    fun name hname => ProcedureName.validate_eq_ok_iff_fault?.mpr (hfaults name hname)
  have hencoded : (Url.read? (onLoopback.url "größe" none)).map Url.target =
      some "/gr%C3%B6%C3%9Fe" := by
    decide +kernel
  have hresolved : (Url.read? (onLoopback.url ".." none)).map Url.target = some "/" := by
    decide +kernel
  have hquery : ¬Arrives (onLoopback.url "a?b" none) (routePath "a?b" none) := by
    rintro ⟨u, -, htarget, hreaches⟩
    rw [RouteTable.reaches_iff (isPlain_routePath (hnames _ (by decide)) nofun), htarget]
      at hreaches
    exact absurd hreaches (by decide +kernel)
  refine ⟨isOrigin_onLoopback, hnames, hencoded, hresolved, fun name hname => ?_⟩
  simp only [List.mem_cons, List.not_mem_nil, or_false] at hname
  rcases hname with rfl | rfl | rfl
  · exact not_arrives_of_target hencoded (by decide)
  · exact not_arrives_of_target hresolved (by decide)
  · exact hquery

end CallbackAddress

end IntentProvider
