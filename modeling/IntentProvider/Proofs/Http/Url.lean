import IntentProvider.Http.Url
import IntentProvider.Proofs.Http.Path
import Mathlib.Data.List.TakeWhile

/-!
What is read when a text goes on after the address of a service. The scheme, the host and the first
segments are those of the address; what is added only adds segments, a query and a fragment.
-/

namespace IntentProvider.Http

open IntentProvider.Text

theorem dropWhile_append_cons {p : Char → Bool} (before : List Char) {c : Char} (hc : p c = false)
    (after : List Char) :
    (before ++ c :: after).dropWhile p = before.dropWhile p ++ c :: after := by
  induction before with
  | nil => simp [hc]
  | cons b before ih =>
      by_cases hb : p b
      · simpa [hb] using ih
      · simp [hb]

theorem takeWhile_append_cons {p : Char → Bool} (before : List Char) {c : Char} (hc : p c = false)
    (after : List Char) :
    (before ++ c :: after).takeWhile p = before.takeWhile p := by
  induction before with
  | nil => simp [hc]
  | cons b before ih =>
      by_cases hb : p b
      · simpa [hb] using ih
      · simp [hb]

namespace Path

/-- A text that ends in a slash and something else is read up to this slash and then further. -/
theorem exists_read_eq (before : List Char) :
    ∃ fields, (∀ f ∈ fields, '/' ∉ f) ∧
      ∀ after, read (before ++ '/' :: after) = walk [] (fields ++ splitAt '/' after) := by
  by_cases hslash : before.head? = some '/'
  · obtain ⟨rest, rfl⟩ : ∃ rest, before = '/' :: rest := by
      cases before with
      | nil => cases hslash
      | cons c rest =>
          cases hslash
          exact ⟨rest, rfl⟩
    refine ⟨splitAt '/' rest, fun f hf => not_mem_of_mem_splitAt hf, ?_⟩
    intro after
    rw [read, ← splitAt_append]
    rfl
  · cases before with
    | nil => exact ⟨[], by simp, fun after => rfl⟩
    | cons c rest =>
        refine ⟨splitAt '/' (c :: rest), fun f hf => not_mem_of_mem_splitAt hf, ?_⟩
        intro after
        rw [read, ← splitAt_append, List.cons_append, List.head?_cons, if_neg]
        simpa using hslash

end Path

namespace Url

/-- A text without the control characters and blanks at its end. -/
def trimEnd (cs : List Char) : List Char :=
  (cs.reverse.dropWhile isControlOrSpace).reverse

/-- A text without tabs and line ends. -/
def unbroken (cs : List Char) : List Char :=
  cs.filter fun c => c != '\t' && c != '\n' && c != '\r'

theorem clean_eq (cs : List Char) :
    clean cs = unbroken (trimEnd (cs.dropWhile isControlOrSpace)) :=
  rfl

theorem trimEnd_append {cs : List Char} (h : trimEnd cs = cs) (ds : List Char) :
    trimEnd (cs ++ ds) = cs ++ trimEnd ds := by
  unfold trimEnd at h ⊢
  rw [List.reverse_append, List.dropWhile_append]
  split
  · rename_i hempty
    rw [List.isEmpty_iff.mp hempty, h, List.reverse_nil, List.append_nil]
  · rw [List.reverse_append, List.reverse_reverse]

theorem trimEnd_concat (cs : List Char) {c : Char} (hc : isControlOrSpace c = false) :
    trimEnd (cs ++ [c]) = cs ++ [c] := by
  rw [trimEnd, List.reverse_append, List.reverse_singleton, List.singleton_append,
    List.dropWhile_cons_of_neg (by simp [hc]), List.reverse_cons, List.reverse_reverse]

theorem unbroken_append (cs ds : List Char) : unbroken (cs ++ ds) = unbroken cs ++ unbroken ds :=
  List.filter_append cs ds

theorem clean_append_slash (before after : List Char) :
    clean (before ++ '/' :: after) =
      unbroken (before.dropWhile isControlOrSpace) ++ '/' :: unbroken (trimEnd after) := by
  have hend : trimEnd (before.dropWhile isControlOrSpace ++ ['/']) =
      before.dropWhile isControlOrSpace ++ ['/'] := trimEnd_concat _ (by decide)
  rw [clean_eq, dropWhile_append_cons before (by decide), List.append_cons, trimEnd_append hend,
    unbroken_append, unbroken_append, List.append_assoc]
  rfl

/-- The name under which entities are served. -/
def services : List Char :=
  ['s', 'e', 'r', 'v', 'i', 'c', 'e', 's']

theorem clean_append (before after : List Char) :
    clean (before ++ '/' :: (services ++ after)) =
      unbroken (before.dropWhile isControlOrSpace) ++ '/' :: services ++
        unbroken (trimEnd after) := by
  have hend : trimEnd services = services := by decide
  rw [clean_append_slash, trimEnd_append hend, unbroken_append, List.append_assoc]
  rfl

theorem exists_of_scheme? {cs scheme rest : List Char} (h : scheme? cs = some (scheme, rest)) :
    ∃ front, cs = front ++ ':' :: rest ∧
      ∀ rest', scheme? (front ++ ':' :: rest') = some (scheme, rest') := by
  cases cs with
  | nil => cases h
  | cons c cs =>
      simp only [scheme?] at h
      split at h
      · rename_i found hfound
        split at h
        · rename_i halpha
          cases h
          have hfront : cs = cs.takeWhile isSchemeChar ++ ':' :: rest := by
            rw [← hfound, List.takeWhile_append_dropWhile]
          have hcolon : isSchemeChar ':' = false := by decide
          have hdrop := dropWhile_append_cons (cs.takeWhile isSchemeChar) hcolon rest
          have htake := takeWhile_append_cons (cs.takeWhile isSchemeChar) hcolon rest
          rw [← hfront] at htake
          rw [← hfront, hfound, List.self_eq_append_left] at hdrop
          refine ⟨c :: cs.takeWhile isSchemeChar, by rw [List.cons_append, ← hfront], ?_⟩
          intro rest'
          simp only [List.cons_append, scheme?, dropWhile_append_cons _ hcolon,
            takeWhile_append_cons _ hcolon, hdrop, ← htake, List.nil_append, halpha, if_true]
        · cases h
      · cases h

theorem exists_rest_of_append {before front rest name : List Char} (hname : ':' ∉ '/' :: name)
    (h : before ++ '/' :: name = front ++ ':' :: rest) :
    ∃ middle, before = front ++ ':' :: middle ∧ rest = middle ++ '/' :: name := by
  rcases List.append_eq_append_iff.mp h with ⟨d, -, hd⟩ | ⟨d, hbefore, hd⟩
  · have hmem : ':' ∈ '/' :: name := hd ▸ List.mem_append_right d List.mem_cons_self
    exact absurd hmem hname
  · cases d with
    | nil => cases hd
    | cons c middle =>
        cases hd
        exact ⟨middle, hbefore, rfl⟩

/-- The part of a text in front of a query and a fragment. -/
def beforeQuery (cs : List Char) : List Char :=
  (cs.takeWhile (· != '#')).takeWhile (· != '?')

theorem trimEnd_eq_self_iff (cs : List Char) :
    trimEnd cs = cs ↔ ∀ c ∈ cs.getLast?, isControlOrSpace c = false := by
  rcases List.eq_nil_or_concat cs with rfl | ⟨init, c, rfl⟩
  · simp [trimEnd]
  · rw [List.concat_eq_append, List.getLast?_concat]
    constructor
    · intro h c' hc'
      cases hc'
      by_contra hcontrol
      rw [Bool.not_eq_false] at hcontrol
      have hlength := congrArg List.length h
      rw [trimEnd, List.reverse_append, List.reverse_singleton, List.singleton_append,
        List.dropWhile_cons_of_pos hcontrol, List.length_reverse, List.length_append] at hlength
      have hle := (List.dropWhile_sublist (p := isControlOrSpace) (l := init.reverse)).length_le
      rw [List.length_reverse] at hle
      simp at hlength
      omega
    · intro h
      exact trimEnd_concat init (h c rfl)

theorem unbroken_eq_self_iff (cs : List Char) :
    unbroken cs = cs ↔ ∀ c ∈ cs, c ∉ ['\t', '\n', '\r'] := by
  rw [unbroken, List.filter_eq_self]
  simp [and_assoc]

theorem beforeQuery_eq_self_iff (cs : List Char) :
    beforeQuery cs = cs ↔ ∀ c ∈ cs, c ∉ ['?', '#'] := by
  constructor
  · intro h c hc
    have hhash : cs.takeWhile (· != '#') = cs := by
      have hsub := List.takeWhile_sublist (p := (· != '?')) (l := cs.takeWhile (· != '#'))
      rw [← beforeQuery, h] at hsub
      exact (List.takeWhile_sublist _).eq_of_length_le hsub.length_le
    rw [beforeQuery, hhash] at h
    have hc₁ := List.takeWhile_eq_self_iff.mp hhash c hc
    have hc₂ := List.takeWhile_eq_self_iff.mp h c hc
    simp_all
  · intro h
    have hhash : cs.takeWhile (· != '#') = cs :=
      List.takeWhile_eq_self_iff.mpr fun c hc => by simpa using fun heq => h c hc (by simp [heq])
    rw [beforeQuery, hhash]
    exact List.takeWhile_eq_self_iff.mpr fun c hc => by
      simpa using fun heq => h c hc (by simp [heq])

theorem cut_append {use : SchemeUse} {cs : List Char} (hquery : (cut use cs).2.1 = none)
    (hfragment : (cut use cs).2.2 = none) (ds : List Char) :
    cut use (cs ++ ds) = (cs ++ beforeQuery ds, (cut use ds).2) := by
  have hhash : ∀ c ∈ cs, (c != '#') = true := by
    rw [← List.dropWhile_eq_nil_iff]
    simp only [cut] at hfragment
    split at hfragment
    · cases hfragment
    · assumption
  have htake : cs.takeWhile (· != '#') = cs := List.takeWhile_eq_self_iff.mpr hhash
  have hquestion : ∀ c ∈ cs, (c != '?') = true := by
    rw [← List.dropWhile_eq_nil_iff]
    simp only [cut, htake] at hquery
    split at hquery
    · cases hquery
    · assumption
  simp only [cut, beforeQuery, List.takeWhile_append_of_pos hhash,
    List.dropWhile_append_of_pos hhash, List.takeWhile_append_of_pos hquestion,
    List.dropWhile_append_of_pos hquestion]

theorem query_eq_none_iff (use : SchemeUse) (cs : List Char) :
    (cut use cs).2.1 = none ↔ '?' ∉ cs.takeWhile (· != '#') := by
  have hnone : (cs.takeWhile (· != '#')).dropWhile (· != '?') = [] ↔
      '?' ∉ cs.takeWhile (· != '#') := by
    rw [List.dropWhile_eq_nil_iff]
    constructor
    · intro h hmem
      exact absurd (h '?' hmem) (by decide)
    · intro h c hc
      exact bne_iff_ne.mpr fun heq => h (heq ▸ hc)
  rw [← hnone]
  simp only [cut]
  split
  · rename_i hcons
    simp [hcons]
  · rename_i hnil
    simp [hnil]

theorem query_eq_none_of_target {u : Url} (h : '?' ∉ u.target.toList) : u.query = none := by
  cases hq : u.query with
  | none => rfl
  | some q =>
      refine absurd ?_ h
      rw [target, String.toList_ofList, queryText, hq]
      exact List.mem_append_right _ List.mem_cons_self

/-- The slashes that a scheme with hosts reads. -/
def slashed (cs : List Char) : List Char :=
  cs.map fun c => if c == '\\' then '/' else c

theorem slashed_of_not_mem {cs : List Char} (h : '\\' ∉ cs) : slashed cs = cs := by
  refine (List.map_congr_left fun c hc => ?_).trans (List.map_id cs)
  rw [if_neg]
  · rfl
  · rw [beq_iff_eq]
    rintro rfl
    exact h hc

theorem back_not_mem_slashed (cs : List Char) : '\\' ∉ slashed cs := by
  intro hmem
  obtain ⟨c, -, hc⟩ := List.mem_map.mp hmem
  split at hc
  · cases hc
  · rename_i hback
    exact hback (beq_iff_eq.mpr hc)

section Hosted

variable {scheme : List Char} {port : Nat} {u : Url} {root : List (List Char)}

/-- A text up to a slash leads to some segments, and what comes after the slash goes on from there. -/
theorem exists_segmentsOf_eq (port : Nat) (before : List Char) :
    ∃ root, Path.Clear root ∧ ∀ after,
      segmentsOf (.hosts port) (before ++ '/' :: after) =
        Path.walk root (splitAt '/' (slashed after)) := by
  obtain ⟨fields, hfields, hread⟩ := Path.exists_read_eq (slashed before)
  have hempty : Path.Clear [] := fun s hs => absurd hs List.not_mem_nil
  refine ⟨fields.foldl Path.follow [], hempty.foldl_follow hfields, fun after => ?_⟩
  have hslashed : slashed (before ++ '/' :: after) = slashed before ++ '/' :: slashed after := by
    rw [slashed, List.map_append]
    rfl
  rw [segmentsOf, if_pos (by rfl), ← Path.walk_append [] fields (splitAt_ne_nil _ _), ← hread,
    ← hslashed]
  rfl

theorem exists_segments_eq (port : Nat) (before : List Char) :
    ∃ root, Path.Clear root ∧
      segmentsOf (.hosts port) (before ++ '/' :: services) = root ++ [services] ∧
      ∀ after, segmentsOf (.hosts port) (before ++ '/' :: (services ++ '/' :: after)) =
        Path.walk (root ++ [services]) (splitAt '/' (slashed after)) := by
  obtain ⟨root, hclear, hsegments⟩ := exists_segmentsOf_eq port before
  have hservices : splitAt '/' services = [services] := by decide
  refine ⟨root, hclear, ?_, fun after => ?_⟩
  · rw [hsegments]
    rfl
  · have hslashed : slashed (services ++ '/' :: after) = services ++ '/' :: slashed after := by
      rw [slashed, List.map_append]
      rfl
    rw [hsegments, hslashed, splitAt_append, hservices, List.singleton_append,
      Path.walk_cons _ _ (splitAt_ne_nil _ _)]
    rfl

/-- A URL whose path goes on after the segments of a service as a text says. -/
def Continues (root : List (List Char)) (after : List Char) (v : Url) : Prop :=
  v.path = .segments (Path.walk (root ++ [services]) (splitAt '/' (slashed (beforeQuery after)))) ∧
    (v.query = none ↔ '?' ∉ after.takeWhile (· != '#'))

/-- The URL of a host whose path, query and fragment are those of a text. -/
def located (scheme : List Char) (port : Nat) (authority : Authority) (cs : List Char) : Url where
  scheme := scheme
  authority := some authority
  path := .segments (segmentsOf (.hosts port) (cut (.hosts port) cs).1)
  query := (cut (.hosts port) cs).2.1
  fragment := (cut (.hosts port) cs).2.2

theorem hosted?_eq (before after : List Char) :
    hosted? scheme (.hosts port) (before ++ '/' :: after) =
      (Authority.read? (.hosts port) (before.takeWhile (!endsAuthority (.hosts port) ·))).map
        fun found => located scheme port found.1
          (found.2 ++ before.dropWhile (!endsAuthority (.hosts port) ·) ++ '/' :: after) := by
  have htake := takeWhile_append_cons (p := (!endsAuthority (.hosts port) ·)) before
    (c := '/') rfl after
  have hdrop := dropWhile_append_cons (p := (!endsAuthority (.hosts port) ·)) before
    (c := '/') rfl after
  rw [hosted?, htake, hdrop]
  cases Authority.read? (.hosts port) (before.takeWhile (!endsAuthority (.hosts port) ·)) with
  | none => rfl
  | some found =>
      refine congrArg some (congrArg (located scheme port found.1) ?_)
      exact (List.append_assoc _ _ _).symm

theorem continues_located {authority : Authority} {before : List Char}
    (hquery : (located scheme port authority (before ++ '/' :: services)).query = none)
    (hfragment : (located scheme port authority (before ++ '/' :: services)).fragment = none)
    (hpath : (located scheme port authority (before ++ '/' :: services)).path =
      .segments (root ++ [services])) :
    Path.Clear root ∧ ∀ after,
      (located scheme port authority (before ++ '/' :: (services ++ '/' :: after))).Continues
        root after := by
  obtain ⟨root', hclear, hroot, hsegments⟩ := exists_segments_eq port before
  have hcut := cut_append hquery hfragment
  have hnil : before ++ '/' :: services = (cut (.hosts port) (before ++ '/' :: services)).1 := by
    simpa [beforeQuery] using congrArg Prod.fst (hcut []).symm
  have hsame : root' = root := by
    simp only [located, Path.segments.injEq] at hpath
    rw [← hnil, hroot] at hpath
    exact List.append_cancel_right hpath
  subst hsame
  refine ⟨hclear, ?_⟩
  intro after
  have htext : before ++ '/' :: (services ++ '/' :: after) =
      (before ++ '/' :: services) ++ '/' :: after := by simp
  have hslash : beforeQuery ('/' :: after) = '/' :: beforeQuery after := by simp [beforeQuery]
  constructor
  · simp only [located]
    rw [htext, hcut, hslash, ← hsegments]
    simp
  · simp only [located]
    rw [htext, hcut, query_eq_none_iff]
    simp

theorem hosted?_append {before : List Char}
    (h : hosted? scheme (.hosts port) (before ++ '/' :: services) = some u)
    (hquery : u.query = none) (hfragment : u.fragment = none)
    (hpath : u.path = .segments (root ++ [services])) :
    Path.Clear root ∧ ∀ after, ∃ v,
      hosted? scheme (.hosts port) (before ++ '/' :: (services ++ '/' :: after)) = some v ∧
        v.Continues root after := by
  rw [hosted?_eq] at h
  obtain ⟨⟨authority, rest⟩, ha, rfl⟩ := Option.map_eq_some_iff.mp h
  obtain ⟨hclear, hcontinues⟩ := continues_located hquery hfragment hpath
  refine ⟨hclear, ?_⟩
  intro after
  exact ⟨_, by rw [hosted?_eq, ha]; rfl, hcontinues after⟩

theorem rest_of_read?_services {authority : Authority} {rest : List Char}
    (h : Authority.read? (.hosts port) services = some (authority, rest)) : rest = [] := by
  have hname : Authority.splitHost false services = (services, []) := by decide
  have huser : Authority.splitLast? '@' services = none := by decide
  have hport : Authority.port? (SchemeUse.hosts port).port? [] = some (none, []) := by rfl
  have hempty : services.isEmpty = false := by rfl
  simp only [Authority.read?, huser, hname, hport, hempty, Bool.false_and, Bool.false_eq_true,
    if_false, Option.bind_eq_bind, Option.bind_some] at h
  cases hhost : Host.read? (SchemeUse.hosts port).isSpecial services with
  | none =>
      rw [hhost, Option.bind_none] at h
      cases h
  | some host =>
      rw [hhost, Option.bind_some, Option.some.injEq, Prod.mk.injEq] at h
      exact h.2.symm

theorem path_of_hosted?_services (h : hosted? scheme (.hosts port) services = some u) :
    u.path = .segments [[]] := by
  have htake : services.takeWhile (!endsAuthority (.hosts port) ·) = services := by rfl
  have hdrop : services.dropWhile (!endsAuthority (.hosts port) ·) = [] := by rfl
  rw [hosted?, htake, hdrop] at h
  cases ha : Authority.read? (.hosts port) services with
  | none =>
      rw [ha] at h
      cases h
  | some found =>
      rw [ha] at h
      cases h
      simp only [rest_of_read?_services ha]
      rfl

theorem hosted?_dropWhile_append {middle : List Char}
    (h : hosted? scheme (.hosts port)
      ((middle ++ '/' :: services).dropWhile (isSlash (.hosts port))) = some u)
    (hquery : u.query = none) (hfragment : u.fragment = none)
    (hpath : u.path = .segments (root ++ [services])) :
    Path.Clear root ∧ ∀ after, ∃ v,
      hosted? scheme (.hosts port)
        ((middle ++ '/' :: (services ++ '/' :: after)).dropWhile (isSlash (.hosts port))) = some v ∧
        v.Continues root after := by
  have hdrop (after : List Char) :
      (middle ++ '/' :: (services ++ after)).dropWhile (isSlash (.hosts port)) =
        (middle ++ ['/']).dropWhile (isSlash (.hosts port)) ++ services ++ after := by
    have hfirst := dropWhile_append_cons (p := isSlash (.hosts port)) (middle ++ ['/'])
      (c := 's') rfl (services.tail ++ after)
    simpa [services] using hfirst
  have hnil := hdrop []
  rw [List.append_nil, List.append_nil] at hnil
  rw [hnil] at h
  by_cases hslashes : (middle ++ ['/']).dropWhile (isSlash (.hosts port)) = []
  · -- the name of the service would be that of the host
    rw [hslashes] at h
    rw [path_of_hosted?_services h, Path.segments.injEq] at hpath
    have hlast := congrArg List.getLast? hpath
    rw [List.getLast?_concat] at hlast
    cases hlast
  · have hconcat : (middle ++ ['/']).dropWhile (isSlash (.hosts port)) =
        middle.dropWhile (isSlash (.hosts port)) ++ ['/'] := by
      rw [List.dropWhile_append] at hslashes ⊢
      split
      · rename_i hempty
        rw [if_pos hempty] at hslashes
        exact absurd rfl hslashes
      · rfl
    rw [hconcat, List.append_assoc] at h
    obtain ⟨hclear, hcontinues⟩ := hosted?_append h hquery hfragment hpath
    refine ⟨hclear, ?_⟩
    intro after
    obtain ⟨v, hv, hafter⟩ := hcontinues after
    refine ⟨v, ?_, hafter⟩
    rw [hdrop, hconcat, ← hv]
    simp

end Hosted

/-- Whether a URL has one of the schemes of requests. -/
def isHttp (u : Url) : Bool :=
  u.scheme == ['h', 't', 't', 'p'] || u.scheme == ['h', 't', 't', 'p', 's']

theorem exists_hosts_of_isHttp {u : Url} (h : u.isHttp) :
    ∃ port, SchemeUse.of u.scheme = .hosts port := by
  rcases Bool.or_eq_true_iff.mp h with hscheme | hscheme
  · exact ⟨80, by rw [beq_iff_eq.mp hscheme]; rfl⟩
  · exact ⟨443, by rw [beq_iff_eq.mp hscheme]; rfl⟩

theorem scheme_of_hosted? {scheme cs : List Char} {use : SchemeUse} {u : Url}
    (h : hosted? scheme use cs = some u) : u.scheme = scheme := by
  rw [hosted?, Option.bind_eq_bind, Option.bind_eq_some_iff] at h
  obtain ⟨found, -, hu⟩ := h
  cases hu
  rfl

theorem scheme_of_file? {scheme cs : List Char} {u : Url} (h : file? scheme cs = some u) :
    u.scheme = scheme := by
  unfold file? at h
  dsimp only at h
  split at h
  · split at h
    all_goals
      obtain ⟨found, -, hu⟩ := Option.bind_eq_some_iff.mp h
      cases hu
      rfl
  · obtain ⟨found, -, hu⟩ := Option.bind_eq_some_iff.mp h
    cases hu
    rfl

theorem scheme_of_other? {scheme cs : List Char} {u : Url} (h : other? scheme cs = some u) :
    u.scheme = scheme := by
  unfold other? at h
  split at h
  · exact scheme_of_hosted? h
  · cases h
    rfl

/-- A URL for requests is read as one with a host. -/
theorem exists_hosted?_of_read? {text : String} {u : Url} (h : read? text = some u)
    (hhttp : u.isHttp) :
    ∃ rest port, scheme? (clean text.toList) = some (u.scheme, rest) ∧
      SchemeUse.of u.scheme = .hosts port ∧
      hosted? u.scheme (.hosts port) (rest.dropWhile (isSlash (.hosts port))) = some u := by
  obtain ⟨port, hport⟩ := exists_hosts_of_isHttp hhttp
  rw [read?, Option.bind_eq_bind, Option.bind_eq_some_iff] at h
  obtain ⟨⟨scheme, rest⟩, hscheme, h⟩ := h
  have hsame : u.scheme = scheme := by
    simp only at h
    split at h
    · exact scheme_of_hosted? h
    · exact scheme_of_file? h
    · exact scheme_of_other? h
  subst hsame
  dsimp only at h
  rw [hport] at h
  exact ⟨rest, port, hscheme, hport, h⟩

theorem read?_of_scheme? {text : String} {scheme rest : List Char} {port : Nat}
    (hscheme : scheme? (clean text.toList) = some (scheme, rest))
    (hport : SchemeUse.of scheme = .hosts port) :
    read? text = hosted? scheme (.hosts port) (rest.dropWhile (isSlash (.hosts port))) := by
  rw [read?, hscheme, Option.bind_eq_bind, Option.bind_some]
  dsimp only
  rw [hport]

/-- What follows the address of a service is the rest of the path, the query and the fragment. -/
theorem read?_append {before : List Char} {u : Url} {root : List (List Char)}
    (h : read? (String.ofList (before ++ '/' :: services)) = some u) (hhttp : u.isHttp)
    (hquery : u.query = none) (hfragment : u.fragment = none)
    (hpath : u.path = .segments (root ++ [services])) :
    Path.Clear root ∧ ∀ after, ∃ v,
      read? (String.ofList (before ++ '/' :: (services ++ '/' :: after))) = some v ∧
        v.Continues root (unbroken (trimEnd after)) := by
  obtain ⟨rest, port, hscheme, hport, hhosted⟩ := exists_hosted?_of_read? h hhttp
  have hclean := clean_append before []
  rw [List.append_nil] at hclean
  rw [String.toList_ofList, hclean] at hscheme
  obtain ⟨front, hfront, hany⟩ := exists_of_scheme? hscheme
  have htrim : unbroken (trimEnd []) = [] := rfl
  rw [htrim, List.append_nil] at hfront
  obtain ⟨middle, hmiddle, rfl⟩ := exists_rest_of_append (by decide) hfront
  obtain ⟨hclear, hcontinues⟩ := hosted?_dropWhile_append hhosted hquery hfragment hpath
  refine ⟨hclear, ?_⟩
  intro after
  obtain ⟨v, hv, hafter⟩ := hcontinues (unbroken (trimEnd after))
  refine ⟨v, ?_, hafter⟩
  have hslash : unbroken (trimEnd ('/' :: after)) = '/' :: unbroken (trimEnd after) := by
    have htrim : trimEnd ('/' :: after) = '/' :: trimEnd after :=
      @trimEnd_append ['/'] rfl after
    rw [htrim]
    rfl
  have htext :
      scheme? (clean (String.ofList (before ++ '/' :: (services ++ '/' :: after))).toList) =
        some (u.scheme, middle ++ '/' :: (services ++ '/' :: unbroken (trimEnd after))) := by
    rw [String.toList_ofList, clean_append, hslash, hmiddle]
    simpa using hany (middle ++ '/' :: (services ++ '/' :: unbroken (trimEnd after)))
  rw [read?_of_scheme? htext hport, hv]

end Url

end IntentProvider.Http
