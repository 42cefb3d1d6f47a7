import IntentProvider.Proofs.Http.Url

/-!
What is read when a text goes on after the slash at the end of a directory. The scheme and whatever
names the host are those of the directory, so that the credentials are, too.
-/

namespace IntentProvider.Http

open IntentProvider.Text

namespace Url

section Hosted

variable {scheme : List Char} {port : Nat} {u : Url}

theorem hosted?_nil (scheme : List Char) (port : Nat) : hosted? scheme (.hosts port) [] = none :=
  rfl

/-- Without a host there is no directory, so that the slashes that a scheme reads end before it. -/
theorem hosted?_slash {middle : List Char}
    (h : hosted? scheme (.hosts port) ((middle ++ ['/']).dropWhile (isSlash (.hosts port))) =
      some u) :
    ∃ (authority : Authority) (front : List Char), ∀ after,
      hosted? scheme (.hosts port) ((middle ++ '/' :: after).dropWhile (isSlash (.hosts port))) =
        some (located scheme port authority (front ++ '/' :: after)) := by
  have hmiddle : middle.dropWhile (isSlash (.hosts port)) ≠ [] := by
    intro hempty
    rw [List.dropWhile_append, hempty, List.isEmpty_nil, if_pos rfl] at h
    exact absurd ((hosted?_nil scheme port).symm.trans h) (by simp)
  have hdrop (after : List Char) :
      (middle ++ '/' :: after).dropWhile (isSlash (.hosts port)) =
        middle.dropWhile (isSlash (.hosts port)) ++ '/' :: after := by
    rw [List.dropWhile_append, if_neg (by simpa using hmiddle)]
  rw [hdrop, hosted?_eq] at h
  obtain ⟨⟨authority, rest⟩, ha, -⟩ := Option.map_eq_some_iff.mp h
  refine ⟨authority, rest ++ (middle.dropWhile (isSlash (.hosts port))).dropWhile
    (!endsAuthority (.hosts port) ·), fun after => ?_⟩
  rw [hdrop, hosted?_eq, ha]
  rfl

end Hosted

/-- What is read after a directory of requests is at the same host. -/
theorem exists_located_of_read? {before : List Char} {u : Url}
    (h : read? (String.ofList (before ++ ['/'])) = some u) (hhttp : u.isHttp) :
    ∃ port authority front, u = located u.scheme port authority (front ++ ['/']) ∧ ∀ after,
      read? (String.ofList (before ++ '/' :: after)) =
        some (located u.scheme port authority (front ++ '/' :: unbroken (trimEnd after))) := by
  obtain ⟨rest, port, hscheme, hport, hhosted⟩ := exists_hosted?_of_read? h hhttp
  rw [String.toList_ofList, clean_append_slash] at hscheme
  obtain ⟨start, hstart, hany⟩ := exists_of_scheme? hscheme
  obtain ⟨middle, hmiddle, rfl⟩ := exists_rest_of_append (by decide) hstart
  obtain ⟨authority, front, hlocated⟩ := hosted?_slash hhosted
  have hread (after : List Char) :
      read? (String.ofList (before ++ '/' :: after)) =
        some (located u.scheme port authority (front ++ '/' :: unbroken (trimEnd after))) := by
    have htext : scheme? (clean (String.ofList (before ++ '/' :: after)).toList) =
        some (u.scheme, middle ++ '/' :: unbroken (trimEnd after)) := by
      rw [String.toList_ofList, clean_append_slash, hmiddle, List.append_assoc, List.cons_append]
      exact hany _
    rw [read?_of_scheme? htext hport, hlocated]
  refine ⟨port, authority, front, ?_, hread⟩
  have hself := hread []
  rw [h, Option.some.injEq] at hself
  exact hself

/-- The credentials in a URL for requests are those of the directory that it begins with. -/
theorem credentials?_of_slash {before after : List Char} {u v : Url}
    (h : read? (String.ofList (before ++ ['/'])) = some u) (hhttp : u.isHttp)
    (hv : read? (String.ofList (before ++ '/' :: after)) = some v) :
    v.credentials? = u.credentials? := by
  obtain ⟨port, authority, front, hu, hread⟩ := exists_located_of_read? h hhttp
  rw [hread, Option.some.injEq] at hv
  rw [hu, ← hv]
  rfl

/-- The segments after a directory are those of the text that goes on after it. -/
theorem read?_slash {before : List Char} {u : Url} {root : List (List Char)}
    (h : read? (String.ofList (before ++ ['/'])) = some u) (hhttp : u.isHttp)
    (hquery : u.query = none) (hfragment : u.fragment = none)
    (hpath : u.path = .segments (root ++ [[]])) :
    Path.Clear root ∧ ∀ after, ∃ v,
      read? (String.ofList (before ++ '/' :: after)) = some v ∧
      v.path = .segments
        (Path.walk root (splitAt '/' (slashed (beforeQuery (unbroken (trimEnd after)))))) ∧
      (v.query = none ↔ '?' ∉ (unbroken (trimEnd after)).takeWhile (· != '#')) := by
  obtain ⟨port, authority, front, hu, hread⟩ := exists_located_of_read? h hhttp
  rw [hu] at hquery hfragment hpath
  have hcut := cut_append hquery hfragment
  obtain ⟨root', hclear, hsegments⟩ := exists_segmentsOf_eq port front
  have hnil : (cut (.hosts port) (front ++ ['/'])).1 = front ++ ['/'] := by
    simpa [beforeQuery] using congrArg Prod.fst (hcut [])
  -- what leads to the directory leads to an empty segment after those of the root
  have hroot : root' = root := by
    simp only [located, Path.segments.injEq] at hpath
    rw [hnil, hsegments] at hpath
    exact List.append_cancel_right hpath
  refine ⟨hroot ▸ hclear, fun after => ⟨_, hread after, ?_, ?_⟩⟩
  · simp only [located]
    rw [List.append_cons, hcut, ← hroot, ← hsegments]
    simp
  · simp only [located]
    rw [List.append_cons, hcut, query_eq_none_iff]

end Url

end IntentProvider.Http
