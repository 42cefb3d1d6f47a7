/-!
Routes and the paths that they serve. A colon in a route captures what stands in a path up to the
next slash, and is followed by a name up to the next slash; a star captures all that is left. A
route without these serves one path, which is the same text. Of several routes that serve a path,
the one whose text agrees with it for longer is preferred.
-/

namespace IntentProvider.Route

/-- Whether a route serves a path. A capture is empty only in front of a slash. -/
def serves : List Char → List Char → Bool
  | [], path => path.isEmpty
  | _ :: _, [] => false
  | c :: route, d :: path =>
    if c == ':' then serves (route.dropWhile (· != '/')) ((d :: path).dropWhile (· != '/'))
    else c == '*' || (c == d && serves route path)
termination_by route => route.length
decreasing_by
  · exact Nat.lt_succ_of_le (List.dropWhile_sublist _).length_le
  · exact Nat.lt_succ_self _

/-- Whether the first of two routes that serve a path is preferred to the second. -/
def isPreferred : List Char → List Char → Bool
  | c :: route, d :: other =>
    if c != d then d == '*' || (d == ':' && c != '*')
    else if c == ':' then isPreferred (route.dropWhile (· != '/')) (other.dropWhile (· != '/'))
    else isPreferred route other
  | _, _ => true
termination_by route => route.length
decreasing_by
  · exact Nat.lt_succ_of_le (List.dropWhile_sublist _).length_le
  · exact Nat.lt_succ_self _

/-- Whether a character of a route captures. -/
def isCapture (c : Char) : Bool :=
  c == ':' || c == '*'

theorem serves_iff_eq {route path : List Char} (h : ∀ c ∈ route, isCapture c = false) :
    serves route path ↔ path = route := by
  induction route generalizing path with
  | nil => simp [serves]
  | cons c route ih =>
      have hc : c ≠ ':' ∧ c ≠ '*' := by simpa [isCapture] using h c (by simp)
      cases path with
      | nil => simp [serves]
      | cons d path =>
          have hr : serves route path ↔ path = route := ih fun x hx => h x (by simp [hx])
          rw [serves]
          simp only [hc.1, hc.2, beq_iff_eq, if_false, Bool.or_eq_true, false_or,
            Bool.and_eq_true, hr, List.cons.injEq]
          exact ⟨fun h => ⟨h.1.symm, h.2⟩, fun h => ⟨h.1.symm, h.2⟩⟩

example : serves "/:kind/p".toList "/K/p".toList ∧ ¬ serves "/:kind/p".toList "/K/q".toList := by
  decide +kernel

example : serves "/a/*rest".toList "/a/b/c".toList ∧ ¬ serves "/a/*rest".toList "/a/".toList := by
  decide +kernel

example :
    isPreferred "/a/:x".toList "/:y/b".toList ∧ ¬ isPreferred "/:y/b".toList "/a/:x".toList := by
  decide +kernel

end IntentProvider.Route
