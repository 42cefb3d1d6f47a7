import IntentProvider.Catalogue.Name
import IntentProvider.Proofs.Map.Sorted
import IntentProvider.Proofs.Text.Decimal
import IntentProvider.Proofs.Text.Utf8

/-!
Which texts are error codes, and what is said about a map with other keys. An error code is a number
from 400 to 599, written with any number of zeros before it and perhaps a plus sign before these. Of
several keys that are none, the one with the least bytes is reported.
-/

namespace IntentProvider.ErrorCode

open IntentProvider.Text.Radix
open IntentProvider.Text.Utf8
open IntentProvider.Text.Percent (utf8)

/-- A text is an error code: perhaps a plus sign, any number of zeros, and the digits of a number from
400 to 599. -/
def IsWritten (code : String) : Prop :=
  ∃ n, 400 ≤ n ∧ n ≤ 599 ∧ StandsFor code.toList n

/-- A key is no error code, and of all such keys it has the least bytes. -/
structure FirstOutside (errors : ErrorSchemas) (code : String) : Prop where
  mem : code ∈ errors.keys
  outside : ¬IsWritten code
  least : ∀ other ∈ errors.keys, ¬IsWritten other → utf8 code.toList ≤ utf8 other.toList

theorem isValid_iff {code : String} :
    isValid code = true ↔
      ∃ n, Text.Radix.read? 10 65536 code.toList = some n ∧ 400 ≤ n ∧ n ≤ 599 := by
  unfold isValid
  cases Text.Radix.read? 10 65536 code.toList with
  | none => simp
  | some n => simp

theorem isValid_iff_isWritten {code : String} : isValid code = true ↔ IsWritten code := by
  rw [isValid_iff]
  constructor
  · rintro ⟨n, hread, hlow, hhigh⟩
    obtain ⟨hsigned, hnumber, -⟩ := (read?_eq_some_iff (by decide) (by decide)).mp hread
    exact ⟨n, hlow, hhigh, (isSigned_and_number_eq_iff (by omega)).mp ⟨hsigned, hnumber⟩⟩
  · rintro ⟨n, hlow, hhigh, hcode⟩
    obtain ⟨hsigned, hnumber⟩ := (isSigned_and_number_eq_iff (by omega)).mpr hcode
    have hlimit : n < 65536 := by omega
    exact ⟨n, (read?_eq_some_iff (by decide) (by decide)).mpr ⟨hsigned, hnumber, hlimit⟩, hlow, hhigh⟩

section Validate

variable {procedure code other : String} {errors : ErrorSchemas}

theorem validate_eq_ok_iff :
    validate procedure errors = .ok () ↔ ∀ code ∈ errors.keys, isValid code = true := by
  unfold validate
  cases hfind : errors.keys.find? fun code => !isValid code with
  | some code =>
      have hmem := List.mem_of_find?_eq_some hfind
      have hcode := List.find?_some hfind
      simp only [reduceCtorEq, false_iff]
      intro h
      simp [h code hmem] at hcode
  | none => simpa using hfind

theorem firstOutside_of_find? (h : errors.keys.find? (fun code => !isValid code) = some code) :
    FirstOutside errors code := by
  obtain ⟨hcode, before, after, hkeys, hbefore⟩ := List.find?_eq_some_iff_append.mp h
  have hascending := errors.pairwise_keys
  rw [hkeys] at hascending
  have hafter := (List.pairwise_cons.mp (List.pairwise_append.mp hascending).2.1).1
  constructor
  · exact List.mem_of_find?_eq_some h
  · simpa [← isValid_iff_isWritten] using hcode
  · intro other hother houtside
    rw [utf8_le_utf8_iff]
    rw [hkeys, List.mem_append, List.mem_cons] at hother
    rcases hother with hother | rfl | hother
    · have hvalid : isValid other = true := by simpa using hbefore other hother
      exact absurd (isValid_iff_isWritten.mp hvalid) houtside
    · exact String.le_refl _
    · exact Std.le_of_lt (hafter other hother)

theorem FirstOutside.unique (h : FirstOutside errors code) (h' : FirstOutside errors other) :
    code = other :=
  String.le_antisymm (utf8_le_utf8_iff.mp (h.least other h'.mem h'.outside))
    (utf8_le_utf8_iff.mp (h'.least code h.mem h.outside))

theorem validate_eq_error_iff {failure : Failure} :
    validate procedure errors = .error failure ↔
      ∃ code, failure = .invalidErrorCode procedure code ∧ FirstOutside errors code := by
  unfold validate
  cases hfind : errors.keys.find? fun code => !isValid code with
  | some code =>
      have hfirst := firstOutside_of_find? hfind
      constructor
      · intro h
        cases h
        exact ⟨code, rfl, hfirst⟩
      · rintro ⟨other, rfl, hother⟩
        rw [hfirst.unique hother]
  | none =>
      have hvalid : ∀ code ∈ errors.keys, isValid code = true := by simpa using hfind
      constructor
      · intro h
        cases h
      · rintro ⟨code, -, hcode⟩
        exact absurd (isValid_iff_isWritten.mp (hvalid code hcode.mem)) hcode.outside

/-- A map of error schemas is accepted if its keys are error codes. Otherwise the key with the least
bytes that is none is reported, and a key is none if its number is too large, however large. -/
theorem validate_by_grammar (procedure : String) (errors : ErrorSchemas) :
    (validate procedure errors = .ok () ↔ ∀ code ∈ errors.keys, IsWritten code) ∧
    (∀ failure, validate procedure errors = .error failure ↔
      ∃ code, failure = .invalidErrorCode procedure code ∧ FirstOutside errors code) ∧
    (∀ code ∈ errors.keys, ∀ n, StandsFor code.toList n → 65535 < n →
      ∃ failure, validate procedure errors = .error failure) := by
  have hok : validate procedure errors = .ok () ↔ ∀ code ∈ errors.keys, IsWritten code := by
    simp only [validate_eq_ok_iff, isValid_iff_isWritten]
  refine ⟨hok, fun _ => validate_eq_error_iff, fun code hcode n hn hlarge => ?_⟩
  cases hvalidate : validate procedure errors with
  | error failure => exact ⟨failure, rfl⟩
  | ok =>
      obtain ⟨m, hlow, hhigh, hm⟩ := hok.mp hvalidate code hcode
      have hsame : m = n := hm.unique (by omega) (by omega) hn
      omega

/-- Codes of which one stands for 404 with zeros, and another one for 404 beyond 16 bits. -/
def declared : ErrorSchemas :=
  .ofList [("teapot", .object []), ("+00404", .object []), ("65940", .object [])]

theorem validate_by_grammar_declared :
    IsWritten "+00404" ∧ StandsFor "65940".toList 65940 ∧ FirstOutside declared "65940" ∧
      ∃ failure, validate "moveX" declared = .error failure := by
  have hlarge : StandsFor "65940".toList 65940 := ⟨[], 0, .inl rfl, by decide⟩
  have hvalidate : validate "moveX" declared = .error (.invalidErrorCode "moveX" "65940") := rfl
  obtain ⟨-, herror, hrejected⟩ := validate_by_grammar "moveX" declared
  refine ⟨⟨404, by decide, by decide, ['+'], 2, .inr rfl, by decide⟩, hlarge, ?_,
    hrejected "65940" (by decide) 65940 hlarge (by decide)⟩
  obtain ⟨code, hcode, hfirst⟩ := (herror _).mp hvalidate
  cases hcode
  exact hfirst

end Validate

end IntentProvider.ErrorCode
