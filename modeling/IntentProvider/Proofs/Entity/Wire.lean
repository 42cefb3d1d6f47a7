import IntentProvider.Entity.Basic
import IntentProvider.Proofs.Json.Fields

/-!
Entities and their parts are read again from what is written for them. What may be free in them (the
extension, the spec, the status) is settled because it was read; the rest is plain.
-/

namespace IntentProvider

open IntentProvider.Json
open IntentProvider.Json.Fields
open IntentProvider.Json.Wire

variable {depth : Nat}

theorem Reference.settled (hdepth : depth ≠ 0) (r : Reference) : Settled depth r := by
  have huuid := plain_string.settled (depth - 1) r.uuid
  have hkind := plain_string.settled (depth - 1) r.kind
  have hlayout : Layout ["uuid", "kind"] (depth - 1) _ :=
    .cons huuid.lasting (.cons hkind.lasting .nil)
  refine settled_of_layout rfl hlayout (by decide) hdepth ?_
  refine (bind_read? hlayout (by decide) hdepth).trans ?_
  refine (bind_required huuid rfl).trans ?_
  exact bind_required hkind rfl

theorem Reference.steady : Steady Reference 1 :=
  fun _ _ r hdepth _ _ => r.settled (by omega)

theorem Metadata.settled (hdepth : depth ≠ 0) {m : Metadata}
    (h : Settled (depth - 1) (LaxDocument.mk m.extension)) : Settled depth m := by
  have huuid := plain_string.settled (depth - 1) m.uuid
  have hkind := plain_string.settled (depth - 1) m.kind
  have hversion := plain_uint64.settled (depth - 1) m.specVersion
  have hcreated := plain_instant.settled_option (depth - 1) m.createdAt
  have hdeleted := plain_instant.settled_option (depth - 1) m.deletedAt
  have hlayout : Layout (["uuid", "kind", "spec_version"] ++ ["created_at"] ++ ["deleted_at"] ++
      ["extension"]) (depth - 1) _ :=
    .append (.append (.append
      (.cons huuid.lasting (.cons hkind.lasting (.cons hversion.lasting .nil)))
      (.optional hcreated)) (.optional hdeleted)) (.cons h.lasting .nil)
  refine settled_of_layout rfl hlayout (by decide) hdepth ?_
  refine (bind_read? hlayout (by decide) hdepth).trans ?_
  refine (bind_orDefault huuid (.inl rfl)).trans ?_
  refine (bind_orDefault hkind (.inl rfl)).trans ?_
  refine (bind_orDefault hversion (.inl rfl)).trans ?_
  refine (bind_optional hcreated (by simp [List.lookup_append, List.lookup_cons])).trans ?_
  refine (bind_optional hdeleted (by simp [List.lookup_append, List.lookup_cons])).trans ?_
  exact bind_orDefault h (.inl (by simp [List.lookup_append, List.lookup_cons]))

theorem Metadata.steady : Steady Metadata 2 := by
  intro depth t m hdepth ht h
  simp only [Wire.read?, Option.bind_eq_bind, Option.bind_eq_some_iff] at h
  obtain ⟨fs, hfs, _, -, _, -, _, -, _, -, _, -, extension, hextension, h⟩ := h
  cases h
  have hwhole := (whole_of_read? ht hfs).1
  exact Metadata.settled (by omega) (settled_of_orDefault hwhole steady_lax (by omega)
    (settled_lax_empty (by omega)) hextension)

theorem Entity.settled (hdepth : depth ≠ 0) {e : Entity}
    (hmetadata : Settled (depth - 1) e.metadata)
    (hspec : Settled (depth - 1) (LaxDocument.mk e.spec))
    (hstatus : Settled (depth - 1) (LaxDocument.mk e.status)) : Settled depth e := by
  have hlayout : Layout ["metadata", "spec", "status"] (depth - 1) _ :=
    .cons hmetadata.lasting (.cons hspec.lasting (.cons hstatus.lasting .nil))
  refine settled_of_layout rfl hlayout (by decide) hdepth ?_
  refine (bind_read? hlayout (by decide) hdepth).trans ?_
  refine (bind_orDefault hmetadata (.inl rfl)).trans ?_
  refine (bind_orDefault hspec (.inl rfl)).trans ?_
  exact bind_orDefault hstatus (.inl rfl)

theorem Entity.steady : Steady Entity 3 := by
  intro depth t e hdepth ht h
  simp only [Wire.read?, Option.bind_eq_bind, Option.bind_eq_some_iff] at h
  obtain ⟨fs, hfs, metadata, hmetadata, spec, hspec, status, hstatus, h⟩ := h
  cases h
  have hwhole := (whole_of_read? ht hfs).1
  have hempty : Settled (depth - 1) (LaxDocument.mk {}) := settled_lax_empty (by omega)
  have hbare : Settled (depth - 1) ({} : Metadata) :=
    Metadata.settled (by omega) (settled_lax_empty (by omega))
  exact Entity.settled (by omega)
    (settled_of_orDefault hwhole Metadata.steady (by omega) hbare hmetadata)
    (settled_of_orDefault hwhole steady_lax (by omega) hempty hspec)
    (settled_of_orDefault hwhole steady_lax (by omega) hempty hstatus)

theorem Construction.settled (hdepth : depth ≠ 0) {c : Construction}
    (hspec : Settled (depth - 1) c.spec) (hstatus : Settled (depth - 1) c.status)
    (hmetadata : Settled (depth - 1) c.metadata) : Settled depth c := by
  have hlayout : Layout (["spec", "status"] ++ ["metadata"]) (depth - 1) _ :=
    .append (.cons hspec.lasting (.cons hstatus.lasting .nil)) (.optional hmetadata)
  refine settled_of_layout rfl hlayout (by decide) hdepth ?_
  refine (bind_read? hlayout (by decide) hdepth).trans ?_
  refine (bind_required hspec rfl).trans ?_
  refine (bind_required hstatus rfl).trans ?_
  exact bind_optional hmetadata (by simp [List.lookup_cons])

theorem Construction.steady : Steady Construction 1 := by
  intro depth t c hdepth ht h
  simp only [Wire.read?, Option.bind_eq_bind, Option.bind_eq_some_iff] at h
  obtain ⟨fs, hfs, spec, hspec, status, hstatus, metadata, hmetadata, h⟩ := h
  cases h
  have hwhole := (whole_of_read? ht hfs).1
  have hvalue : Steady (Option Value) 0 := steady_option steady_value solid_value
  exact Construction.settled (by omega)
    (settled_of_required hwhole steady_document (Nat.zero_le _) hspec)
    (settled_of_required hwhole steady_document (Nat.zero_le _) hstatus)
    (settled_of_orDefault hwhole hvalue (Nat.zero_le _) (settled_none _) hmetadata)

end IntentProvider
