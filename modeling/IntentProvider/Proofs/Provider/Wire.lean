import IntentProvider.Proofs.Catalogue.Wire
import IntentProvider.Proofs.Entity.Wire
import IntentProvider.Proofs.Security.Wire
import IntentProvider.Provider.Descriptor

/-!
Descriptions of providers are read again from what is written for them, as is everything else that
goes over the wire.
-/

namespace IntentProvider

open IntentProvider.Json
open IntentProvider.Json.Fields
open IntentProvider.Json.Wire

variable {depth : Nat}

theorem Descriptor.settled (hdepth : depth ≠ 0) {d : Descriptor}
    (hkinds : Settled (depth - 1) d.kinds) (hprocedures : Settled (depth - 1) d.procedures)
    (hextension : Settled (depth - 1) d.extensionSchema) (hoauth2 : Settled (depth - 1) d.oauth2) :
    Settled depth d := by
  have hspace := plain_string.settled (depth - 1) d.nameSpace
  have hversion := plain_string.settled (depth - 1) d.version
  have hextra := plain_bool.settled (depth - 1) d.allowExtraProps
  have hpolicy := plain_string.settled_option (depth - 1) d.policy
  have hmodel := plain_string.settled_option (depth - 1) d.authModel
  have hlayout : Layout (["prefix", "version", "kinds", "procedures", "extension_structure",
      "allowExtraProps"] ++ ["policy"] ++ ["oauth2"] ++ ["authModel"]) (depth - 1) _ :=
    .append (.append (.append (.cons hspace.lasting (.cons hversion.lasting (.cons hkinds.lasting
      (.cons hprocedures.lasting (.cons hextension.lasting (.cons hextra.lasting .nil))))))
      (.optional hpolicy)) (.optional hoauth2)) (.optional hmodel)
  refine settled_of_layout rfl hlayout (by decide) hdepth ?_
  refine (bind_read? hlayout (by decide) hdepth).trans ?_
  refine (bind_required hspace rfl).trans ?_
  refine (bind_required hversion rfl).trans ?_
  refine (bind_required hkinds rfl).trans ?_
  refine (bind_required hprocedures rfl).trans ?_
  refine (bind_required hextension rfl).trans ?_
  refine (bind_required hextra rfl).trans ?_
  refine (bind_optional hpolicy (by simp [List.lookup_append, List.lookup_cons])).trans ?_
  refine (bind_optional hoauth2 (by simp [List.lookup_append, List.lookup_cons])).trans ?_
  exact bind_optional hmodel (by simp [List.lookup_append, List.lookup_cons])

theorem Descriptor.steady : Steady Descriptor 6 := by
  intro depth t d hdepth ht h
  simp only [Wire.read?, Option.bind_eq_bind, Option.bind_eq_some_iff] at h
  obtain ⟨fs, hfs, _, -, _, -, kinds, hkinds, procedures, hprocedures, extensionSchema, hextension,
    _, -, _, -, oauth2, hoauth2, _, -, h⟩ := h
  cases h
  have hwhole := (whole_of_read? ht hfs).1
  have hvalue : Steady (Option Value) 0 := steady_option steady_value solid_value
  exact Descriptor.settled (by omega)
    (settled_of_required hwhole (steady_list Kind.steady) (by omega) hkinds)
    (settled_of_required hwhole (steady_map Signature.steady) (by omega) hprocedures)
    (settled_of_required hwhole steady_value (Nat.zero_le _) hextension)
    (settled_of_orDefault hwhole hvalue (Nat.zero_le _) (settled_none _) hoauth2)

/-- Everything that goes over the wire is stable: whatever form an accepted text has, the text that
is written for the value it gives is accepted, gives this value, and so is written back as it is. -/
theorem wire_stable :
    Stable Reference ∧ Stable Metadata ∧ Stable Entity ∧ Stable Construction ∧
      Stable Strategy ∧ Stable Behaviour ∧ Stable Signature ∧ Stable Hook ∧ Stable Kind ∧
      Stable Descriptor ∧ Stable Credential ∧ Stable CredentialRequest ∧ Stable Action :=
  ⟨Reference.steady.stable (by decide), Metadata.steady.stable (by decide),
    Entity.steady.stable (by decide), Construction.steady.stable (by decide),
    Strategy.plain.steady.stable (by decide), Behaviour.plain.steady.stable (by decide),
    Signature.steady.stable (by decide), Hook.steady.stable (by decide),
    Kind.steady.stable (by decide), Descriptor.steady.stable (by decide),
    Credential.steady.stable (by decide), CredentialRequest.steady.stable (by decide),
    Action.plain.steady.stable (by decide)⟩

theorem wire_stable_positional :
    ∃ e : Entity, ofText? Entity "[[\"e-1\",\"Bucket\"],null]" = some e ∧
      text e = "\x7b\"metadata\":\x7b\"uuid\":\"e-1\",\"kind\":\"Bucket\",\"spec_version\":0," ++
        "\"extension\":\x7b\x7d\x7d,\"spec\":\x7b\x7d,\"status\":\x7b\x7d\x7d" ∧
      ofText? Entity (text e) = some e := by
  have hv : (Value.array [.array [.string "e-1", .string "Bucket"], .null]).Whole :=
    .array (List.forall_mem_cons.mpr ⟨.array (List.forall_mem_cons.mpr ⟨.string "e-1",
      List.forall_mem_singleton.mpr (.string "Bucket")⟩), List.forall_mem_singleton.mpr .null⟩)
  have htext : (Value.array [.array [.string "e-1", .string "Bucket"], .null]).text =
      "[[\"e-1\",\"Bucket\"],null]" := by decide +kernel
  have hread : ofText? Entity "[[\"e-1\",\"Bucket\"],null]" =
      some ⟨{ uuid := "e-1", kind := "Bucket" }, {}, {}⟩ := by
    rw [← htext, ofText?, Tree.ofText?_text hv, Option.bind_some]
    rfl
  exact ⟨_, hread, by decide +kernel, wire_stable.2.2.1 _ _ (htext ▸ wholeText_text hv) hread⟩

end IntentProvider
