import IntentProvider.Proofs.Json.Fields
import IntentProvider.Security.Credential

/-!
Credentials, requests for them and actions are read again from what is written for them.
-/

namespace IntentProvider

open IntentProvider.Json
open IntentProvider.Json.Fields
open IntentProvider.Json.Wire

variable {depth : Nat}

theorem Credential.settled (hdepth : depth ≠ 0) {c : Credential}
    (h : Settled (depth - 1) (LaxDocument.mk c.userInfo)) : Settled depth c := by
  have hname := plain_string.settled_option (depth - 1) c.name
  have howner := plain_string.settled (depth - 1) c.owner
  have hspace := plain_string.settled (depth - 1) c.nameSpace
  have hkey := plain_string.settled (depth - 1) c.key
  have huuid := plain_string.settled (depth - 1) c.uuid
  have hcreated := plain_instant.settled_option (depth - 1) c.createdAt
  have hdeleted := plain_instant.settled_option (depth - 1) c.deletedAt
  have hlayout : Layout (["name"] ++ ["owner", "provider_prefix", "key", "uuid"] ++
      ["created_at"] ++ ["deleted_at"] ++ ["user_info"]) (depth - 1) _ :=
    .append (.append (.append (.append (.optional hname)
      (.cons howner.lasting (.cons hspace.lasting (.cons hkey.lasting
        (.cons huuid.lasting .nil))))) (.optional hcreated)) (.optional hdeleted))
      (.cons h.lasting .nil)
  refine settled_of_layout rfl hlayout (by decide) hdepth ?_
  refine (bind_read? hlayout (by decide) hdepth).trans ?_
  refine (bind_optional hname (by simp [List.lookup_append, List.lookup_cons])).trans ?_
  refine (bind_required howner (by simp [List.lookup_append])).trans ?_
  refine (bind_required hspace (by simp [List.lookup_append, List.lookup_cons])).trans ?_
  refine (bind_required hkey (by simp [List.lookup_append, List.lookup_cons])).trans ?_
  refine (bind_required huuid (by simp [List.lookup_append, List.lookup_cons])).trans ?_
  refine (bind_optional hcreated (by simp [List.lookup_append, List.lookup_cons])).trans ?_
  refine (bind_optional hdeleted (by simp [List.lookup_append, List.lookup_cons])).trans ?_
  exact bind_orDefault h (.inl (by simp [List.lookup_append, List.lookup_cons]))

theorem Credential.steady : Steady Credential 2 := by
  intro depth t c hdepth ht h
  simp only [Wire.read?, Option.bind_eq_bind, Option.bind_eq_some_iff] at h
  obtain ⟨fs, hfs, _, -, _, -, _, -, _, -, _, -, _, -, _, -, userInfo, huserInfo, h⟩ := h
  cases h
  have hwhole := (whole_of_read? ht hfs).1
  exact Credential.settled (by omega) (settled_of_orDefault hwhole steady_lax (by omega)
    (settled_lax_empty (by omega)) huserInfo)

theorem CredentialRequest.settled (hdepth : depth ≠ 0) {c : CredentialRequest}
    (h : Settled (depth - 1) c.userInfo) : Settled depth c := by
  have hname := plain_string.settled_option (depth - 1) c.name
  have howner := plain_string.settled_option (depth - 1) c.owner
  have hkey := plain_string.settled_option (depth - 1) c.key
  have hlayout : Layout (["name"] ++ ["owner"] ++ ["key"] ++ ["user_info"]) (depth - 1) _ :=
    .append (.append (.append (.optional hname) (.optional howner)) (.optional hkey)) (.optional h)
  refine settled_of_layout rfl hlayout (by decide) hdepth ?_
  refine (bind_read? hlayout (by decide) hdepth).trans ?_
  refine (bind_optional hname (by simp [List.lookup_append])).trans ?_
  refine (bind_optional howner (by simp [List.lookup_append])).trans ?_
  refine (bind_optional hkey (by simp [List.lookup_append])).trans ?_
  exact bind_optional h (by simp [List.lookup_append])

theorem CredentialRequest.steady : Steady CredentialRequest 1 := by
  intro depth t c hdepth ht h
  simp only [Wire.read?, Option.bind_eq_bind, Option.bind_eq_some_iff] at h
  obtain ⟨fs, hfs, _, -, _, -, _, -, userInfo, huserInfo, h⟩ := h
  cases h
  have hwhole := (whole_of_read? ht hfs).1
  have hdocument : Steady (Option Document) 0 := steady_option steady_document solid_document
  exact CredentialRequest.settled (by omega)
    (settled_of_orDefault hwhole hdocument (Nat.zero_le _) (settled_none _) huserInfo)

theorem Action.plain : Plain Action :=
  plain_of_string Action.name (fun _ => rfl) fun _ a => Action.ofName?_name a

end IntentProvider
