import IntentProvider.Callback.Context
import IntentProvider.Proofs.Engine.Operation

/-!
Permission checks. Main statement: a check is at most one request, which lists all that is asked for
and shows the token of the user, and it allows something exactly if a reply to this request says so.
Without a token, and whatever else goes wrong, it refuses.
-/

namespace IntentProvider

open IntentProvider.Http
open IntentProvider.Json
open IntentProvider.Text

/-- The token that headers bring: the rest of their first authorization, without the blanks around
it, if this authorization can be read and announces a bearer. -/
def Http.Headers.Bring (h : Headers) (token : String) : Prop :=
  ∃ value rest, h.text? "authorization" = some value ∧
    (value.toList = "Bearer ".toList ++ rest ∨ value.toList = "bearer ".toList ++ rest) ∧
    trim rest ≠ [] ∧ token = String.ofList (trim rest)

theorem Client.allows_iff {answer : Value} :
    Client.allows answer = true ↔ answer.get? "success" = some (.string "Ok") := by
  rw [Client.allows, beq_iff_eq, Value.bind_string?_eq_some_iff]

/-- An operation brings something only with a reply that reports success and says it. -/
theorem Client.Operation.received_eq_ok_iff {op : Client.Operation}
    {answer : Except Http.Failure Reply} {a : op.Result} :
    Client.received op.subject op.understand answer = .ok a ↔ ∃ r, answer = .ok r ∧
      (200 ≤ r.status.toNat ∧ r.status.toNat ≤ 299) ∧ op.understood? r = some a := by
  have houtcome := op.outcome_received answer
  constructor
  · intro h
    rw [h] at houtcome
    cases houtcome with
    | done r a hstatus ha => exact ⟨r, rfl, hstatus, ha⟩
  · rintro ⟨r, rfl, hstatus, ha⟩
    exact houtcome.unique (.done r a hstatus ha)

namespace Callback

theorem afterBearer?_eq_some_iff {value : String} {rest : List Char} :
    afterBearer? value = some rest ↔
      value.toList = "Bearer ".toList ++ rest ∨ value.toList = "bearer ".toList ++ rest := by
  have hdrop (word : String) (hword : word.toList.length = 7) :
      word.toList.isPrefixOf value.toList ∧ value.toList.drop 7 = rest ↔
        value.toList = word.toList ++ rest := by
    rw [List.isPrefixOf_iff_prefix]
    constructor
    · rintro ⟨⟨after, hafter⟩, rfl⟩
      rw [← hafter, ← hword, List.drop_left]
    · intro h
      rw [h, ← hword, List.drop_left]
      exact ⟨List.prefix_append _ _, rfl⟩
  rw [← hdrop "Bearer " rfl, ← hdrop "bearer " rfl, ← or_and_right, ← Bool.or_eq_true, afterBearer?]
  split
  · rename_i hword
    rw [Option.some.injEq, and_iff_right hword]
  · rename_i hother
    constructor
    · rintro ⟨⟩
    · rintro ⟨hword, -⟩
      exact absurd hword hother

theorem invokingToken_eq_ok_iff {c : Callback} {token : String} :
    c.invokingToken = .ok token ↔ c.headers.Bring token := by
  constructor
  · intro h
    unfold invokingToken at h
    split at h
    · cases h
    · rename_i value hvalue
      split at h
      · rename_i kept hkept
        cases h
        rw [Option.filter_eq_some_iff, Option.map_eq_some_iff] at hkept
        obtain ⟨⟨rest, hrest, rfl⟩, hne⟩ := hkept
        exact ⟨value, rest, hvalue, afterBearer?_eq_some_iff.mp hrest, by simpa using hne, rfl⟩
      · cases h
  · rintro ⟨value, rest, hvalue, hword, hne, rfl⟩
    have hkept : ((afterBearer? value).map trim).filter (fun t => !t.isEmpty) =
        some (trim rest) := by
      rw [afterBearer?_eq_some_iff.mpr hword, Option.map_some, Option.filter_some, if_pos]
      simpa using hne
    simp only [invokingToken, hvalue, hkept]

/-- Somebody with this token is the one for whom a check is made. -/
def ActsFor (c : Callback) (given : Option String) (token : String) : Prop :=
  given = some token ∨ given = none ∧ c.headers.Bring token

/-- A check as an operation of the client. -/
def checking (c : Callback) (checks : List (Action × Entity)) : Client.Operation :=
  .checkPermission c.identity.nameSpace c.identity.version (checkDocument checks)

/-- The request of a check for somebody with a token, where `u` is read from the URL of the engine
with the path of the check after it. -/
structure Asks (c : Callback) (checks : List (Action × Entity)) (token : String) (u : Url)
    (q : Request) : Prop where
  formable : Request.Formable (c.client.baseUrl ++ (c.checking checks).path) token u
  method : q.method = .post
  url : q.url = u.withoutCredentials
  body : q.body =
    some (.array (checks.map fun check => .array [Wire.write check.1, Wire.write check.2]))
  authorization :
    q.authorization = u.credentials?.toList.map Request.basic ++ [Request.bearer token]

/-- What a check exchanges with the engine, and when it allows what it asks for. -/
structure Checked (c : Callback) (checks : List (Action × Entity)) (given : Option String)
    (log : List (Exchange Effect.Answer)) (allowed : Bool) : Prop where
  once : log = [] ∨ ∃ token u q answer, c.ActsFor given token ∧ c.Asks checks token u q ∧
    log = [⟨.send q, answer⟩]
  asked : ∀ token u, c.ActsFor given token →
    Request.Formable (c.client.baseUrl ++ (c.checking checks).path) token u →
    ∃ q answer, c.Asks checks token u q ∧ log = [⟨.send q, answer⟩]
  tokenless : (∀ token, ¬ c.ActsFor given token) → log = [] ∧ allowed = false
  allowed_iff : allowed = true ↔ ∃ token u q r answer,
    c.ActsFor given token ∧ c.Asks checks token u q ∧ log = [⟨.send q, .ok r⟩] ∧
      (200 ≤ r.status.toNat ∧ r.status.toNat ≤ 299) ∧ r.decode? Value = some answer ∧
      answer.get? "success" = some (.string "Ok")

section Check

variable {σ : Type} {world : (q : Effect) → σ → q.Answer × σ} {c : Callback}
  {checks : List (Action × Entity)} {given : Option String} {token : String}

theorem actsFor_iff :
    c.ActsFor given token ↔ (given.map Except.ok).getD c.invokingToken = .ok token := by
  cases given with
  | none => simp [ActsFor, invokingToken_eq_ok_iff]
  | some other => simp [ActsFor]

theorem ActsFor.unique {other : String} (h : c.ActsFor given token)
    (hother : c.ActsFor given other) : other = token := by
  rw [actsFor_iff] at h hother
  exact Except.ok.inj (hother.symm.trans h)

theorem checkPermission_of_not_actsFor (h : ∀ token, ¬ c.ActsFor given token) :
    c.checkPermission checks given = .done false := by
  unfold checkPermission
  split
  · rfl
  · rename_i token htoken
    exact absurd (actsFor_iff.mpr htoken) (h token)

/-- What a check makes of the outcome of its request. -/
def granted : Except Failure Bool → Bool
  | .ok allowed => allowed
  | .error _ => false

theorem checkPermission_of_actsFor (h : c.ActsFor given token) :
    c.checkPermission checks given =
      ((c.checking checks).perform (c.client.withKey token)).bind fun answer =>
        .done (granted answer) := by
  rw [actsFor_iff] at h
  rw [checkPermission, h]
  refine congrArg (Script.bind _) (funext fun answer => ?_)
  cases answer <;> rfl

theorem granted_received_iff {answer : Except Http.Failure Reply} :
    granted (Client.received (c.checking checks).subject (c.checking checks).understand answer) =
        true ↔
      ∃ r, answer = .ok r ∧ (200 ≤ r.status.toNat ∧ r.status.toNat ≤ 299) ∧
        ∃ value, r.decode? Value = some value ∧ value.get? "success" = some (.string "Ok") := by
  have hgranted (a : Except Failure Bool) : granted a = true ↔ a = .ok true := by
    cases a <;> simp [granted]
  have hdecoded (r : Reply) : (c.checking checks).understood? r = some true ↔
      ∃ value, r.decode? Value = some value ∧ value.get? "success" = some (.string "Ok") := by
    simp only [← Client.allows_iff]
    exact Option.map_eq_some_iff
  rw [hgranted]
  refine Client.Operation.received_eq_ok_iff.trans ?_
  exact exists_congr fun r => and_congr_right' (and_congr_right' (hdecoded r))

theorem checked_refused (h : ∀ token u, c.ActsFor given token →
      ¬ Request.Formable (c.client.baseUrl ++ (c.checking checks).path) token u) :
    c.Checked checks given [] false where
  once := .inl rfl
  asked token u hacts hu := absurd hu (h token u hacts)
  tokenless _ := ⟨rfl, rfl⟩
  allowed_iff := by
    constructor
    · rintro ⟨⟩
    · rintro ⟨token, u, q, r, value, -, -, ⟨⟩, -⟩

theorem checked_sent {u : Url} {q : Request} {answer : Except Http.Failure Reply} {allowed : Bool}
    (hacts : c.ActsFor given token) (hasks : c.Asks checks token u q)
    (hallowed : allowed = true ↔
      ∃ r, answer = .ok r ∧ (200 ≤ r.status.toNat ∧ r.status.toNat ≤ 299) ∧
        ∃ value, r.decode? Value = some value ∧ value.get? "success" = some (.string "Ok")) :
    c.Checked checks given [⟨.send q, answer⟩] allowed where
  once := .inr ⟨token, u, q, answer, hacts, hasks, rfl⟩
  asked token' u' hacts' hu' := by
    obtain rfl := hacts.unique hacts'
    cases hasks.formable.read.symm.trans hu'.read
    exact ⟨q, answer, hasks, rfl⟩
  tokenless h := absurd hacts (h token)
  allowed_iff := by
    rw [hallowed]
    constructor
    · rintro ⟨r, rfl, hstatus, value, hvalue, hsuccess⟩
      exact ⟨token, u, q, r, value, hacts, hasks, rfl, hstatus, hvalue, hsuccess⟩
    · rintro ⟨_, _, _, r, value, -, -, hlog, hstatus, hvalue, hsuccess⟩
      cases hlog
      exact ⟨r, rfl, hstatus, value, hvalue, hsuccess⟩

theorem checked_checkPermission (world : (q : Effect) → σ → q.Answer × σ) (c : Callback)
    (checks : List (Action × Entity)) (given : Option String) (x : σ) :
    c.Checked checks given ((c.checkPermission checks given).exchanges world x)
      ((c.checkPermission checks given).run world x).1 := by
  by_cases hacts : ∃ token, c.ActsFor given token
  · obtain ⟨token, hacts⟩ := hacts
    rw [checkPermission_of_actsFor hacts, Client.Operation.perform_eq_call]
    by_cases hform : ∃ u, Request.Formable (c.client.baseUrl ++ (c.checking checks).path) token u
    · obtain ⟨u, hu⟩ := hform
      obtain ⟨q, hq, hcarries⟩ :=
        Client.Operation.exists_request_of_formable (c := c.client.withKey token) hu
      rw [Client.call_of_ok hq]
      exact checked_sent hacts ⟨hu, hcarries.method_eq, hcarries.url_eq, hcarries.body_eq,
        hcarries.authorization_eq⟩ granted_received_iff
    -- neither the URL of the engine nor the token needs to be one that can be sent
    · obtain ⟨f, hf⟩ := Request.exists_error_of_not_formable (not_exists.mp hform)
      rw [Client.call_of_error (c := c.client.withKey token) hf]
      refine checked_refused fun other u hother hu => hform ⟨u, ?_⟩
      rwa [hacts.unique hother] at hu
  · rw [checkPermission_of_not_actsFor (not_exists.mp hacts)]
    exact checked_refused fun token _ hother => absurd ⟨token, hother⟩ hacts

end Check

/-- A check refuses unless a reply to its one request allows what it asks for, and the key of the
provider plays no part in it. The token of the user is the only credential that is shown exactly if
there are none in the URL of the engine, and the request goes where checks should exactly if the
identity of the provider is routable. -/
theorem check_fails_closed {σ : Type} (world : (q : Effect) → σ → q.Answer × σ) (c : Callback)
    (checks : List (Action × Entity)) (given : Option String) (x : σ) :
    c.Checked checks given ((c.checkPermission checks given).exchanges world x)
      ((c.checkPermission checks given).run world x).1 ∧
    (∀ key, { c with client := c.client.withKey key }.checkPermission checks given =
      c.checkPermission checks given) ∧
    ∀ token u q, c.Asks checks token u q →
      (∀ v, c.client.Reaches v →
        (q.authorization = [Request.bearer token] ↔ v.credentials? = none)) ∧
      ∀ v root, c.client.Leads v root →
        (endpoint? q.url.target = some ((c.checking checks).endpoint root) ↔
          Routable (["services", c.identity.nameSpace, c.identity.version,
            "check_permission"].map String.toList)) := by
  refine ⟨checked_checkPermission world c checks given x, fun _ => rfl, ?_⟩
  intro token u q hasks
  obtain ⟨after, hpath, hafter⟩ := (c.checking checks).exists_path_eq
  have hread := hasks.formable.read
  rw [hpath] at hread
  constructor
  · intro v hv
    rw [hasks.authorization, Request.authorization_eq_iff, Client.credentials?_of_reaches hv hread]
  · intro v root hlead
    rw [hasks.url, Url.target_withoutCredentials]
    exact Client.endpoint?_eq_iff_of_leads hlead hafter hread

/-- A callback on behalf of somebody, to a provider that has registered with the engine at a URL. -/
def behalf (url version : String) : Callback where
  identity := { nameSpace := "files", version }
  client := .ofUrl url "k"
  headers := .ofList [("Authorization", "Bearer user-token")]
  trace := .root ⟨0, 2⟩
  operation := "look"

def allowing : Reply where
  status := 200
  body := "\x7b\"success\":\"Ok\"\x7d".toUTF8

theorem check_fails_closed_allowed :
    let c := behalf "http://[::1]:3000" "v1"
    let world := World.answering (.ok allowing)
    ((c.checkPermission [(.update, {})] none).run world ()).1 = true ∧
    ∃ token q r, c.ActsFor none token ∧
      (c.checkPermission [(.update, {})] none).exchanges world () = [⟨.send q, .ok r⟩] ∧
      q.authorization = [Request.bearer token] ∧
      endpoint? q.url.target = some ((c.checking [(.update, {})]).endpoint []) := by
  intro c world
  have hallowed : ((c.checkPermission [(.update, {})] none).run world ()).1 = true := by
    decide +kernel
  obtain ⟨hchecked, -, hasked⟩ := check_fails_closed world c [(.update, {})] none ()
  obtain ⟨token, u, q, r, -, hacts, hasks, hlog, -⟩ := hchecked.allowed_iff.mp hallowed
  obtain ⟨v, hlead, hcredentials⟩ := Client.Operation.leads_onLoopback
  obtain ⟨hauthorization, hendpoint⟩ := hasked token u q hasks
  have hroutable : Routable (["services", "files", "v1", "check_permission"].map String.toList) :=
    ⟨by simp, by decide, by simp [Url.isControlOrSpace]⟩
  exact ⟨hallowed, token, q, r, hacts, hlog, (hauthorization v hlead.toReaches).mpr hcredentials,
    (hendpoint v [] hlead).mpr hroutable⟩

/-- What is shown to the engine where. -/
def shownIn (log : List (Exchange Effect.Answer)) : List (String × List String) :=
  log.filterMap fun x =>
    match x.question with
    | .send q => some (q.url.target, q.authorization)
    | _ => none

/-- Dot segments in the version lead a check to the policy of another provider, and credentials in
the URL of the engine are shown before the token of the user. -/
theorem allowed_by_others :
    let world := World.answering (.ok allowing)
    let misled := (behalf "http://[::1]:3000" "../admin/v1").checkPermission [] none
    let preceded := (behalf "http://u:p@[::1]:3000" "v1").checkPermission [] none
    ((misled.run world ()).1 = true ∧
      shownIn (misled.exchanges world ()) =
        [("/services/admin/v1/check_permission", ["Bearer user-token"])]) ∧
    (preceded.run world ()).1 = true ∧
      shownIn (preceded.exchanges world ()) =
        [("/services/files/v1/check_permission", ["Basic dTpw", "Bearer user-token"])] := by
  decide +kernel

end Callback

end IntentProvider
