import IntentProvider.Proofs.Engine.Endpoint
import IntentProvider.Proofs.Http.Directory

/-!
The operations of a client, as one table of methods, paths, documents and subjects. Each is one call
of the HTTP client, or none if there can be no request, and one reply decides how it ends.
-/

namespace IntentProvider.Client

open IntentProvider.Http
open IntentProvider.Json
open IntentProvider.Text
open IntentProvider.Text.Percent

inductive Operation where
  | register (d : Descriptor)
  | updateStatus (nameSpace version : String) (metadata : Metadata) (status : Document)
  | create (nameSpace version kind : String) (spec extension : Document)
  | get (nameSpace version : String) (r : Reference)
  | updateSpec (nameSpace version : String) (metadata : Metadata) (spec : Document)
  | delete (nameSpace version : String) (r : Reference)
  | checkPermission (nameSpace version : String) (body : Value)

namespace Operation

@[reducible] def Result : Operation → Type
  | create .. => Entity
  | get .. => Entity
  | checkPermission .. => Bool
  | _ => Unit

def perform (c : Client) : (op : Operation) → Activity (Except Failure op.Result)
  | register d => c.register d
  | updateStatus nameSpace version metadata status =>
      c.updateStatus nameSpace version metadata status
  | create nameSpace version kind spec extension => c.create nameSpace version kind spec extension
  | get nameSpace version r => c.get nameSpace version r
  | updateSpec nameSpace version metadata spec => c.updateSpec nameSpace version metadata spec
  | delete nameSpace version r => c.delete nameSpace version r
  | checkPermission nameSpace version body => c.checkPermission nameSpace version body

def method : Operation → Method
  | register _ => .post
  | updateStatus .. => .patch
  | create .. => .post
  | get .. => .get
  | updateSpec .. => .put
  | delete .. => .delete
  | checkPermission .. => .post

def segments : Operation → List String
  | register _ => ["provider"]
  | updateStatus nameSpace version _ _ => ["provider", nameSpace, version, "update_status"]
  | create nameSpace version kind _ _ => ["services", nameSpace, version, kind]
  | get nameSpace version r => ["services", nameSpace, version, r.kind, r.uuid]
  | updateSpec nameSpace version metadata _ =>
      ["services", nameSpace, version, metadata.kind, metadata.uuid]
  | delete nameSpace version r => ["services", nameSpace, version, r.kind, r.uuid]
  | checkPermission nameSpace version _ => ["services", nameSpace, version, "check_permission"]

def document : Operation → Option Value
  | register d => some (Wire.write d)
  | updateStatus _ _ metadata status =>
      some (.object [("metadata", Wire.write metadata), ("status", .ofDocument status)])
  | create _ _ _ spec extension =>
      some (.object (("spec", .ofDocument spec) ::
        if extension.isEmpty then []
        else [("metadata", .object [("extension", .ofDocument extension)])]))
  | get .. => none
  | updateSpec _ _ metadata spec =>
      some (.object
        [("metadata", .object
            [("spec_version", .ofUInt64 metadata.specVersion),
              ("extension", .ofDocument metadata.extension)]),
          ("spec", .ofDocument spec)])
  | delete .. => none
  | checkPermission _ _ body => some body

/-- What is said not to be there, or to be in conflict. -/
def subject : Operation → String
  | register d => d.nameSpace
  | updateStatus _ _ metadata _ => metadata.uuid
  | create _ _ kind _ _ => kind
  | get _ _ r => r.uuid
  | updateSpec _ _ metadata _ => metadata.uuid
  | delete _ _ r => r.uuid
  | checkPermission nameSpace _ _ => nameSpace

/-- What a reply that reports success says, if it has to say anything. -/
def understood? : (op : Operation) → Reply → Option op.Result
  | register _, _ => some ()
  | updateStatus .., _ => some ()
  | create _ _ kind _ _, r => (r.decode? Entity).map (withKind kind)
  | get .., r => r.decode? Entity
  | updateSpec .., _ => some ()
  | delete .., _ => some ()
  | checkPermission .., r => (r.decode? Value).map allows

def path (op : Operation) : String :=
  String.ofList ((op.segments.map String.toList).flatMap ('/' :: ·))

def understand (op : Operation) (r : Reply) : Except Failure op.Result :=
  match op.understood? r with
  | some a => .ok a
  | none => .error (.http .undecodable)

/-- All operations are calls. -/
theorem perform_eq_call (c : Client) (op : Operation) :
    op.perform c = c.call op.method op.path op.document op.subject op.understand := by
  have hpath : op.path = match op with
      | register _ => "/provider"
      | updateStatus nameSpace version _ _ => providerPath nameSpace version ++ "/update_status"
      | create nameSpace version kind _ _ => kindPath nameSpace version kind
      | get nameSpace version r => entityPath nameSpace version r
      | updateSpec nameSpace version metadata _ =>
          entityPath nameSpace version metadata.reference
      | delete nameSpace version r => entityPath nameSpace version r
      | checkPermission nameSpace version _ =>
          entitiesPath nameSpace version ++ "/check_permission" := by
    cases op <;>
      simp [← String.toList_inj, path, segments, providerPath, kindPath, entityPath, entitiesPath,
        Metadata.reference]
  rw [hpath]
  -- only the operations that bring something understand a reply in two steps
  cases op with
  | create nameSpace version kind spec extension =>
      refine congrArg (c.call _ _ _ _) (funext fun r => ?_)
      rw [understand, understood?, decode]
      cases r.decode? Entity <;> rfl
  | get nameSpace version r =>
      refine congrArg (c.call _ _ _ _) (funext fun r => ?_)
      rw [understand, understood?, decode]
      cases r.decode? Entity <;> rfl
  | checkPermission nameSpace version body =>
      refine congrArg (c.call _ _ _ _) (funext fun r => ?_)
      rw [understand, understood?, decode]
      cases r.decode? Value <;> rfl
  | _ => rfl

/-- How an operation ends after what came back for its request. -/
inductive Outcome (op : Operation) :
    Except Http.Failure Reply → Except Failure op.Result → Prop where
  | unanswered (f : Http.Failure) : Outcome op (.error f) (.error (.http f))
  | done (r : Reply) (a : op.Result) (hstatus : 200 ≤ r.status.toNat ∧ r.status.toNat ≤ 299)
      (ha : op.understood? r = some a) : Outcome op (.ok r) (.ok a)
  | undecodable (r : Reply) (hstatus : 200 ≤ r.status.toNat ∧ r.status.toNat ≤ 299)
      (ha : op.understood? r = none) : Outcome op (.ok r) (.error (.http .undecodable))
  | notFound (r : Reply) (hstatus : r.status.toNat = 404) :
      Outcome op (.ok r) (.error (.notFound op.subject))
  | conflict (r : Reply) (text : String) (hstatus : r.status.toNat = 409) (htext : r.Says text) :
      Outcome op (.ok r) (.error (.versionConflict op.subject text))
  | refused (r : Reply) (text : String)
      (hstatus : ¬ (200 ≤ r.status.toNat ∧ r.status.toNat ≤ 299))
      (hfound : r.status.toNat ≠ 404) (hconflict : r.status.toNat ≠ 409) (htext : r.Says text) :
      Outcome op (.ok r) (.error (.engine r.status text))

theorem isSuccess_iff (r : Reply) :
    r.isSuccess = true ↔ 200 ≤ r.status.toNat ∧ r.status.toNat ≤ 299 :=
  between_iff

theorem status_eq_iff (r : Reply) (code : UInt16) :
    r.status = code ↔ r.status.toNat = code.toNat :=
  UInt16.toNat_inj.symm

theorem outcome_received (op : Operation) (answer : Except Http.Failure Reply) :
    op.Outcome answer (received op.subject op.understand answer) := by
  cases answer with
  | error f => exact .unanswered f
  | ok r =>
      rw [received, check]
      by_cases hsuccess : r.isSuccess = true
      · rw [if_pos hsuccess]
        change op.Outcome (.ok r) (op.understand r)
        rw [understand]
        split
        · rename_i a ha
          exact .done r a ((isSuccess_iff r).mp hsuccess) ha
        · rename_i ha
          exact .undecodable r ((isSuccess_iff r).mp hsuccess) ha
      · rw [if_neg hsuccess]
        rw [isSuccess_iff] at hsuccess
        by_cases hfound : r.status = 404
        · rw [if_pos hfound]
          exact .notFound r ((status_eq_iff r 404).mp hfound)
        · rw [if_neg hfound]
          by_cases hconflict : r.status = 409
          · rw [if_pos hconflict]
            exact .conflict r r.text ((status_eq_iff r 409).mp hconflict) (Reply.says_iff.mpr rfl)
          · rw [if_neg hconflict]
            exact .refused r r.text hsuccess (fun h => hfound ((status_eq_iff r 404).mpr h))
              (fun h => hconflict ((status_eq_iff r 409).mpr h)) (Reply.says_iff.mpr rfl)

/-- What comes back leaves one way to end. -/
theorem Outcome.unique {op : Operation} {answer : Except Http.Failure Reply}
    {result result' : Except Failure op.Result} (h : op.Outcome answer result)
    (h' : op.Outcome answer result') : result = result' := by
  -- a status is in one of the classes only, and a reply is understood and says something in one way
  cases h <;> cases h' <;> first | rfl | omega | simp_all [Reply.says_iff]

/-- What the request of an operation carries, where `u` is read from the URL of the engine with the
path of the operation after it. -/
structure Carries (op : Operation) (c : Client) (u : Url) (q : Request) : Prop where
  method_eq : q.method = op.method
  url_eq : q.url = u.withoutCredentials
  body_eq : q.body = op.document
  traceparent_eq : q.traceparent = c.trace.map (·.traceparent)
  authorization_eq :
    q.authorization = u.credentials?.toList.map Request.basic ++ [Request.bearer c.key]
  /-- A write of a spec presents the version that was read before. -/
  specVersion : ∀ nameSpace version metadata spec,
    op = .updateSpec nameSpace version metadata spec →
      ((q.body.bind (·.get? "metadata")).bind (·.get? "spec_version")) =
        some (.ofUInt64 metadata.specVersion)

theorem exists_request_of_formable {c : Client} {op : Operation} {u : Url}
    (h : Request.Formable (c.baseUrl ++ op.path) c.key u) :
    ∃ q, c.request op.method op.path op.document = .ok q ∧ op.Carries c u q := by
  refine ⟨_, Request.make_of_formable h, rfl, rfl, rfl, rfl, rfl, ?_⟩
  rintro nameSpace version metadata spec rfl
  rfl

end Operation

/-- The URL of the engine of a client is one for requests, and `u` is what it is read as. -/
structure Reaches (c : Client) (u : Url) : Prop where
  read : Url.read? (c.baseUrl ++ "/") = some u
  isHttp : u.isHttp = true

/-- The engine of a client is at the end of some segments. -/
structure Leads (c : Client) (u : Url) (root : List (List Char)) : Prop extends c.Reaches u where
  query_eq : u.query = none
  fragment_eq : u.fragment = none
  path_eq : u.path = .segments (root ++ [[]])

namespace Operation

def endpoint (op : Operation) (root : List (List Char)) : List (List UInt8) :=
  root.map Percent.decode ++ (op.segments.map String.toList).map utf8

theorem exists_path_eq (op : Operation) :
    ∃ after, op.path = String.ofList ('/' :: after) ∧
      '/' :: after = (op.segments.map String.toList).flatMap ('/' :: ·) := by
  cases op <;> exact ⟨_, rfl, rfl⟩

end Operation

section Led

variable {c : Client} {u v : Url} {root : List (List Char)} {after : List Char}

theorem baseUrl_append (c : Client) (after : List Char) :
    c.baseUrl ++ String.ofList ('/' :: after) =
      String.ofList (c.baseUrl.toList ++ '/' :: after) := by
  simp

theorem Reaches.read_chars (h : c.Reaches u) :
    Url.read? (String.ofList (c.baseUrl.toList ++ ['/'])) = some u :=
  c.baseUrl_append [] ▸ h.read

/-- The credentials that a request shows before that of its client are those in the URL of the
engine. -/
theorem credentials?_of_reaches (h : c.Reaches u)
    (hv : Url.read? (c.baseUrl ++ String.ofList ('/' :: after)) = some v) :
    v.credentials? = u.credentials? :=
  Url.credentials?_of_slash h.read_chars h.isHttp (c.baseUrl_append after ▸ hv)

theorem endpoint?_eq_iff_of_leads (h : c.Leads u root) {segments : List (List Char)}
    (hafter : '/' :: after = segments.flatMap ('/' :: ·))
    (hv : Url.read? (c.baseUrl ++ String.ofList ('/' :: after)) = some v) :
    endpoint? v.target = some (root.map Percent.decode ++ segments.map utf8) ↔
      Routable segments := by
  obtain ⟨hclear, hread⟩ :=
    Url.read?_slash h.read_chars h.isHttp h.query_eq h.fragment_eq h.path_eq
  obtain ⟨v', hv', hpath, hquery⟩ := hread after
  rw [c.baseUrl_append, hv', Option.some.injEq] at hv
  subst hv
  exact endpoint?_eq_iff hafter hclear ⟨hpath, hquery⟩

end Led

namespace Operation

/-- Every operation is one request, or none if there can be none, and what comes back decides how
it ends. The credential of the client is the only one exactly if there are none in the URL of the
engine, and the request goes where it should exactly if the identifiers in its path are routable. -/
theorem performs_once {σ : Type} (world : (q : Effect) → σ → q.Answer × σ) (c : Client)
    (op : Operation) (x : σ) :
    (∀ u, Request.Formable (c.baseUrl ++ op.path) c.key u →
      ∃ q, op.Carries c u q ∧
        (op.perform c).exchanges world x = [⟨.send q, (world (.send q) x).1⟩] ∧
        op.Outcome (world (.send q) x).1 ((op.perform c).run world x).1) ∧
    ((∀ u, ¬ Request.Formable (c.baseUrl ++ op.path) c.key u) →
      (op.perform c).exchanges world x = [] ∧
        ∃ f, ((op.perform c).run world x).1 = .error (.http f)) ∧
    ∀ v q, Url.read? (c.baseUrl ++ op.path) = some v → op.Carries c v q →
      (∀ u, c.Reaches u →
        (q.authorization = [Request.bearer c.key] ↔ u.credentials? = none)) ∧
      ∀ u root, c.Leads u root →
        (endpoint? q.url.target = some (op.endpoint root) ↔
          Routable (op.segments.map String.toList)) := by
  refine ⟨?_, ?_, ?_⟩
  · intro u hu
    obtain ⟨q, hq, hcarries⟩ := exists_request_of_formable hu
    refine ⟨q, hcarries, ?_, ?_⟩
    · rw [perform_eq_call, call_of_ok hq]
      rfl
    · rw [perform_eq_call, call_of_ok hq]
      exact op.outcome_received _
  · intro hunformable
    obtain ⟨f, hf⟩ := Request.exists_error_of_not_formable hunformable
    rw [perform_eq_call, call_of_error hf]
    exact ⟨rfl, f, rfl⟩
  · intro v q hv hcarries
    obtain ⟨after, hpath, hafter⟩ := op.exists_path_eq
    rw [hpath] at hv
    refine ⟨?_, ?_⟩
    · intro u hu
      rw [hcarries.authorization_eq, Request.authorization_eq_iff, credentials?_of_reaches hu hv]
    · intro u root hlead
      rw [hcarries.url_eq, Url.target_withoutCredentials]
      exact endpoint?_eq_iff_of_leads hlead hafter hv

theorem leads_onLoopback : ∃ u, onLoopback.Leads u [] ∧ u.credentials? = none := by
  have hread : (Url.read? (onLoopback.baseUrl ++ "/")).any fun u =>
      u.isHttp && u.query.isNone && u.fragment.isNone && u.path == .segments [[]] &&
        u.credentials?.isNone := by
    decide +kernel
  simp only [Option.any_eq_true, Bool.and_eq_true, Option.isNone_iff_eq_none, beq_iff_eq] at hread
  obtain ⟨u, hu, ⟨⟨⟨hhttp, hquery⟩, hfragment⟩, hpath⟩, hcredentials⟩ := hread
  exact ⟨u, ⟨⟨hu, hhttp⟩, hquery, hfragment, hpath⟩, hcredentials⟩

/-- A conflict whose description is broken off within a character. -/
def stale : Reply where
  status := 409
  body := ⟨#[0x76, 0x38, 0xE2, 0x82]⟩

theorem says_stale : stale.Says "v8\uFFFD" :=
  Reply.says_iff.mpr (by decide +kernel)

/-- A write of a spec that is refused because of its version. -/
theorem performs_once_stale :
    let op := updateSpec "files" "v1" { uuid := "a", kind := "Bucket", specVersion := 7 } {}
    let world := World.answering (.ok stale)
    ∃ q, (op.perform onLoopback).exchanges world () = [⟨.send q, .ok stale⟩] ∧
      q.method = .put ∧ q.authorization = ["Bearer k"] ∧
      endpoint? q.url.target = some (op.endpoint []) ∧
      ((op.perform onLoopback).run world ()).1 =
        .error (.versionConflict "a" "v8\uFFFD") := by
  intro op world
  have hformable : ∃ u, Request.Formable (onLoopback.baseUrl ++ op.path) "k" u := by
    decide +kernel
  obtain ⟨v, hv⟩ := hformable
  obtain ⟨hsent, -, hled⟩ := performs_once world onLoopback op ()
  obtain ⟨u, hlead, hcredentials⟩ := leads_onLoopback
  obtain ⟨q, hcarries, hexchanges, houtcome⟩ := hsent v hv
  obtain ⟨hauthorization, hendpoint⟩ := hled v q hv.read hcarries
  have hroutable : Routable (op.segments.map String.toList) :=
    ⟨by simp [op, segments], by decide, by simp [op, segments, Url.isControlOrSpace]⟩
  refine ⟨q, hexchanges, hcarries.method_eq,
    (hauthorization u hlead.toReaches).mpr hcredentials, (hendpoint u [] hlead).mpr hroutable, ?_⟩
  exact houtcome.unique (.conflict stale _ rfl says_stale)

theorem exists_of_request {α : Type} {c : Client} {op : Operation} (part : Request → α) {a : α}
    (h : (c.request op.method op.path op.document).toOption.map part = some a) :
    ∃ q, (op.perform c).exchanges unavailable () = [⟨.send q, .error .malformed⟩] ∧
      part q = a := by
  cases hq : c.request op.method op.path op.document with
  | error f =>
      rw [hq] at h
      cases h
  | ok q =>
      rw [hq] at h
      refine ⟨q, ?_, Option.some.inj h⟩
      rw [perform_eq_call, call_of_ok hq]
      rfl

/-- Credentials in the URL of the engine are shown first, and dot segments in an identifier lead
elsewhere. -/
theorem misled_by_url :
    (∃ q, ((delete "files" "v1" ⟨"a", "Lock"⟩).perform
          (ofUrl "http://u:p@[::1]:3000" "k")).exchanges unavailable () =
        [⟨.send q, .error .malformed⟩] ∧
      q.authorization = ["Basic dTpw", "Bearer k"]) ∧
    ∃ q, ((delete "files" "v1" ⟨"../Lock/a", "Bucket"⟩).perform onLoopback).exchanges
          unavailable () = [⟨.send q, .error .malformed⟩] ∧
      q.url.target = "/services/files/v1/Lock/a" := by
  refine ⟨exists_of_request (·.authorization) ?_, exists_of_request (·.url.target) ?_⟩
  · decide +kernel
  · decide +kernel

end Operation

end IntentProvider.Client
