import IntentProvider.Proofs.Provider.Identity

/-!
Registrations that are attempted again. An attempt that has no description or that the engine does
not accept leaves the identity open for the next one. An attempt that the engine accepts writes the
identity, even if nothing can be listened at in the end, and later ones do not correct it.
-/

namespace IntentProvider.Provider

open IntentProvider.Provider.Event

section Attempt

variable {σ : Type} {world : World σ} {p : Provider} {x : σ}

theorem isAccepted_of_register {d : Descriptor} {q : Provider} {z : σ}
    (h : p.register.run world x = ((.ok d, q), z)) : isAccepted world (p, x) := by
  by_contra hnot
  obtain ⟨f, hrun⟩ := run_register_of_not_accepted hnot
  rw [h] at hrun
  cases hrun

theorem bind_of_start {s : Server Procedure} {f : Failure}
    (h : (s.start.run world x).1.1 = .error f) : ∃ reason, f = .bind s.bindAddress reason := by
  unfold Server.start at h
  cases hrunning : s.running with
  | some l =>
      rw [hrunning] at h
      cases h
  | none =>
      rw [hrunning] at h
      dsimp only at h
      split at h
      · rw [Script.run_ask] at h
        cases hanswer : (world (.listen s.bindAddress) x).1 with
        | error reason =>
            rw [hanswer] at h
            cases h
            exact ⟨reason, rfl⟩
        | ok address =>
            rw [hanswer] at h
            cases h
      · cases h

/-- Once the engine has accepted it, a registration fails only where it cannot listen. -/
theorem bind_of_accepted (haccepted : isAccepted world (p, x)) {f : Failure}
    (h : (p.register.run world x).1.1 = .error f) :
    ∃ reason, f = .bind p.server.bindAddress reason := by
  obtain ⟨d, hd, hok⟩ := isAccepted_iff.mp haccepted
  rw [register_of_ok hd, Script.run_bind, hok] at h
  simp only [proceed, listen, Script.run_bind, Script.run_done] at h
  rcases hstart : ((p.accepted d).server.start.run world
    ((p.client.register d).run world x).2).1.1 with f' | address
  · rw [hstart] at h
    cases h
    exact bind_of_start hstart
  · rw [hstart] at h
    cases h

end Attempt

/-- After the first registration that succeeds, the identity is that of the description which it
gives back, unless the engine has accepted an earlier attempt, one that could not listen; then it is
that of the first such attempt. -/
theorem identity_of_first_success {σ : Type} (world : World σ) (c : Config) (x : σ)
    (events : List Event)
    (hfailed : ∀ a ∈ attempts world events (fresh c, x),
      ∃ f, (a.1.register.run world a.2).1.1 = .error f)
    {d : Descriptor} {p : Provider} {z : σ}
    (hrun : (after world events (fresh c, x)).1.register.run world
      (after world events (fresh c, x)).2 = ((.ok d, p), z)) :
    (firstAccepted? world events (fresh c, x) = none →
      p.RegisteredAs ⟨d.nameSpace, d.version, (after world events (fresh c, x)).1.store⟩) ∧
    ∀ b, firstAccepted? world events (fresh c, x) = some b → ∃ d' reason,
      b.1.descriptor = .ok d' ∧
      (b.1.register.run world b.2).1.1 = .error (.bind b.1.server.bindAddress reason) ∧
      p.RegisteredAs ⟨d'.nameSpace, d'.version, b.1.store⟩ := by
  have hbefore := identity_after_fresh world events c x
  have hp := identity_register world (after world events (fresh c, x)).1
    (after world events (fresh c, x)).2
  rw [if_pos (isAccepted_of_register hrun), hrun,
    told?_of_descriptor (descriptor_of_register hrun).1, hbefore] at hp
  -- `hp` says that an identity from before wins over that of this registration
  constructor
  · intro hnone
    rw [hnone] at hp
    exact registeredAs_of_identity hp
  · intro b hb
    have haccepted : isAccepted world b := List.find?_some hb
    obtain ⟨f, hf⟩ := hfailed b (List.mem_of_find?_eq_some hb)
    obtain ⟨reason, rfl⟩ := bind_of_accepted haccepted hf
    obtain ⟨d', hd', -⟩ := isAccepted_iff.mp haccepted
    rw [hb, Option.bind_some, told?_of_descriptor hd'] at hp
    exact ⟨d', reason, hd', hf, registeredAs_of_identity hp⟩

/-- A world in which every request succeeds, but an address can be listened at only when this is
tried again. -/
def reluctant : World Bool
  | .send _, tried => (.ok ⟨200, ⟨#[]⟩⟩, tried)
  | .listen address, true => (.ok address, true)
  | .listen _, false => (.error "Address already in use", true)
  | .store _ call, tried => (call.refuse .notRegistered, tried)

/-- A registration under another name than the one that is corrected to afterwards. -/
def corrected : List Event :=
  prepared.map Event.operation ++ [Event.register, .operation (.set (.nameSpace "right"))]

theorem failed_corrected : ∀ a ∈ attempts reluctant corrected (fresh nearby, false),
    ∃ f, (a.1.register.run reluctant a.2).1.1 = .error f := by
  have hall : (attempts reluctant corrected (fresh nearby, false)).all fun a =>
      !(a.1.register.run reluctant a.2).1.1.isOk := by decide +kernel
  intro a ha
  have hnot := List.all_eq_true.mp hall a ha
  cases hresult : (a.1.register.run reluctant a.2).1.1 with
  | error f => exact ⟨f, rfl⟩
  | ok d =>
      rw [hresult] at hnot
      cases hnot

/-- The corrected registration succeeds, and the identity has the name from before. -/
theorem exists_success_corrected : ∃ d p z,
    (after reluctant corrected (fresh nearby, false)).1.register.run reluctant
      (after reluctant corrected (fresh nearby, false)).2 = ((.ok d, p), z) ∧
    d.nameSpace = "right" ∧ p.identity.map (·.nameSpace) = some "files" := by
  have hnames : (fun r : (Except Failure Descriptor × Provider) × Bool =>
      (r.1.1.toOption.map (·.nameSpace), r.1.2.identity.map (·.nameSpace)))
      ((after reluctant corrected (fresh nearby, false)).1.register.run reluctant
        (after reluctant corrected (fresh nearby, false)).2) = (some "right", some "files") := by
    decide +kernel
  rcases hrun : (after reluctant corrected (fresh nearby, false)).1.register.run reluctant
    (after reluctant corrected (fresh nearby, false)).2 with ⟨⟨f | d, p⟩, z⟩
  · rw [hrun] at hnames
    cases congrArg Prod.fst hnames
  · rw [hrun] at hnames
    exact ⟨d, p, z, rfl, Option.some.inj (congrArg Prod.fst hnames), congrArg Prod.snd hnames⟩

theorem identity_of_first_success_corrected :
    (∀ a ∈ attempts reluctant corrected (fresh nearby, false),
      ∃ f, (a.1.register.run reluctant a.2).1.1 = .error f) ∧
    ∃ d p z i reason,
      (after reluctant corrected (fresh nearby, false)).1.register.run reluctant
        (after reluctant corrected (fresh nearby, false)).2 = ((.ok d, p), z) ∧
      d.nameSpace = "right" ∧ p.RegisteredAs i ∧ i.nameSpace = "files" ∧
      ∃ b ∈ attempts reluctant corrected (fresh nearby, false),
        (b.1.register.run reluctant b.2).1.1 = .error (.bind b.1.server.bindAddress reason) := by
  obtain ⟨d, p, z, hrun, hright, hfiles⟩ := exists_success_corrected
  obtain ⟨-, haccepted⟩ :=
    identity_of_first_success reluctant nearby false corrected failed_corrected hrun
  have hsome : (firstAccepted? reluctant corrected (fresh nearby, false)).isSome := by
    decide +kernel
  obtain ⟨b, hb⟩ := Option.isSome_iff_exists.mp hsome
  obtain ⟨d', reason, -, hbind, hregistered⟩ := haccepted b hb
  rw [hregistered.identity] at hfiles
  exact ⟨failed_corrected, d, p, z, _, reason, hrun, hright, hregistered,
    Option.some.inj hfiles, b, List.mem_of_find?_eq_some hb, hbind⟩

theorem not_registered_as_corrected :
    ¬ ∀ (world : World Bool) (c : Config) (x : Bool) (events : List Event),
      (∀ a ∈ attempts world events (fresh c, x),
        ∃ f, (a.1.register.run world a.2).1.1 = .error f) →
      ∀ d p z, (after world events (fresh c, x)).1.register.run world
          (after world events (fresh c, x)).2 = ((.ok d, p), z) →
        ∃ i, p.RegisteredAs i ∧ i.nameSpace = d.nameSpace ∧ i.version = d.version := by
  intro h
  obtain ⟨d, p, z, hrun, hright, hfiles⟩ := exists_success_corrected
  obtain ⟨i, hi, hnameSpace, -⟩ := h reluctant nearby false corrected failed_corrected d p z hrun
  rw [hi.identity, Option.map_some, hnameSpace, hright] at hfiles
  exact absurd (Option.some.inj hfiles) (by decide)

end IntentProvider.Provider
