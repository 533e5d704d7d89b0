import CompileDesk.Session.Basic

/-!
# What holds of every session

Submitting asks the phase and settling asks the request in flight. The two questions have one
answer in every session that comes from a new one: judging an outcome never leaves the phase
submitting and never calls the outcome stale, so that the phase, the request in flight and the
trigger change together.
-/

namespace CompileDesk

namespace Verdict

/-- No object says that the session is over. -/
theorem ofFields_ne_sessionExpired (status : Bool) (fields : List (String × Json)) :
    ofFields status fields ≠ .ok .sessionExpired := by
  intro h
  rw [ofFields] at h
  split at h
  · cases ht : symbolTable (Json.field? fields "symbolTable") <;> simp [ht, Except.map] at h
  · simp at h

/-- Only the status tells that the session is over. -/
theorem ofReply_eq_sessionExpired_iff (r : Reply) :
    ofReply r = .ok .sessionExpired ↔ r.status = sessionExpiredStatus := by
  by_cases hs : r.status = sessionExpiredStatus
  · simp [ofReply, hs]
  · have hb : (r.status == sessionExpiredStatus) = false := by simpa using hs
    simp only [ofReply, hb, Bool.false_eq_true, ↓reduceIte, hs, iff_false]
    cases hp : Json.parse r.body with
    | error detail => simp
    | ok v =>
      cases v with
      | object fields => exact ofFields_ne_sessionExpired _ fields
      | _ => simp

end Verdict

/-- What is shown of a compilation. A renderer is asked for the diagram, if there is one, and nothing else
depends on it. -/
theorem Panes.present_eq {σ : Type} (render : Renderer σ) (a : Artifacts) (p : Panes) (s : σ) :
    p.present render a s =
      ({ assembly := a.assembly
         diagram := a.diagram.elim p.diagram fun source => diagramView source (render source s).1
         symbols := SymbolRow.ofSymbols a.symbols
         tab := if a.symbols.isEmpty then p.tab else .assembly
         status := p.status },
        a.diagram.elim s fun source => (render source s).2) := by
  obtain ⟨assembly, diagram, symbols⟩ := a
  cases diagram <;> rfl

/-- An outcome that brings what a compilation produced. -/
def Outcome.Compiled (outcome : Outcome) (a : Artifacts) : Prop :=
  ∃ reply, outcome = .ok reply ∧ Verdict.ofReply reply = .ok (.compiled a)

/-- What a status tells, at whatever time. -/
def Status.said (s : Status) : StatusKind × String := (s.kind, s.text)

namespace Session

variable {σ : Type}

/-- Phase, request in flight and trigger agree on whether a request is in flight. -/
structure Consistent (s : Session) : Prop where
  submitting_iff : s.phase = .submitting ↔ s.inFlight.isSome
  trigger_eq : s.trigger = if s.inFlight.isSome then .busy else .ready

theorem consistent_new (delay : Nat) : Consistent { redirectDelay := delay } :=
  ⟨by simp, rfl⟩

theorem Consistent.idle_iff {s : Session} (h : s.Consistent) :
    s.phase ≠ .submitting ↔ s.inFlight = none := by
  rw [Ne, h.submitting_iff]
  simp

def submitted (s : Session) (id : RequestId) : Session :=
  { s with phase := .submitting, inFlight := some id, trigger := .busy }

theorem submit?_eq (s : Session) (p : Panes) (id : RequestId) :
    s.submit? p id = if s.phase = .submitting then none else some (s.submitted id, p.cleared) := rfl

theorem submitted_consistent (s : Session) (id : RequestId) : (s.submitted id).Consistent :=
  ⟨by simp [submitted], rfl⟩

def settledIn (s : Session) (phase : Phase) : Session :=
  { s with phase, inFlight := none, trigger := .ready }

theorem settledIn_consistent (s : Session) {phase : Phase} (h : phase ≠ .submitting) :
    (s.settledIn phase).Consistent :=
  ⟨by simp [settledIn, h], rfl⟩

/-- The three ways in which an outcome is judged. -/
inductive Judged (presenter : Presenter σ) (delay : Nat) (p : Panes) (s : σ) :
    Outcome → Settlement × Phase × Panes × σ → Prop where
  | failed {outcome : Outcome} (kind : FailureKind) (text : String)
      (valid : ∀ reply, outcome = .ok reply → reply.status ≠ sessionExpiredStatus) :
      Judged presenter delay p s outcome (.failed kind, .failed, p.withStatus .error text (presenter.clock s), s)
  | expired {reply : Reply} (expired : reply.status = sessionExpiredStatus) :
      Judged presenter delay p s (.ok reply)
        (.unauthorized delay, .unauthorized, p.withStatus .warning expiredMessage (presenter.clock s), s)
  | succeeded {reply : Reply} (artifacts : Artifacts) (valid : reply.status ≠ sessionExpiredStatus) :
      Judged presenter delay p s (.ok reply)
        (.succeeded, .succeeded,
          (p.present presenter.render artifacts s).1.withStatus .success successMessage
            (presenter.clock (p.present presenter.render artifacts s).2),
          (p.present presenter.render artifacts s).2)

section Judge

variable (presenter : Presenter σ) (endpoint : String) (delay : Nat)

theorem judge_of_compiled {outcome : Outcome} {a : Artifacts} (compiled : outcome.Compiled a)
    (p : Panes) (s : σ) : judge presenter endpoint delay outcome p s =
      (.succeeded, .succeeded,
        (p.present presenter.render a s).1.withStatus .success successMessage
          (presenter.clock (p.present presenter.render a s).2),
        (p.present presenter.render a s).2) := by
  obtain ⟨reply, rfl, verdict⟩ := compiled
  simp only [judge, verdict]
  rfl

/-- An outcome brings what a compilation produced, or tells that the session is over, or failed. In the last
two cases only a message is shown, the same one with every presenter, on all panes and in all
surroundings. -/
theorem judge_cases (outcome : Outcome) :
    (∃ a, outcome.Compiled a) ∨
    (∃ reply, outcome = .ok reply ∧ reply.status = sessionExpiredStatus ∧
      ∀ {σ : Type} (presenter : Presenter σ) (p : Panes) (s : σ),
        judge presenter endpoint delay outcome p s =
          (.unauthorized delay, .unauthorized, p.withStatus .warning expiredMessage (presenter.clock s), s)) ∨
    ∃ kind text, (∀ reply, outcome = .ok reply → reply.status ≠ sessionExpiredStatus) ∧
      ∀ {σ : Type} (presenter : Presenter σ) (p : Panes) (s : σ),
        judge presenter endpoint delay outcome p s =
          (.failed kind, .failed, p.withStatus .error text (presenter.clock s), s) := by
  cases outcome with
  | error e => exact .inr (.inr ⟨.unreachable, unreachableMessage endpoint e.detail, nofun, fun _ _ _ => rfl⟩)
  | ok reply =>
    have expired_iff := Verdict.ofReply_eq_sessionExpired_iff reply
    cases hv : Verdict.ofReply reply with
    | error fault =>
      have valid : reply.status ≠ sessionExpiredStatus := by simp [← expired_iff, hv]
      simp only [judge, hv]
      exact .inr (.inr ⟨.malformed, unreadableMessage fault, fun _ h => Except.ok.inj h ▸ valid,
        fun _ _ _ => rfl⟩)
    | ok verdict =>
      cases verdict with
      | compiled a => exact .inl ⟨a, reply, rfl, hv⟩
      | sessionExpired =>
        simp only [judge, hv]
        exact .inr (.inl ⟨reply, rfl, expired_iff.mp hv, fun _ _ _ => rfl⟩)
      | refused message =>
        have valid : reply.status ≠ sessionExpiredStatus := by simp [← expired_iff, hv]
        simp only [judge, hv]
        exact .inr (.inr ⟨.compiler, refusalMessage message, fun _ h => Except.ok.inj h ▸ valid,
          fun _ _ _ => rfl⟩)

theorem judge_judged (outcome : Outcome) (p : Panes) (s : σ) :
    Judged presenter delay p s outcome (judge presenter endpoint delay outcome p s) := by
  obtain ⟨a, compiled⟩ | ⟨reply, rfl, expired, judged⟩ | ⟨kind, text, valid, judged⟩ :=
    judge_cases endpoint delay outcome
  · rw [judge_of_compiled presenter endpoint delay compiled]
    obtain ⟨reply, rfl, verdict⟩ := compiled
    refine .succeeded a ?_
    simp [← Verdict.ofReply_eq_sessionExpired_iff, verdict]
  · rw [judged]
    exact .expired expired
  · rw [judged]
    exact .failed kind text valid

/-- A request is settled as successful exactly by an outcome that brings artifacts. -/
theorem judge_settlement_eq_succeeded_iff (outcome : Outcome) (p : Panes) (s : σ) :
    (judge presenter endpoint delay outcome p s).1 = .succeeded ↔ ∃ a, outcome.Compiled a := by
  constructor
  · intro succeeded
    obtain compiled | ⟨_, -, -, judged⟩ | ⟨_, _, -, judged⟩ := judge_cases endpoint delay outcome
    · exact compiled
    · rw [judged] at succeeded
      cases succeeded
    · rw [judged] at succeeded
      cases succeeded
  · rintro ⟨a, compiled⟩
    rw [judge_of_compiled presenter endpoint delay compiled]

/-- Judging an outcome does no more to the surroundings than rendering one diagram. -/
theorem judge_surroundings (outcome : Outcome) (p : Panes) (s : σ) :
    (judge presenter endpoint delay outcome p s).2.2.2 = s ∨
      ∃ source, (judge presenter endpoint delay outcome p s).2.2.2 = (presenter.render source s).2 := by
  obtain ⟨a, compiled⟩ | ⟨_, -, -, told⟩ | ⟨_, _, -, told⟩ := judge_cases endpoint delay outcome
  · rw [judge_of_compiled presenter endpoint delay compiled, Panes.present_eq]
    cases a.diagram with
    | none => exact .inl rfl
    | some source => exact .inr ⟨source, rfl⟩
  · rw [told]
    exact .inl rfl
  · rw [told]
    exact .inl rfl

/-- A settled request is over, whatever came back for it. -/
theorem judge_phase_ne_submitting (outcome : Outcome) (p : Panes) (s : σ) :
    (judge presenter endpoint delay outcome p s).2.1 ≠ .submitting := by
  have judged := judge_judged presenter endpoint delay outcome p s
  generalize judge presenter endpoint delay outcome p s = result at judged
  cases judged <;> nofun

/-- The outcome of the request in flight is never taken for a stale one. -/
theorem judge_settlement_ne_stale (outcome : Outcome) (p : Panes) (s : σ) :
    (judge presenter endpoint delay outcome p s).1 ≠ .stale := by
  have judged := judge_judged presenter endpoint delay outcome p s
  generalize judge presenter endpoint delay outcome p s = result at judged
  cases judged <;> nofun

/-- A redirect is asked for exactly by a reply with the status of an expired session, and always
with the delay of the session. -/
theorem judge_settlement_eq_unauthorized_iff (outcome : Outcome) (p : Panes) (s : σ) (after : Nat) :
    (judge presenter endpoint delay outcome p s).1 = .unauthorized after ↔
      (∃ reply, outcome = .ok reply ∧ reply.status = sessionExpiredStatus) ∧ after = delay := by
  have judged := judge_judged presenter endpoint delay outcome p s
  generalize judge presenter endpoint delay outcome p s = result at judged
  cases judged with
  | failed kind text valid =>
    constructor
    · nofun
    · rintro ⟨⟨reply, rfl, expired⟩, _⟩
      exact absurd expired (valid reply rfl)
  | @expired reply expired =>
    constructor
    · intro h
      exact ⟨⟨reply, rfl, expired⟩, (Settlement.unauthorized.inj h).symm⟩
    · rintro ⟨_, rfl⟩
      rfl
  | succeeded artifacts valid =>
    constructor
    · nofun
    · rintro ⟨⟨reply, h, expired⟩, _⟩
      cases h
      exact absurd expired valid

end Judge

section Settle

variable (presenter : Presenter σ) (endpoint : String) (outcome : Outcome)

theorem settle_of_ne {id : RequestId} {b : Bench σ} (h : b.session.inFlight ≠ some id) :
    settle presenter endpoint id outcome b = (.stale, b) := by
  simp [settle, h]

theorem settle_of_eq {id : RequestId} {b : Bench σ} (h : b.session.inFlight = some id) :
    settle presenter endpoint id outcome b =
      let judged := judge presenter endpoint b.session.redirectDelay outcome b.panes b.surroundings
      (judged.1, ⟨b.session.settledIn judged.2.1, judged.2.2.1, judged.2.2.2⟩) := by
  simp [settle, h, settledIn]

theorem settle_eq_stale_iff (id : RequestId) (b : Bench σ) :
    (settle presenter endpoint id outcome b).1 = .stale ↔ b.session.inFlight ≠ some id := by
  by_cases h : b.session.inFlight = some id
  · rw [settle_of_eq presenter endpoint outcome h]
    simpa [h] using judge_settlement_ne_stale presenter endpoint _ outcome _ _
  · simp [settle_of_ne presenter endpoint outcome h, h]

theorem settle_inFlight (id : RequestId) (b : Bench σ) :
    (settle presenter endpoint id outcome b).2.session.inFlight =
      if b.session.inFlight = some id then none else b.session.inFlight := by
  by_cases h : b.session.inFlight = some id
  · rw [settle_of_eq presenter endpoint outcome h, if_pos h]
    rfl
  · rw [settle_of_ne presenter endpoint outcome h, if_neg h]

theorem settle_consistent (id : RequestId) {b : Bench σ} (h : b.session.Consistent) :
    (settle presenter endpoint id outcome b).2.session.Consistent := by
  by_cases hi : b.session.inFlight = some id
  · rw [settle_of_eq presenter endpoint outcome hi]
    exact settledIn_consistent _ (judge_phase_ne_submitting presenter endpoint _ outcome _ _)
  · rwa [settle_of_ne presenter endpoint outcome hi]

end Settle

/-- A run that is accepted submits, calls the service once and settles the request it submitted. -/
theorem run?_eq (presenter : Presenter σ) (endpoint : String) (call : String → σ → Outcome × σ)
    (id : RequestId) (source : String) (b : Bench σ) :
    run? presenter endpoint call id source b =
      if b.session.phase = .submitting then none
      else
        let answered := call source b.surroundings
        some (settle presenter endpoint id answered.1
          ⟨b.session.submitted id, b.panes.cleared, answered.2⟩) := by
  by_cases h : b.session.phase = .submitting
  · simp [run?, submit?_eq, h]
  · simp [run?, submit?_eq, h]

end Session
end CompileDesk
