import CompileDesk.Diagram.External
import CompileDesk.Proofs.SessionInvariant

/-!
# Histories of a session

A session is used by submitting, settling and running, in any order and with any numbers and
outcomes. The history of such a use notes each program that was taken and each request that was
settled. It is read without looking at the session; yet it decides what the session does next,
because the notes come in pairs with at most one request left over, the one in flight.
-/

namespace CompileDesk.Session

/-- A note of a history: a program was taken under a number, or its request was settled. -/
inductive Note where
  | taken (id : RequestId)
  | settled (id : RequestId)
  deriving DecidableEq

/-- Every request that was taken has been settled later on. -/
def AllSettled : List Note → Prop
  | [] => True
  | .taken id :: after => .settled id ∈ after ∧ AllSettled after
  | .settled _ :: after => AllSettled after

/-- The request was the latest to be taken and has not been settled since. -/
def IsOpen (log : List Note) (id : RequestId) : Prop :=
  ∃ before after, log = before ++ .taken id :: after ∧
    (∀ other, .taken other ∉ after) ∧ .settled id ∉ after

def takenIds (log : List Note) : List RequestId :=
  log.filterMap fun | .taken id => some id | .settled _ => none

/-- The history in which requests are taken and settled in turns, and a last one may be open. -/
def turns (ids : List RequestId) (last : Option RequestId) : List Note :=
  ids.flatMap (fun id => [.taken id, .settled id]) ++ last.toList.map .taken

@[simp] theorem turns_cons (id : RequestId) (ids : List RequestId) (last : Option RequestId) :
    turns (id :: ids) last = .taken id :: .settled id :: turns ids last := rfl

theorem turns_taken (ids : List RequestId) (id : RequestId) :
    turns ids none ++ [.taken id] = turns ids (some id) := by simp [turns]

theorem turns_settled (ids : List RequestId) (id : RequestId) :
    turns ids (some id) ++ [.settled id] = turns (ids ++ [id]) none := by simp [turns]

theorem allSettled_turns_iff (ids : List RequestId) (last : Option RequestId) :
    AllSettled (turns ids last) ↔ last = none := by
  induction ids with
  | nil => cases last <;> simp [turns, AllSettled]
  | cons id ids ih => simp [AllSettled, ih]

theorem isOpen_turns_iff (ids : List RequestId) (last : Option RequestId) (id : RequestId) :
    IsOpen (turns ids last) id ↔ last = some id := by
  constructor
  · rintro ⟨before, after, h, latest, unsettled⟩
    induction ids generalizing before with
    | nil =>
      cases last with
      | none => simp [turns] at h
      | some other => cases before <;> simp_all [turns]
    | cons other ids ih =>
      match before with
      | [] =>
        obtain ⟨rfl, rfl⟩ : other = id ∧ .settled other :: turns ids last = after := by
          simpa using h
        exact absurd List.mem_cons_self unsettled
      | [_] => simp at h
      | _ :: _ :: before => exact ih before (List.cons.inj (List.cons.inj h).2).2
  · rintro rfl
    exact ⟨turns ids none, [], (turns_taken ids id).symm, by simp, by simp⟩

theorem takenIds_turns (ids : List RequestId) (last : Option RequestId) :
    takenIds (turns ids last) = ids ++ last.toList := by
  induction ids with
  | nil => cases last <;> rfl
  | cons id ids ih => simpa [takenIds] using ih

theorem count_settled_turns (ids : List RequestId) (last : Option RequestId) (id : RequestId) :
    (turns ids last).count (.settled id) = ids.count id := by
  induction ids with
  | nil => cases last <;> simp [turns]
  | cons other ids ih => by_cases h : other = id <;> simp [h, ih]

variable {σ : Type}

/-- A use of a session. A run brings the service that it would call. -/
inductive Operation (σ : Type) where
  | submit (id : RequestId)
  | settle (id : RequestId) (outcome : Outcome)
  | run (id : RequestId) (source : String) (call : String → σ → Outcome × σ)

/-- A service that also keeps the sources it was called with. -/
def recorded (call : String → σ → Outcome × σ) (source : String) (s : σ × List String) :
    Outcome × (σ × List String) :=
  ((call source s.1).1, ((call source s.1).2, s.2 ++ [source]))

/-- A presenter beside a service whose calls are kept. -/
def beside (presenter : Presenter σ) : Presenter (σ × List String) where
  render := presenter.render.within Prod.fst fun s kept => (s, kept.2)
  clock s := presenter.clock s.1

/-- What a settlement adds to the history: nothing when the outcome was stale. -/
def noted (id : RequestId) (settlement : Settlement) : List Note :=
  if settlement = .stale then [] else [.settled id]

/-- Carries out a use of a session. The notes come with the bench after it, which keeps the sources
that the service was called with. A use that is refused adds no notes. -/
def Operation.perform (presenter : Presenter σ) (endpoint : String) (b : Bench (σ × List String)) :
    Operation σ → List Note × Bench (σ × List String)
  | .submit id =>
    match b.session.submit? b.panes id with
    | some (session, panes) => ([.taken id], { b with session, panes })
    | none => ([], b)
  | .settle id outcome =>
    let done := Session.settle (beside presenter) endpoint id outcome b
    (noted id done.1, done.2)
  | .run id source call =>
    match run? (beside presenter) endpoint (recorded call) id source b with
    | some (settlement, after) => (.taken id :: noted id settlement, after)
    | none => ([], b)

/-- The histories of new sessions. Each use may have panes, surroundings, a presenter and an address of
its own. -/
inductive History (σ : Type) : List Note → Session → Prop where
  | new (delay : Nat) : History σ [] { redirectDelay := delay }
  | use {log : List Note} {s : Session} (before : History σ log s) (op : Operation σ)
      (presenter : Presenter σ) (endpoint : String) (p : Panes) (x : σ × List String) :
      History σ (log ++ (op.perform presenter endpoint ⟨s, p, x⟩).1)
        (op.perform presenter endpoint ⟨s, p, x⟩).2.session

section Perform

variable (presenter : Presenter σ) (endpoint : String)

theorem noted_of_ne {id : RequestId} {settlement : Settlement} (h : settlement ≠ .stale) :
    noted id settlement = [.settled id] := if_neg h

/-- Settling calls no service. -/
theorem settle_beside_calls (id : RequestId) (outcome : Outcome) (b : Bench (σ × List String)) :
    (Session.settle (beside presenter) endpoint id outcome b).2.surroundings.2 = b.surroundings.2 := by
  by_cases h : b.session.inFlight = some id
  · rw [settle_of_eq _ _ _ h]
    obtain same | ⟨source, rendered⟩ := judge_surroundings (beside presenter) endpoint
      b.session.redirectDelay outcome b.panes b.surroundings
    · exact congrArg Prod.snd same
    · exact (congrArg Prod.snd rendered).trans rfl
  · rw [settle_of_ne _ _ _ h]

variable {b : Bench (σ × List String)} (id : RequestId)

theorem perform_submit_of_busy (h : b.session.phase = .submitting) :
    (Operation.submit id).perform presenter endpoint b = ([], b) := by
  simp [Operation.perform, submit?_eq, h]

theorem perform_submit_of_idle (h : b.session.phase ≠ .submitting) :
    (Operation.submit id).perform presenter endpoint b =
      ([.taken id], { b with session := b.session.submitted id, panes := b.panes.cleared }) := by
  simp [Operation.perform, submit?_eq, h]

theorem perform_settle_of_ne (outcome : Outcome) (h : b.session.inFlight ≠ some id) :
    (Operation.settle id outcome).perform presenter endpoint b = ([], b) := by
  simp [Operation.perform, settle_of_ne _ _ _ h, noted]

theorem perform_settle_of_eq (outcome : Outcome) (h : b.session.inFlight = some id) :
    (Operation.settle id outcome).perform presenter endpoint b =
      ([.settled id], (Session.settle (beside presenter) endpoint id outcome b).2) := by
  have hs : (Session.settle (beside presenter) endpoint id outcome b).1 ≠ .stale := by
    simp [settle_eq_stale_iff, h]
  simp only [Operation.perform, noted_of_ne hs]

variable (source : String) (call : String → σ → Outcome × σ)

theorem perform_run_of_busy (h : b.session.phase = .submitting) :
    (Operation.run id source call).perform presenter endpoint b = ([], b) := by
  simp [Operation.perform, run?_eq, h]

/-- A run that is accepted is a submission, one call, and the settlement of its answer. -/
theorem perform_run_of_idle (h : b.session.phase ≠ .submitting) :
    (Operation.run id source call).perform presenter endpoint b =
      ([.taken id, .settled id],
        (Session.settle (beside presenter) endpoint id (call source b.surroundings.1).1
          ⟨b.session.submitted id, b.panes.cleared,
            ((call source b.surroundings.1).2, b.surroundings.2 ++ [source])⟩).2) := by
  have hs (outcome : Outcome) (p : Panes) (x : σ × List String) :
      (Session.settle (beside presenter) endpoint id outcome ⟨b.session.submitted id, p, x⟩).1 ≠
        .stale := by
    simp [settle_eq_stale_iff, submitted]
  simp only [Operation.perform, run?_eq, h, ↓reduceIte, recorded, noted_of_ne (hs _ _ _)]

end Perform

/-- A use keeps phase, request in flight and trigger in agreement. -/
theorem perform_consistent (op : Operation σ) (presenter : Presenter σ) (endpoint : String)
    {b : Bench (σ × List String)} (hb : b.session.Consistent) :
    (op.perform presenter endpoint b).2.session.Consistent := by
  cases op with
  | submit id =>
    by_cases h : b.session.phase = .submitting
    · rwa [perform_submit_of_busy presenter endpoint id h]
    · rw [perform_submit_of_idle presenter endpoint id h]
      exact submitted_consistent _ id
  | settle id outcome =>
    by_cases h : b.session.inFlight = some id
    · rw [perform_settle_of_eq presenter endpoint id outcome h]
      exact settle_consistent _ endpoint outcome id hb
    · rwa [perform_settle_of_ne presenter endpoint id outcome h]
  | run id source call =>
    by_cases h : b.session.phase = .submitting
    · rwa [perform_run_of_busy presenter endpoint id source call h]
    · rw [perform_run_of_idle presenter endpoint id source call h]
      exact settle_consistent _ endpoint _ id (submitted_consistent _ id)

/-- A use of a session whose history consists of turns leads to such a history. -/
theorem perform_turns (op : Operation σ) (presenter : Presenter σ) (endpoint : String)
    {b : Bench (σ × List String)} (hb : b.session.Consistent) (ids : List RequestId) :
    ∃ ids', turns ids b.session.inFlight ++ (op.perform presenter endpoint b).1 =
      turns ids' (op.perform presenter endpoint b).2.session.inFlight := by
  cases op with
  | submit id =>
    by_cases h : b.session.phase = .submitting
    · rw [perform_submit_of_busy presenter endpoint id h]
      exact ⟨ids, List.append_nil _⟩
    · rw [perform_submit_of_idle presenter endpoint id h, hb.idle_iff.mp h]
      exact ⟨ids, turns_taken ids id⟩
  | settle id outcome =>
    by_cases h : b.session.inFlight = some id
    · rw [perform_settle_of_eq presenter endpoint id outcome h, settle_inFlight, if_pos h, h]
      exact ⟨ids ++ [id], turns_settled ids id⟩
    · rw [perform_settle_of_ne presenter endpoint id outcome h]
      exact ⟨ids, List.append_nil _⟩
  | run id source call =>
    by_cases h : b.session.phase = .submitting
    · rw [perform_run_of_busy presenter endpoint id source call h]
      exact ⟨ids, List.append_nil _⟩
    · rw [perform_run_of_idle presenter endpoint id source call h, settle_inFlight,
        hb.idle_iff.mp h]
      exact ⟨ids ++ [id], by simp [turns, submitted]⟩

theorem History.consistent {log : List Note} {s : Session} (h : History σ log s) :
    s.Consistent := by
  induction h with
  | new delay => exact consistent_new delay
  | use _ op presenter endpoint p x ih => exact perform_consistent op presenter endpoint ih

/-- In every history requests are taken and settled in turns; the one left over is in flight. -/
theorem History.eq_turns {log : List Note} {s : Session} (h : History σ log s) :
    ∃ ids, log = turns ids s.inFlight := by
  induction h with
  | new delay => exact ⟨[], rfl⟩
  | use before op presenter endpoint p x ih =>
    obtain ⟨ids, rfl⟩ := ih
    exact perform_turns op presenter endpoint (b := ⟨_, p, x⟩) before.consistent ids

/-- A use that adds no notes, which a refused submission, a refused run and a stale settlement are,
leaves the session, the panes, the surroundings and the calls of the service as they were. -/
theorem perform_of_refused (op : Operation σ) (presenter : Presenter σ) (endpoint : String)
    (b : Bench (σ × List String)) (h : (op.perform presenter endpoint b).1 = []) :
    (op.perform presenter endpoint b).2 = b := by
  cases op with
  | submit id =>
    by_cases hp : b.session.phase = .submitting
    · rw [perform_submit_of_busy presenter endpoint id hp]
    · simp [perform_submit_of_idle presenter endpoint id hp] at h
  | settle id outcome =>
    by_cases hi : b.session.inFlight = some id
    · simp [perform_settle_of_eq presenter endpoint id outcome hi] at h
    · rw [perform_settle_of_ne presenter endpoint id outcome hi]
  | run id source call =>
    by_cases hp : b.session.phase = .submitting
    · rw [perform_run_of_busy presenter endpoint id source call hp]
    · simp [perform_run_of_idle presenter endpoint id source call hp] at h

/-- What a history says about the session that it leads to. -/
structure Lawful (log : List Note) (s : Session) : Prop where
  submitting_iff : s.phase = .submitting ↔ s.inFlight.isSome
  busy_iff : s.inFlight.isSome ↔ s.trigger.enabled = false ∧ s.trigger.label = "Compiling..."
  submit_iff (p : Panes) (id : RequestId) : (s.submit? p id).isSome ↔ AllSettled log
  run_iff {τ : Type} (presenter : Presenter τ) (endpoint : String) (call : String → τ → Outcome × τ)
    (id : RequestId) (source : String) (p : Panes) (x : τ) :
    (run? presenter endpoint call id source ⟨s, p, x⟩).isSome ↔ AllSettled log
  settle_iff {τ : Type} (presenter : Presenter τ) (endpoint : String) (id : RequestId)
    (outcome : Outcome) (p : Panes) (x : τ) :
    (settle presenter endpoint id outcome ⟨s, p, x⟩).1 ≠ .stale ↔ IsOpen log id
  /-- Taking and settling alternate strictly, and each request is settled right after its own taking. -/
  alternating : ∃ ids, log = turns ids s.inFlight
  settled_once : (takenIds log).Nodup → ∀ id, log.count (.settled id) ≤ 1
  refused {τ : Type} (op : Operation τ) (presenter : Presenter τ) (endpoint : String) (p : Panes)
    (x : τ × List String) : (op.perform presenter endpoint ⟨s, p, x⟩).1 = [] →
      (op.perform presenter endpoint ⟨s, p, x⟩).2 = ⟨s, p, x⟩
  /-- A run calls the service if it is accepted, and then once. -/
  calls {τ : Type} (presenter : Presenter τ) (endpoint : String) (call : String → τ → Outcome × τ)
    (id : RequestId) (source : String) (p : Panes) (x : τ) (called : List String) :
    ((Operation.run id source call).perform presenter endpoint ⟨s, p, (x, called)⟩).2.surroundings.2 =
      called ++ if s.inFlight = none then [source] else []

/-- In every session that comes from a new one by submitting, settling and running in any order, with
any numbers, any outcomes and any panes, the history alone decides what is accepted. -/
theorem history_lawful {log : List Note} {s : Session} (h : History σ log s) : Lawful log s := by
  have hc := h.consistent
  obtain ⟨ids, rfl⟩ := h.eq_turns
  have idle : s.phase ≠ .submitting ↔ AllSettled (turns ids s.inFlight) := by
    rw [allSettled_turns_iff, hc.idle_iff]
  refine ⟨hc.submitting_iff, ?_, ?_, ?_, ?_, ⟨ids, rfl⟩, ?_, ?_, ?_⟩
  · rw [hc.trigger_eq]
    cases s.inFlight <;> simp [Trigger.busy, Trigger.ready]
  · intro p id
    rw [← idle, submit?_eq]
    by_cases hp : s.phase = .submitting <;> simp [hp]
  · intro τ presenter endpoint call id source p x
    rw [← idle, run?_eq]
    by_cases hp : s.phase = .submitting <;> simp [hp]
  · intro τ presenter endpoint id outcome p x
    rw [Ne, settle_eq_stale_iff, Classical.not_not, isOpen_turns_iff]
  · intro distinct id
    rw [takenIds_turns] at distinct
    rw [count_settled_turns]
    exact List.nodup_iff_count.mp (List.nodup_append.mp distinct).1 id
  · intro τ op presenter endpoint p x
    exact perform_of_refused op presenter endpoint _
  · intro τ presenter endpoint call id source p x called
    by_cases hp : s.phase = .submitting
    · have hi : s.inFlight ≠ none := by simpa [Option.isSome_iff_ne_none] using hc.submitting_iff.mp hp
      rw [perform_run_of_busy presenter endpoint id source call hp, if_neg hi]
      exact (List.append_nil _).symm
    · rw [perform_run_of_idle presenter endpoint id source call hp, settle_beside_calls,
        if_pos (hc.idle_iff.mp hp)]

/-- A program is taken under 0, an outcome forged for 7 is dropped, a run is refused, the request is
settled as unreachable, and its settlement does not count twice. -/
theorem history_lawful_forged :
    Lawful [.taken ⟨0⟩, .settled ⟨0⟩] { redirectDelay := 2000, phase := .failed } := by
  have presenter : Presenter Unit :=
    ⟨.ofFunction fun _ => .error (.unavailable "dot"), fun _ => ⟨2000, 1, 2, 3, 4, 5, 678⟩⟩
  have down : Outcome := .error ⟨"http://127.0.0.1:4567/compile", "connection refused"⟩
  have start := History.new (σ := Unit) 2000
  have taken := start.use (.submit ⟨0⟩) presenter "" {} ((), [])
  have forged := taken.use (.settle ⟨7⟩ down) presenter "" {} ((), [])
  have refused := forged.use (.run ⟨1⟩ "int x;" fun _ s => (down, s)) presenter "" {} ((), [])
  have settled := refused.use (.settle ⟨0⟩ (.error ⟨"", "down"⟩)) presenter "" {} ((), [])
  exact history_lawful (settled.use (.settle ⟨0⟩ down) presenter "" {} ((), []))

end CompileDesk.Session
