import CompileDesk.Proofs.WorkerRun

/-!
# Calls that are outstanding

A call is outstanding while it is queued, while a worker makes it, and until its result is taken over.
The session says which compilation is outstanding and the login form says whether a login is. Both
are right after every run: starting a call and ending it only move it, taking over its result
clears its flag, and no other step clears one. The form is also cleared when the workspace opens,
which is why a scheduled workspace excludes a pending login.
-/

namespace CompileDesk

/-- What an outstanding call is for. -/
inductive Errand where
  | compilation (id : RequestId)
  | login
  deriving DecidableEq

def Call.errand : Call → Errand
  | compile id _ => .compilation id
  | login _ => .login

def CallResult.errand : CallResult → Errand
  | compiled id _ => .compilation id
  | loggedIn _ => .login

@[simp] theorem Call.result_errand (outcome : Outcome) (call : Call) :
    (call.result outcome).errand = call.errand := by cases call <;> rfl

/-- What a queued effect is for, if it is a call. -/
def Effect.errand? (e : Effect) : Option Errand := e.call?.map Call.errand

namespace App

/-- The calls that the program believes to be outstanding. -/
def awaited (a : App) : Multiset Errand :=
  ↑(a.session.inFlight.toList.map Errand.compilation) + if a.login.pending then {.login} else 0

theorem awaited_congr {a b : App} (inFlight : a.session.inFlight = b.session.inFlight)
    (pending : a.login.pending = b.login.pending) : a.awaited = b.awaited := by
  rw [awaited, awaited, inFlight, pending]

theorem compilation_mem_awaited {a : App} {id : RequestId} :
    .compilation id ∈ a.awaited ↔ a.session.inFlight = some id := by
  rw [awaited]
  split <;> simp

theorem login_mem_awaited {a : App} : .login ∈ a.awaited ↔ a.login.pending = true := by
  rw [awaited]
  split <;> simp [*]

end App

namespace Workshop

variable {σ : Type}

/-- The calls that are queued, being made by workers, or back but not taken over. -/
def outstanding (x : Workshop σ) : Multiset Errand :=
  ↑(x.app.effects.filterMap Effect.errand?) + x.workers.map Call.errand +
    x.results.map CallResult.errand

/-- The compilations among the outstanding calls. -/
def compilations (x : Workshop σ) : Multiset Errand := x.outstanding.filter (· ≠ .login)

/-- The logins among the outstanding calls. -/
def logins (x : Workshop σ) : Multiset Errand := x.outstanding.filter (· = .login)

/-- The flags of the program account for the outstanding calls. A login on its way and a scheduled
workspace exclude each other. -/
structure Accounted (x : Workshop σ) : Prop where
  consistent : x.app.session.Consistent
  awaited : x.outstanding = x.app.awaited
  entering : ∀ n, x.app.navigation = some n → n.target = .workspace → x.app.login.pending = false

theorem accounted_opened (w : Surroundings σ) (delay : Nat) (gate : LoginGate) (endpoint : String)
    (screen : Screen) (s : σ) : Accounted (opened w delay gate endpoint screen s) := by
  obtain ⟨source, status, h⟩ := App.start_eq w { redirectDelay := delay } gate endpoint screen s
  refine ⟨?_, ?_, ?_⟩
  · rw [opened, h]
    exact Session.consistent_new delay
  · simp [outstanding, App.awaited, opened, h]
  · simp [opened, h]

theorem errands_split (before after : List Effect) (effect : Effect) :
    (↑((before ++ effect :: after).filterMap Effect.errand?) : Multiset Errand) =
      ↑effect.errand?.toList + ↑((before ++ after).filterMap Effect.errand?) := by
  cases h : effect.errand? with
  | none => simp [h]
  | some errand =>
    rw [Multiset.coe_add, Multiset.coe_eq_coe]
    simp [h]

section Steps

variable {x : Workshop σ} {app : App} {s : σ}

theorem outstanding_of_queued {effect : Effect} (effects : app.effects = x.app.effects ++ [effect]) :
    outstanding { x with app, surroundings := s } = ↑effect.errand?.toList + x.outstanding := by
  rw [outstanding, outstanding, effects, errands_split, List.append_nil,
    Multiset.add_assoc, Multiset.add_assoc, Multiset.add_assoc]

/-- A call stays outstanding when a worker takes it from the queue. -/
theorem outstanding_of_started {before after : List Effect} {effect : Effect} {call : Call}
    (queued : x.app.effects = before ++ effect :: after) (calls : effect.call? = some call)
    (effects : app.effects = before ++ after) :
    outstanding { x with app, workers := call ::ₘ x.workers } = x.outstanding := by
  have he : effect.errand? = some call.errand := by rw [Effect.errand?, calls, Option.map_some]
  rw [outstanding, outstanding, effects, queued, errands_split, he, Multiset.map_cons,
    Multiset.add_cons, Option.toList_some, Multiset.coe_singleton, Multiset.singleton_add,
    Multiset.cons_add, Multiset.cons_add, Multiset.cons_add]

theorem outstanding_of_edited {before after : List Effect}
    (queued : x.app.effects = before ++ .editSource :: after)
    (effects : app.effects = before ++ after) :
    outstanding { x with app, surroundings := s } = x.outstanding := by
  rw [outstanding, outstanding, effects, queued, errands_split]
  simp [Effect.errand?, Effect.call?]

theorem outstanding_of_ended {call : Call} {others : Multiset Call} (outcome : Outcome)
    (working : x.workers = call ::ₘ others) :
    outstanding { x with workers := others, results := call.result outcome ::ₘ x.results } =
      x.outstanding := by
  rw [outstanding, outstanding, working, Multiset.map_cons, Multiset.map_cons, Call.result_errand,
    Multiset.add_cons, Multiset.add_cons, Multiset.cons_add]

theorem outstanding_of_takenOver {result : CallResult} {others : Multiset CallResult}
    (arrived : x.results = result ::ₘ others) (effects : app.effects = x.app.effects) :
    x.outstanding =
      result.errand ::ₘ outstanding { x with app, surroundings := s, results := others } := by
  rw [outstanding, outstanding, effects, arrived, Multiset.map_cons, Multiset.add_cons]

end Steps

section Keep

variable {w : Surroundings σ} {service : Service} {x : Workshop σ}

theorem Accounted.press (h : Accounted x) (id : RequestId) (key : KeyPress) :
    Accounted { x with
      app := (x.app.press w id key x.surroundings).1
      surroundings := (x.app.press w id key x.surroundings).2 } := by
  have acted := App.press_acted w id key x.app x.surroundings
  generalize (x.app.press w id key x.surroundings).1 = app at acted
  cases acted with
  | shown => exact ⟨h.consistent, h.awaited, h.entering⟩
  | filled login same =>
    refine ⟨h.consistent, h.awaited.trans (App.awaited_congr rfl same.symm), ?_⟩
    intro n scheduled workspace
    exact same.trans (h.entering n scheduled workspace)
  | signingIn credentials message idle still =>
    refine ⟨h.consistent, (outstanding_of_queued rfl).trans ?_, ?_⟩
    · rw [h.awaited]
      simp [App.awaited, idle, Effect.errand?, Effect.call?, Call.errand, Multiset.add_comm]
    · intro n scheduled
      exact absurd (still.symm.trans scheduled) (by simp)
  | submitted source read idle =>
    have free := h.consistent.idle_iff.mp idle
    refine ⟨Session.submitted_consistent _ id, (outstanding_of_queued rfl).trans ?_, h.entering⟩
    rw [h.awaited]
    simp [App.awaited, free, Session.submitted, Effect.errand?, Effect.call?, Call.errand]
  | editing =>
    refine ⟨h.consistent, (outstanding_of_queued rfl).trans ?_, h.entering⟩
    rw [h.awaited]
    simp [App.awaited, Effect.errand?, Effect.call?]

/-- Only a call that the program waits for can come back, and taking over its result clears the flag. -/
theorem Accounted.takeOver (h : Accounted x) {result : CallResult} {others : Multiset CallResult}
    (now : Nat) (arrived : x.results = result ::ₘ others) :
    Accounted { x with
      app := (x.app.receive w result now x.surroundings).1
      surroundings := (x.app.receive w result now x.surroundings).2
      results := others } := by
  have received := App.receive_received w result now x.app x.surroundings
  generalize (x.app.receive w result now x.surroundings).1 = app at received
  generalize (x.app.receive w result now x.surroundings).2 = s
  have ended : x.app.awaited = result.errand ::ₘ outstanding { x with
      app, surroundings := s, results := others } :=
    h.awaited.symm.trans (outstanding_of_takenOver arrived received.effects)
  have waited : result.errand ∈ x.app.awaited := ended ▸ Multiset.mem_cons_self _ _
  -- the result is an awaited one, so that it cannot be stale
  refine ⟨?_, (Multiset.cons_inj_right result.errand).mp (ended.symm.trans ?_), ?_⟩
  · cases received with
    | stale => exact h.consistent
    | settled outcome busy phase done => exact Session.settledIn_consistent _ done
    | loggedIn => exact h.consistent
  · cases received with
    | stale outcome other => exact absurd (App.compilation_mem_awaited.mp waited) other
    | settled outcome busy => simp [App.awaited, busy, Session.settledIn, CallResult.errand]
    | loggedIn outcome =>
      have pending : x.app.login.pending = true := App.login_mem_awaited.mp waited
      rw [App.awaited, if_pos pending, Multiset.add_comm, Multiset.singleton_add]
      simp [App.awaited, CallResult.errand]
  · intro n scheduled workspace
    rw [received.navigation, Option.or_eq_some_iff] at scheduled
    cases received with
    | stale outcome other => exact absurd (App.compilation_mem_awaited.mp waited) other
    | settled =>
      obtain asked | ⟨_, earlier⟩ := scheduled
      · rw [App.eq_of_requested? asked] at workspace
        cases workspace
      · exact h.entering n earlier workspace
    | loggedIn => rfl

theorem Accounted.tick (h : Accounted x) (now : Nat) (time : LocalTime) :
    Accounted { x with app := x.app.tick now time } := by
  obtain same | ⟨⟨target, due⟩, scheduled, _, moved⟩ := x.app.tick_cases now time
  · rw [same]
    exact h
  · have pending : (x.app.navigate target time).login.pending = x.app.login.pending := by
      cases target with
      | login => rfl
      | workspace =>
        -- the form is cleared here, and only because no login is on its way nothing is lost
        exact (h.entering _ scheduled rfl).symm
    rw [moved]
    refine ⟨h.consistent, h.awaited.trans (App.awaited_congr rfl pending.symm), ?_⟩
    intro n again
    cases again

theorem Accounted.step (h : Accounted x) {event : Happening} {y : Workshop σ}
    (step : Step w service x event y) : Accounted y := by
  cases step with
  | press id key => exact h.press id key
  | takeOver now arrived => exact h.takeOver now arrived
  | tick now => exact h.tick now _
  | start before after queued calls =>
    exact ⟨h.consistent, (outstanding_of_started queued calls rfl).trans h.awaited, h.entering⟩
  | edit before after queued =>
    obtain ⟨source, status, edited⟩ := App.sourceEdited_eq w (w.editSource x.surroundings).1
      { x.app with effects := before ++ after } (w.editSource x.surroundings).2
    rw [edited]
    exact ⟨h.consistent, (outstanding_of_edited queued rfl).trans h.awaited, h.entering⟩
  | finish outcome working =>
    exact ⟨h.consistent, (outstanding_of_ended outcome working).trans h.awaited, h.entering⟩
  | comeDown reason working =>
    exact ⟨h.consistent, (outstanding_of_ended _ working).trans h.awaited, h.entering⟩
  | outside s => exact ⟨h.consistent, h.awaited, h.entering⟩

end Keep

section Faithful

variable {w : Surroundings σ} {service : Service} {x y : Workshop σ}

theorem Runs.accounted {events : List Happening} (run : Runs w service x events y)
    (h : Accounted x) : Accounted y :=
  run.invariant h fun ha step => ha.step step

theorem Accounted.compilations_eq (h : Accounted x) :
    x.compilations = ↑(x.app.session.inFlight.toList.map Errand.compilation) := by
  rw [compilations, h.awaited, App.awaited]
  cases x.app.session.inFlight <;> cases x.app.login.pending <;> rfl

theorem Accounted.logins_eq (h : Accounted x) :
    x.logins = if x.app.login.pending then {.login} else 0 := by
  rw [logins, h.awaited, App.awaited]
  cases x.app.session.inFlight <;> cases x.app.login.pending <;> rfl

/-- The flags of the program tell which calls are outstanding, and no result comes too late. -/
structure Faithful (w : Surroundings σ) (x : Workshop σ) : Prop where
  inFlight_iff (id : RequestId) :
    x.app.session.inFlight = some id ↔ x.compilations = {.compilation id}
  free_iff : x.app.session.inFlight = none ↔ x.compilations = 0
  pending_iff : x.app.login.pending = true ↔ x.logins = {.login}
  notPending_iff : x.app.login.pending = false ↔ x.logins = 0
  oneCompilation : x.compilations.card ≤ 1
  oneLogin : x.logins.card ≤ 1
  /-- Taking over a result that is there settles the request in flight. -/
  notStale (id : RequestId) (outcome : Outcome) : .compiled id outcome ∈ x.results →
    (Session.settle w.toPresenter x.app.endpoint id outcome
      ⟨x.app.session, x.app.panes, x.surroundings⟩).1 ≠ .stale
  /-- No flag stays behind when nothing is outstanding. -/
  quiet : x.outstanding = 0 → x.app.session.inFlight = none ∧
    x.app.session.phase ≠ .submitting ∧ x.app.login.pending = false

theorem Accounted.faithful (h : Accounted x) : Faithful w x := by
  have compilations := h.compilations_eq
  have logins := h.logins_eq
  refine ⟨?_, ?_, ?_, ?_, ?_, ?_, ?_, ?_⟩
  · intro id
    rw [compilations]
    cases x.app.session.inFlight <;> simp
  · rw [compilations]
    cases x.app.session.inFlight <;> simp
  · rw [logins]
    cases x.app.login.pending <;> simp
  · rw [logins]
    cases x.app.login.pending <;> simp
  · rw [compilations]
    cases x.app.session.inFlight <;> simp
  · rw [logins]
    cases x.app.login.pending <;> simp
  · intro id outcome there
    have busy : Errand.compilation id ∈ x.outstanding :=
      Multiset.mem_add.mpr (.inr (Multiset.mem_map_of_mem CallResult.errand there))
    rw [h.awaited, App.compilation_mem_awaited] at busy
    rw [Ne, Session.settle_eq_stale_iff, not_not]
    exact busy
  · intro empty
    have free : x.app.session.inFlight = none := by
      cases busy : x.app.session.inFlight with
      | none => rfl
      | some id =>
        have there := App.compilation_mem_awaited.mpr busy
        rw [← h.awaited, empty] at there
        exact absurd there (Multiset.notMem_zero _)
    refine ⟨free, h.consistent.idle_iff.mpr free, ?_⟩
    rw [Bool.eq_false_iff, Ne, ← App.login_mem_awaited, ← h.awaited, empty]
    exact Multiset.notMem_zero _

/-- In every interleaving of key presses, results, ticks and workers, whatever the service answers
and whichever worker comes down, the flags match the outstanding calls. The numbers of the requests
need not even differ: a second one is not taken while the first is outstanding. -/
theorem flags_match_outstanding_calls {delay : Nat} {gate : LoginGate} {endpoint : String}
    {screen : Screen} {s : σ} {events : List Happening}
    (run : Runs w service (opened w delay gate endpoint screen s) events x) : Faithful w x :=
  (run.accounted (accounted_opened w delay gate endpoint screen s)).faithful

/-- The compilation whose worker came down is still outstanding while its result waits. -/
theorem flags_match_crashed_compilation :
    ∃ events x, Runs (.constant "int x;") (.ofUrl "http://localhost")
        (opened (.constant "int x;") 2000 ⟨1000⟩ "http://localhost" .workspace []) events x ∧
      x.workers = 0 ∧ x.compilations = {.compilation ⟨0⟩} ∧ Faithful (.constant "int x;") x := by
  have pressed : Step (.constant "int x;") (.ofUrl "http://localhost")
      (opened (.constant "int x;") 2000 ⟨1000⟩ "http://localhost" .workspace [])
      (.pressed ⟨0⟩ { key := .function 5 }) _ := .press _ _ _
  have started := (Runs.single pressed).snoc (.start [] [] rfl rfl)
  have run := started.snoc (.comeDown none (rfl : _ = Call.compile ⟨0⟩ "int x;" ::ₘ 0))
  have faithful := flags_match_outstanding_calls run
  exact ⟨_, _, run, rfl, (faithful.inFlight_iff ⟨0⟩).mp rfl, faithful⟩

end Faithful

end Workshop

/-- Between any two turns of the event loop the flags match the outstanding calls. -/
theorem EventLoop.turns_faithful {σ : Type} (w : Surroundings σ) (service : Service)
    (clock : Nat → Nat) (keys : List KeyboardEvent) (delay : Nat) (gate : LoginGate)
    (endpoint : String) (screen : Screen) (s : σ) (wire : Wire) :
    let app : App := .start w { redirectDelay := delay } gate endpoint screen s
    let last := (turns w service clock 0 keys { app, surroundings := s, wire }).last
    (last.workshop last.app.effects).Faithful w := by
  intro app last
  obtain ⟨events, run⟩ := turns_runs w service clock 0 keys { app, surroundings := s, wire }
  exact (run.accounted (Workshop.accounted_opened w delay gate endpoint screen s)).faithful

end CompileDesk
