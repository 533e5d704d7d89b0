import CompileDesk.Command.Compile
import CompileDesk.Command.Interact
import CompileDesk.Program.Basic
import CompileDesk.Proofs.AppRun

/-!
# Interactive and single compilations agree

A compilation that the interactive program makes shows the same as one of the command for a single
file, whatever the user did before and whatever happens until its answer comes. Taking the source
empties the panes; until the answer comes no other input fills them or ends the request; and judging the
answer depends on no more than what the two have in common.
-/

namespace CompileDesk

/-- Two panes with the same assembly text, diagram and symbols. -/
structure Panes.SameContent (p q : Panes) : Prop where
  assembly : p.assembly = q.assembly
  diagram : p.diagram = q.diagram
  symbols : p.symbols = q.symbols

namespace Session

variable {σ τ : Type} {render : Renderer σ} {render' : Renderer τ} {s : σ} {t : τ} {p q : Panes}

/-- Artifacts are shown alike by renderers that answer alike. -/
theorem present_congr (h : p.SameContent q)
    (same : ∀ diagram, (render diagram s).1 = (render' diagram t).1) (artifacts : Artifacts) :
    (p.present render artifacts s).1.SameContent (q.present render' artifacts t).1 := by
  rw [Panes.present_eq, Panes.present_eq]
  refine ⟨rfl, ?_, rfl⟩
  cases artifacts.diagram with
  | none => exact h.diagram
  | some source => exact congrArg (Panes.diagramView source) (same source)

/-- What judging an outcome gives and shows, but for the time of the status, depends on the outcome, the
settings, what the panes show but for the status and the selected tab, and the answers of the
renderer. -/
theorem judge_congr {presenter : Presenter σ} {presenter' : Presenter τ} (h : p.SameContent q)
    (same : ∀ diagram, (presenter.render diagram s).1 = (presenter'.render diagram t).1)
    (endpoint : String) (delay : Nat) (outcome : Outcome) :
    let left := judge presenter endpoint delay outcome p s
    let right := judge presenter' endpoint delay outcome q t
    left.1 = right.1 ∧ left.2.1 = right.2.1 ∧ left.2.2.1.SameContent right.2.2.1 ∧
      left.2.2.1.status.map Status.said = right.2.2.1.status.map Status.said := by
  intro left right
  -- all branches but that of a successful compilation write only the status
  have message (kind : StatusKind) (text : String) (time time' : LocalTime) :
      (p.withStatus kind text time).SameContent (q.withStatus kind text time') :=
    ⟨h.assembly, h.diagram, h.symbols⟩
  obtain ⟨artifacts, compiled⟩ | ⟨_, -, -, told⟩ | ⟨_, _, -, told⟩ := judge_cases endpoint delay outcome
  · have shown := present_congr h same artifacts
    simp only [left, right, judge_of_compiled _ endpoint delay compiled, true_and]
    exact ⟨⟨shown.assembly, shown.diagram, shown.symbols⟩, rfl⟩
  · simp only [left, right, told, true_and]
    exact ⟨message _ _ _ _, rfl⟩
  · simp only [left, right, told, true_and]
    exact ⟨message _ _ _ _, rfl⟩

theorem settledIn_congr {a b : Session} (h : a.redirectDelay = b.redirectDelay) (phase : Phase) :
    a.settledIn phase = b.settledIn phase := by
  rw [settledIn, settledIn, h]

end Session

namespace App

variable {σ : Type}

/-- The program waits for the answer to a request, with nothing on the panes but perhaps a
status. -/
structure Awaiting (id : RequestId) (a : App) : Prop where
  inFlight : a.session.inFlight = some id
  submitting : a.session.phase = .submitting
  blank : a.panes.SameContent {}

theorem Acted.awaiting {w : Surroundings σ} {id id' : RequestId} {a b : App} {s : σ}
    (h : Acted w id' a s b) (waits : Awaiting id a) : Awaiting id b := by
  cases h with
  | shown source theme editorTheme quitting tab status =>
    exact ⟨waits.inFlight, waits.submitting,
      ⟨waits.blank.assembly, waits.blank.diagram, waits.blank.symbols⟩⟩
  | filled => exact ⟨waits.inFlight, waits.submitting, waits.blank⟩
  | signingIn => exact ⟨waits.inFlight, waits.submitting, waits.blank⟩
  | submitted source read idle => exact absurd waits.submitting idle
  | editing => exact ⟨waits.inFlight, waits.submitting, waits.blank⟩

/-- Only the answer to the request ends the waiting. -/
theorem Awaiting.apply {w : Surroundings σ} {id : RequestId} {x : App × σ} (i : Input σ)
    (h : Awaiting id x.1) (other : ∀ outcome now, i ≠ .result (.compiled id outcome) now) :
    Awaiting id (i.apply w x).1 := by
  obtain ⟨a, s⟩ := x
  cases i with
  | act id' action => exact (dispatch_acted w id' action a s).awaiting h
  | result r now =>
    have received := receive_received w r now a s
    change Awaiting id (a.receive w r now s).1
    generalize (a.receive w r now s).1 = b at received
    cases received with
    | stale => exact h
    | @settled id' outcome busy =>
      have same : id = id' := Option.some.inj (h.inFlight.symm.trans busy)
      exact absurd (by rw [same]) (other outcome now)
    | loggedIn => exact ⟨h.inFlight, h.submitting, h.blank⟩
  | edited report =>
    obtain ⟨source, status, changed⟩ := sourceEdited_eq w report a s
    rw [Input.apply, changed]
    exact ⟨h.inFlight, h.submitting, ⟨h.blank.assembly, h.blank.diagram, h.blank.symbols⟩⟩
  | tick now =>
    obtain same | ⟨n, _, _, moved⟩ := a.tick_cases now (w.clock s)
    · rw [Input.apply, same]
      exact h
    · rw [Input.apply, moved]
      exact ⟨h.inFlight, h.submitting, h.blank⟩
  | drained => exact ⟨h.inFlight, h.submitting, h.blank⟩
  | outside t => exact h

/-- The waiting lasts through every run without the answer. -/
theorem Awaiting.after {w : Surroundings σ} {id : RequestId} {x : App × σ}
    {inputs : List (Input σ)} (h : Awaiting id x.1)
    (unanswered : ∀ outcome now, .result (.compiled id outcome) now ∉ inputs) :
    Awaiting id (after w inputs x).1 := by
  refine after_invariant (P := fun y => Awaiting id y.1) w x inputs ?_ h
  intro i hi y hy
  refine hy.apply i ?_
  rintro outcome now rfl
  exact unanswered outcome now hi

/-- An action that queues a compilation took the source as it was read and waits for the answer. -/
theorem awaiting_of_queued {w : Surroundings σ} {id id' : RequestId} {action : Action}
    {source : String} {a : App} {s : σ}
    (accepted : (a.dispatch w id' action s).1.effects = a.effects ++ [.compile id source]) :
    w.readSource s = .ok source ∧ Awaiting id (a.dispatch w id' action s).1 := by
  have acted := dispatch_acted w id' action a s
  generalize (a.dispatch w id' action s).1 = b at acted accepted
  cases acted with
  | shown => simp at accepted
  | filled => simp at accepted
  | signingIn => simp at accepted
  | submitted source' read idle =>
    simp only [List.append_cancel_left_eq, List.cons.injEq, Effect.compile.injEq] at accepted
    obtain ⟨⟨rfl, rfl⟩, _⟩ := accepted
    exact ⟨read, rfl, rfl, ⟨rfl, rfl, rfl⟩⟩
  | editing => simp at accepted

/-- Every run keeps the delay of the session and the address that the program started with. -/
theorem settings_after_start (w : Surroundings σ) (session : Session) (gate : LoginGate)
    (endpoint : String) (screen : Screen) (s : σ) (inputs : List (Input σ)) :
    let a := (after w inputs (start w session gate endpoint screen s, s)).1
    a.session.redirectDelay = session.redirectDelay ∧ a.endpoint = endpoint := by
  obtain ⟨source, status, h⟩ := start_eq w session gate endpoint screen s
  have kept := after_sameSettings w inputs (start w session gate endpoint screen s, s)
  rw [h] at kept ⊢
  exact ⟨kept.redirectDelay, kept.endpoint⟩

end App

namespace Command

variable {σ : Type}

/-- A single compilation judges the answer of the service on empty panes. -/
theorem compileOnce_eq (presenter : Presenter Desk) (settings : Settings) {source : String} {d : Desk}
    {outcome : Outcome}
    (answered : (d.call (settings.service.compileRequest source)).1 = outcome) :
    let judged := Session.judge presenter settings.service.endpoint
      settings.session.redirectDelay outcome {} (d.call (settings.service.compileRequest source)).2
    compileOnce presenter settings source d =
      some (judged.1, ⟨settings.session.settledIn judged.2.1, judged.2.2.1, judged.2.2.2⟩) := by
  rw [compileOnce, Session.run?_eq, if_neg nofun]
  subst answered
  rfl

/-- A program that takes over the answer to a request ends like a compilation with a settlement and a
bench: the settlement, the session and the panes but for the selected tab and the time of the status are
the same. -/
structure EndsAlike (w : Surroundings σ) (id : RequestId) (outcome : Outcome) (now : Nat)
    (x : App × σ) (settlement : Settlement) (b : Bench Desk) : Prop where
  settlement : (Session.settle w.toPresenter x.1.endpoint id outcome
    ⟨x.1.session, x.1.panes, x.2⟩).1 = settlement
  session : (x.1.receive w (.compiled id outcome) now x.2).1.session = b.session
  content : (x.1.receive w (.compiled id outcome) now x.2).1.panes.SameContent b.panes
  status : (x.1.receive w (.compiled id outcome) now x.2).1.panes.status.map Status.said =
    b.panes.status.map Status.said

/-- A compilation that the interactive program accepts in any state that it can reach ends as the
command for a single file ends with the same source, settings and answer, whatever run comes before
the answer. The renderers of the two have to answer alike, as they do on the same files. -/
theorem interactive_ends_like_compileSource (presenter : Presenter Desk) (settings : Settings)
    {w : Surroundings σ} {gate : LoginGate} {screen : Screen} {s : σ} {before later : List (App.Input σ)}
    {id : RequestId} {source : String} {outcome : Outcome} {d : Desk} {x y : App × σ} (now : Nat)
    (reached : x = App.after w before
      (.start w settings.session gate settings.service.endpoint screen s, s))
    (accepted : (x.1.dispatch w id .compile x.2).1.effects = x.1.effects ++ [.compile id source])
    (waited : y = App.after w (.act id .compile :: later) x)
    (unanswered : ∀ answer time, .result (.compiled id answer) time ∉ later)
    (answered : (d.call (settings.service.compileRequest source)).1 = outcome)
    (rendered : ∀ diagram, (w.render diagram y.2).1 =
      (presenter.render diagram (d.call (settings.service.compileRequest source)).2).1) :
    w.readSource x.2 = .ok source ∧ ∃ settlement b,
      compileOnce presenter settings source d = some (settlement, b) ∧
      compileSource presenter settings source d = (settlement, b.panes, b.surroundings) ∧
      EndsAlike w id outcome now y settlement b := by
  obtain ⟨delay, endpoint⟩ : y.1.session.redirectDelay = settings.session.redirectDelay ∧
      y.1.endpoint = settings.service.endpoint := by
    rw [waited, reached, ← App.after_append]
    exact App.settings_after_start ..
  obtain ⟨read, queued⟩ := App.awaiting_of_queued accepted
  have waiting : App.Awaiting id y.1 := by
    rw [waited, App.after_cons]
    exact queued.after unanswered
  have once := compileOnce_eq presenter settings answered
  rw [← delay, ← endpoint] at once
  obtain ⟨settlement, phase, content, status⟩ := Session.judge_congr waiting.blank rendered
    y.1.endpoint y.1.session.redirectDelay outcome
  have settled := Session.settle_of_eq w.toPresenter y.1.endpoint outcome
    (b := ⟨y.1.session, y.1.panes, y.2⟩) waiting.inFlight
  have received := App.receive_compiled_of_eq w id outcome now y.2 waiting.inFlight
  refine ⟨read, _, _, once, ?_, ?_, ?_, ?_, ?_⟩
  · rw [compileSource, once]
  · rw [settled]
    exact settlement
  · rw [received]
    exact (Session.settledIn_congr delay _).trans (congrArg _ phase)
  · rw [received]
    exact content
  · rw [received]
    exact status

/-- After a failed compilation and with a refused one and another tab selected meanwhile, a second
compilation ends like a single one. -/
theorem interactive_ends_like_compileSource_twice :
    let h : Host :=
      { home := "home", now := ⟨2000, 1, 2, 3, 4, 5, 678⟩, clock := id, programs := Program.run }
    let files : FileTree := ⟨[(["main.mjava"], .file (Text.bytesOf "int x;") false)]⟩
    let w := Surroundings.ofHost h {} "main.mjava"
    let d : Desk := { files, wire := .scripted [.reply ⟨200, "{}"⟩] }
    let x := App.after w
      [.act ⟨0⟩ .compile, .result (.compiled ⟨0⟩ (.error ⟨"http://127.0.0.1:4567", "refused"⟩)) 5]
      (.start w (Settings.session {}) ⟨1000⟩ (Settings.service {}).endpoint .workspace files, files)
    let y := App.after w [.act ⟨1⟩ .compile, .act ⟨2⟩ .nextTab, .act ⟨3⟩ .compile, .tick 7] x
    ∃ settlement b, compileOnce (deskPresenter h {}) {} "int x;" d = some (settlement, b) ∧
      EndsAlike w ⟨1⟩ (.ok ⟨200, "{}"⟩) 9 y settlement b := by
  intro h files w d x y
  have accepted : (x.1.dispatch w ⟨1⟩ .compile x.2).1.effects =
      x.1.effects ++ [.compile ⟨1⟩ "int x;"] := rfl
  obtain ⟨_, settlement, b, once, _, alike⟩ := interactive_ends_like_compileSource
    (deskPresenter h {}) {} 9
    (rfl : x = _) accepted (rfl : y = _) (by simp) (rfl : (d.call _).1 = .ok ⟨200, "{}"⟩)
    fun _ => rfl
  exact ⟨settlement, b, once, alike⟩

end Command
end CompileDesk
