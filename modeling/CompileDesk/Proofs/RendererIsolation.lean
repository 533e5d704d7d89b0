import CompileDesk.Proofs.SessionInvariant
import Mathlib.Data.List.Forall2

/-!
# What depends on the renderer

A renderer is asked while the panes are being filled, between the text of the assembly and the symbols. Two
sessions that are used alike with different renderers nevertheless go the same way. Only what is shown of
the diagrams tells them apart, and it tells how the renderer answered. The sessions may have clocks of their
own, which show in the times of their messages and nowhere else.
-/

namespace CompileDesk

variable {σ τ : Type}

/-- Two panes that may only show different diagrams, and not a diagram and none, under messages that may have
been given at different times. -/
structure Panes.AlikeButDiagram (p q : Panes) : Prop where
  assembly : p.assembly = q.assembly
  symbols : p.symbols = q.symbols
  tab : p.tab = q.tab
  status : p.status.map Status.said = q.status.map Status.said
  empty_iff : p.diagram = .empty ↔ q.diagram = .empty

/-- Two benches with the same session and alike panes; the surroundings may be of different kinds. -/
structure Bench.AlikeButDiagram (b : Bench σ) (c : Bench τ) : Prop where
  session : b.session = c.session
  panes : b.panes.AlikeButDiagram c.panes

namespace Panes

variable {p q : Panes}

theorem AlikeButDiagram.refl (p : Panes) : p.AlikeButDiagram p := ⟨rfl, rfl, rfl, rfl, .rfl⟩

theorem AlikeButDiagram.withStatus (h : p.AlikeButDiagram q) (kind : StatusKind) (text : String)
    (time time' : LocalTime) :
    (p.withStatus kind text time).AlikeButDiagram (q.withStatus kind text time') :=
  ⟨h.assembly, h.symbols, h.tab, rfl, h.empty_iff⟩

theorem AlikeButDiagram.cleared (h : p.AlikeButDiagram q) : p.cleared.AlikeButDiagram q.cleared :=
  ⟨rfl, rfl, h.tab, rfl, .rfl⟩

theorem diagramView_ne_empty (source : String) (answer : Except RenderError Rendered) :
    diagramView source answer ≠ .empty := by
  cases answer <;> nofun

/-- Whatever two renderers answer, the same artifacts are shown alike. -/
theorem AlikeButDiagram.present (h : p.AlikeButDiagram q) (left : Renderer σ) (right : Renderer τ)
    (a : Artifacts) (s : σ) (t : τ) :
    (p.present left a s).1.AlikeButDiagram (q.present right a t).1 := by
  rw [present_eq, present_eq]
  refine ⟨rfl, rfl, by rw [h.tab], h.status, ?_⟩
  cases a.diagram with
  | none => exact h.empty_iff
  | some source => simp [diagramView_ne_empty]

end Panes

namespace Session

/-- A use of a session. The outcome is given for a run as well. -/
inductive Use where
  | submit (id : RequestId)
  | settle (id : RequestId) (outcome : Outcome) (endpoint : String)
  | run (id : RequestId) (source : String) (outcome : Outcome) (endpoint : String)

/-- What a use of a session answers. -/
inductive Answer where
  | refused
  | taken
  | settled (settlement : Settlement)
  deriving DecidableEq

def Use.perform (presenter : Presenter σ) (b : Bench σ) : Use → Answer × Bench σ
  | submit id =>
    match b.session.submit? b.panes id with
    | some (session, panes) => (.taken, { b with session, panes })
    | none => (.refused, b)
  | settle id outcome endpoint =>
    let done := Session.settle presenter endpoint id outcome b
    (.settled done.1, done.2)
  | run id source outcome endpoint =>
    match run? presenter endpoint (fun _ s => (outcome, s)) id source b with
    | some (settlement, after) => (.settled settlement, after)
    | none => (.refused, b)

/-- What each of some uses answers and leaves behind. -/
def trace (presenter : Presenter σ) : List Use → Bench σ → List (Answer × Bench σ)
  | [], _ => []
  | use :: rest, b => use.perform presenter b :: trace presenter rest (use.perform presenter b).2

/-- The use shows artifacts: it settles the request in flight, or runs when none is, with an outcome that
brings them. -/
inductive Presents (b : Bench σ) : Use → Artifacts → Prop where
  | settle {id : RequestId} {outcome : Outcome} {endpoint : String} {a : Artifacts}
    (inFlight : b.session.inFlight = some id) (compiled : outcome.Compiled a) :
    Presents b (.settle id outcome endpoint) a
  | run {id : RequestId} {source : String} {outcome : Outcome} {endpoint : String} {a : Artifacts}
    (idle : b.session.phase ≠ .submitting) (compiled : outcome.Compiled a) :
    Presents b (.run id source outcome endpoint) a

/-! ## One use -/

section Perform

variable (presenter : Presenter σ) {b : Bench σ} (id : RequestId) (outcome : Outcome) (source endpoint : String)

/-- The bench after a program was taken. -/
def taken (b : Bench σ) (id : RequestId) : Bench σ :=
  ⟨b.session.submitted id, b.panes.cleared, b.surroundings⟩

theorem Use.submit_of_busy (busy : b.session.phase = .submitting) :
    (Use.submit id).perform presenter b = (.refused, b) := by
  simp [perform, submit?_eq, busy]

theorem Use.submit_of_idle (idle : b.session.phase ≠ .submitting) :
    (Use.submit id).perform presenter b = (.taken, Session.taken b id) := by
  simp [perform, submit?_eq, idle, Session.taken]

theorem Use.run_of_busy (busy : b.session.phase = .submitting) :
    (Use.run id source outcome endpoint).perform presenter b = (.refused, b) := by
  simp [perform, run?_eq, busy]

/-- A run that is accepted takes the program and settles the request. -/
theorem Use.run_of_idle (idle : b.session.phase ≠ .submitting) :
    (Use.run id source outcome endpoint).perform presenter b =
      (Use.settle id outcome endpoint).perform presenter (Session.taken b id) := by
  simp [perform, run?_eq, idle, Session.taken]

theorem Use.settle_of_inFlight (inFlight : b.session.inFlight = some id) :
    (Use.settle id outcome endpoint).perform presenter b =
      let judged := judge presenter endpoint b.session.redirectDelay outcome b.panes b.surroundings
      (.settled judged.1, ⟨b.session.settledIn judged.2.1, judged.2.2.1, judged.2.2.2⟩) := by
  simp [perform, settle_of_eq presenter endpoint outcome inFlight]

theorem Use.settle_of_stale (stale : b.session.inFlight ≠ some id) :
    (Use.settle id outcome endpoint).perform presenter b = (.settled .stale, b) := by
  simp [perform, settle_of_ne presenter endpoint outcome stale]

end Perform

/-! ## Two renderers -/

section Two

variable {b : Bench σ} {c : Bench τ} (left : Presenter σ) (right : Presenter τ)

theorem judge_alike {p q : Panes} (h : p.AlikeButDiagram q) (endpoint : String) (delay : Nat)
    (outcome : Outcome) (s : σ) (t : τ) :
    let judged := judge left endpoint delay outcome p s
    let judged' := judge right endpoint delay outcome q t
    judged.1 = judged'.1 ∧ judged.2.1 = judged'.2.1 ∧ judged.2.2.1.AlikeButDiagram judged'.2.2.1 := by
  intro judged judged'
  obtain ⟨a, compiled⟩ | ⟨_, -, -, told⟩ | ⟨_, _, -, told⟩ := judge_cases endpoint delay outcome
  · simp only [judged, judged', judge_of_compiled _ endpoint delay compiled, true_and]
    exact (h.present left.render right.render a s t).withStatus _ _ _ _
  · simp only [judged, judged', told, true_and]
    exact h.withStatus _ _ _ _
  · simp only [judged, judged', told, true_and]
    exact h.withStatus _ _ _ _

/-- The two answer alike and leave alike benches. -/
def Agree (x : Answer × Bench σ) (y : Answer × Bench τ) : Prop :=
  x.1 = y.1 ∧ x.2.AlikeButDiagram y.2

theorem settle_agree (h : b.AlikeButDiagram c) (id : RequestId) (outcome : Outcome)
    (endpoint : String) :
    Agree ((Use.settle id outcome endpoint).perform left b)
      ((Use.settle id outcome endpoint).perform right c) := by
  by_cases inFlight : b.session.inFlight = some id
  · have inFlight' : c.session.inFlight = some id := h.session ▸ inFlight
    obtain ⟨settlement, phase, panes⟩ := judge_alike left right h.panes endpoint
      b.session.redirectDelay outcome b.surroundings c.surroundings
    rw [Use.settle_of_inFlight left id outcome endpoint inFlight,
      Use.settle_of_inFlight right id outcome endpoint inFlight', ← h.session]
    exact ⟨congrArg Answer.settled settlement, congrArg b.session.settledIn phase, panes⟩
  · have stale : c.session.inFlight ≠ some id := h.session ▸ inFlight
    rw [Use.settle_of_stale left id outcome endpoint inFlight,
      Use.settle_of_stale right id outcome endpoint stale]
    exact ⟨rfl, h⟩

theorem taken_alike (h : b.AlikeButDiagram c) (id : RequestId) :
    (taken b id).AlikeButDiagram (taken c id) :=
  ⟨congrArg (submitted · id) h.session, h.panes.cleared⟩

/-- A use of alike benches with two presenters has the same answer and leaves the benches alike. -/
theorem perform_agree (h : b.AlikeButDiagram c) (use : Use) :
    Agree (use.perform left b) (use.perform right c) := by
  cases use with
  | settle id outcome endpoint => exact settle_agree left right h id outcome endpoint
  | submit id =>
    by_cases busy : b.session.phase = .submitting
    · rw [Use.submit_of_busy left id busy, Use.submit_of_busy right id (h.session ▸ busy)]
      exact ⟨rfl, h⟩
    · rw [Use.submit_of_idle left id busy, Use.submit_of_idle right id (h.session ▸ busy)]
      exact ⟨rfl, taken_alike h id⟩
  | run id source outcome endpoint =>
    by_cases busy : b.session.phase = .submitting
    · rw [Use.run_of_busy left id outcome source endpoint busy,
        Use.run_of_busy right id outcome source endpoint (h.session ▸ busy)]
      exact ⟨rfl, h⟩
    · rw [Use.run_of_idle left id outcome source endpoint busy,
        Use.run_of_idle right id outcome source endpoint (h.session ▸ busy)]
      exact settle_agree left right (taken_alike h id) id outcome endpoint

theorem trace_agree (h : b.AlikeButDiagram c) (uses : List Use) :
    List.Forall₂ Agree (trace left uses b) (trace right uses c) := by
  induction uses generalizing b c with
  | nil => exact .nil
  | cons use rest ih =>
    have step := perform_agree left right h use
    exact .cons step (ih step.2)

end Two

/-! ## The diagram -/

section Diagram

variable (presenter : Presenter σ) {b : Bench σ}

theorem settle_eq_succeeded_iff (id : RequestId) (outcome : Outcome) (endpoint : String) :
    ((Use.settle id outcome endpoint).perform presenter b).1 = .settled .succeeded ↔
      b.session.inFlight = some id ∧ ∃ a, outcome.Compiled a := by
  by_cases inFlight : b.session.inFlight = some id
  · simp [Use.settle_of_inFlight presenter id outcome endpoint inFlight, judge_settlement_eq_succeeded_iff,
      inFlight]
  · simp [Use.settle_of_stale presenter id outcome endpoint inFlight, inFlight]

/-- A use succeeds if it shows artifacts, and only then. -/
theorem perform_eq_succeeded_iff (use : Use) :
    (use.perform presenter b).1 = .settled .succeeded ↔ ∃ a, Presents b use a := by
  cases use with
  | submit id =>
    have nothing : ¬ ∃ a, Presents b (.submit id) a := nofun
    by_cases busy : b.session.phase = .submitting
    · simp [Use.submit_of_busy presenter id busy, nothing]
    · simp [Use.submit_of_idle presenter id busy, nothing]
  | settle id outcome endpoint =>
    rw [settle_eq_succeeded_iff]
    constructor
    · rintro ⟨inFlight, a, compiled⟩
      exact ⟨a, .settle inFlight compiled⟩
    · rintro ⟨a, presents⟩
      cases presents with
      | settle inFlight compiled => exact ⟨inFlight, a, compiled⟩
  | run id source outcome endpoint =>
    by_cases busy : b.session.phase = .submitting
    · rw [Use.run_of_busy presenter id outcome source endpoint busy]
      constructor
      · nofun
      · rintro ⟨a, presents⟩
        cases presents with
        | run idle compiled => exact absurd busy idle
    · rw [Use.run_of_idle presenter id outcome source endpoint busy, settle_eq_succeeded_iff]
      constructor
      · rintro ⟨-, a, compiled⟩
        exact ⟨a, .run busy compiled⟩
      · rintro ⟨a, presents⟩
        cases presents with
        | run idle compiled => exact ⟨rfl, a, compiled⟩

/-- Artifacts that come with a diagram are shown by what the renderer answers to it. -/
theorem Presents.diagram {use : Use} {a : Artifacts} {source : String} (presents : Presents b use a)
    (given : a.diagram = some source) : (use.perform presenter b).2.panes.diagram =
      Panes.diagramView source (presenter.render source b.surroundings).1 := by
  cases presents with
  | @settle id outcome endpoint _ inFlight compiled =>
    rw [Use.settle_of_inFlight presenter id outcome endpoint inFlight, judge_of_compiled presenter _ _ compiled,
      Panes.present_eq, given]
    rfl
  | @run id text outcome endpoint _ idle compiled =>
    have inFlight : (taken b id).session.inFlight = some id := rfl
    rw [Use.run_of_idle presenter id outcome text endpoint idle,
      Use.settle_of_inFlight presenter id outcome endpoint inFlight, judge_of_compiled presenter _ _ compiled,
      Panes.present_eq, given]
    rfl

end Diagram

/-- Two sessions that start alike and are used alike with different renderers have the same answers all along,
and after each use the same phase, trigger, request in flight, assembly text, symbols, tab and status, its
time aside; also, either both or none show a diagram. A use succeeds exactly if it shows artifacts. If
these come with a diagram, then its source and the failure are shown when the renderer fails, and the edges
of the source when it answers. -/
theorem renderer_stays_within_diagram (left : Presenter σ) (right : Presenter τ) (session : Session)
    (panes : Panes) (s : σ) (t : τ) (uses : List Use) :
    List.Forall₂ Agree (trace left uses ⟨session, panes, s⟩) (trace right uses ⟨session, panes, t⟩) ∧
    ∀ {υ : Type} (presenter : Presenter υ) (b : Bench υ) (use : Use),
      ((use.perform presenter b).1 = .settled .succeeded ↔ ∃ a, Presents b use a) ∧
      ∀ {a : Artifacts} {source : String}, Presents b use a → a.diagram = some source →
        (∀ e, (presenter.render source b.surroundings).1 = .error e →
          (use.perform presenter b).2.panes.diagram = .failed source e.message) ∧
        ∀ rendered, (presenter.render source b.surroundings).1 = .ok rendered →
          (use.perform presenter b).2.panes.diagram =
            .rendered rendered.path rendered.svg.utf8ByteSize (Diagram.edges source) := by
  refine ⟨trace_agree left right ⟨rfl, .refl panes⟩ uses, ?_⟩
  intro υ presenter b use
  refine ⟨perform_eq_succeeded_iff presenter use, ?_⟩
  intro a source presents given
  rw [presents.diagram presenter given]
  constructor
  · intro e failed
    rw [failed]
    rfl
  · intro rendered answered
    rw [answered]
    rfl

def arrowBody : String := "\x7b\"success\":true,\"dotCode\":\"digraph\x7bA->B\x7d\"\x7d"

def arrowFields : List (String × Json) :=
  [("success", .bool true), ("dotCode", .string "digraph\x7bA->B\x7d")]

def arrowArtifacts : Artifacts := ⟨"", some "digraph\x7bA->B\x7d", []⟩

def rejecting : Presenter Unit where
  render := .ofFunction fun _ => .error (.rejected "no arrows")
  clock _ := ⟨2000, 1, 2, 3, 4, 5, 678⟩

/-- It counts its drawings, saves every second one, and takes a second for each. -/
def alternating : Presenter Nat where
  render _ n := (.ok ⟨"<svg/>", if n % 2 = 0 then none else some "arrow.svg"⟩, n + 1)
  clock n := ⟨2000, 1, 2, 3, 4, n, 0⟩

def unused (s : σ) : Bench σ := ⟨{ redirectDelay := 2000 }, {}, s⟩

/-- Two uses that succeed, with a stale outcome before the first. -/
def arrowUses : List Use := [
  .submit ⟨0⟩, .settle ⟨7⟩ (.ok ⟨401, ""⟩) "", .settle ⟨0⟩ (.ok ⟨200, arrowBody⟩) "",
  .run ⟨1⟩ "class A" (.ok ⟨200, arrowBody⟩) ""]

/-- The diagram that one renderer rejects is drawn by the other, and nothing else differs. -/
theorem rejecting_and_alternating :
    List.Forall₂ Agree (trace rejecting arrowUses (unused ())) (trace alternating arrowUses (unused 1)) ∧
    let use := Use.settle ⟨0⟩ (.ok ⟨200, arrowBody⟩) ""
    Presents (taken (unused ()) ⟨0⟩) use arrowArtifacts ∧
      (use.perform rejecting (taken (unused ()) ⟨0⟩)).2.panes.diagram =
        .failed "digraph\x7bA->B\x7d" "diagram renderer rejected the source: no arrows" ∧
    Presents (taken (unused 1) ⟨0⟩) use arrowArtifacts ∧
      (use.perform alternating (taken (unused 1) ⟨0⟩)).2.panes.diagram =
        .rendered (some "arrow.svg") 6 [⟨"A", "B"⟩] := by
  have reads : Json.parse arrowBody = .ok (.object arrowFields) := by cbv
  have verdict : Verdict.ofReply ⟨200, arrowBody⟩ = .ok (.compiled arrowArtifacts) := by
    simp only [Verdict.ofReply, reads]
    rfl
  have compiled : Outcome.Compiled (.ok ⟨200, arrowBody⟩) arrowArtifacts := ⟨_, rfl, verdict⟩
  obtain ⟨agree, shown⟩ := renderer_stays_within_diagram rejecting alternating { redirectDelay := 2000 } {}
    () 1 arrowUses
  have left : Presents (taken (unused ()) ⟨0⟩) (.settle ⟨0⟩ (.ok ⟨200, arrowBody⟩) "") arrowArtifacts :=
    .settle rfl compiled
  have right : Presents (taken (unused 1) ⟨0⟩) (.settle ⟨0⟩ (.ok ⟨200, arrowBody⟩) "") arrowArtifacts :=
    .settle rfl compiled
  have fails := ((shown rejecting _ _).2 left rfl).1 _ rfl
  have draws := ((shown alternating _ _).2 right rfl).2 _ rfl
  have arrow : Diagram.edges "digraph\x7bA->B\x7d" = [⟨"A", "B"⟩] := by decide +kernel
  rw [arrow] at draws
  exact ⟨agree, left, fails, right, draws⟩

end Session
end CompileDesk
