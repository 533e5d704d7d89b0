import CompileDesk.Proofs.AppRun
import Mathlib.Logic.Function.Iterate

/-!
# The copies of the theme

The chosen theme is kept three times: in the program, in its editor, and as a text among the preferences. A
change of theme sets the text first, which can fail, and the other two only after that. So the three agree
in every run, whichever changes fail, and only the changes that were stored count.
-/

namespace CompileDesk

variable {σ : Type}

/-- Setting a preference either succeeds, and then its text is there, or fails and leaves what was there. -/
structure Preferences.Keeps (p : Preferences σ) (key : String) : Prop where
  get?_of_set {s s' : σ} {text : String} (succeeded : p.set s key text = (.ok (), s')) :
    p.get? s' key = some text
  get?_of_refused {s s' : σ} {text : String} {e : DeskError}
    (refused : p.set s key text = (.error e, s')) : p.get? s' key = p.get? s key

/-- A change of theme is either stored and made, or neither. -/
theorem Theme.toggle_cases {p : Preferences σ} (keeps : p.Keeps key) (current : Theme) (s : σ) :
    (∃ s', toggle p current s = (.ok current.toggled, current.toggled, s') ∧
      load p s' = current.toggled) ∨
    ∃ e s', toggle p current s = (.error e, current, s') ∧ load p s' = load p s := by
  cases answer : p.set s key current.toggled.name with
  | mk result s' =>
    cases result with
    | ok _ =>
      have stored := keeps.get?_of_set answer
      refine .inl ⟨s', by simp only [toggle, answer], ?_⟩
      simp only [load, stored, ofStored_name]
    | error e =>
      have kept := keeps.get?_of_refused answer
      exact .inr ⟨e, s', by simp only [toggle, answer], by simp only [load, kept]⟩

namespace App

/-- The editor has the theme of the program, and so has the store. -/
structure ThemesAgree (w : Surroundings σ) (x : App × σ) : Prop where
  editor : x.1.editorTheme = x.1.theme
  stored : Theme.load w.preferences x.2 = x.1.theme

/-- Two states of the program with the same themes. -/
structure SameThemes (a b : App) : Prop where
  theme : b.theme = a.theme
  editorTheme : b.editorTheme = a.editorTheme

theorem ThemesAgree.of_same {w : Surroundings σ} {x y : App × σ} (h : ThemesAgree w x)
    (same : SameThemes x.1 y.1)
    (kept : Theme.load w.preferences y.2 = Theme.load w.preferences x.2) : ThemesAgree w y := by
  constructor
  · rw [same.editorTheme, same.theme, h.editor]
  · rw [kept, same.theme, h.stored]

/-! ## One input -/

/-- Only a change of theme touches the themes or the surroundings. -/
theorem dispatch_of_ne_toggleTheme {action : Action} (other : action ≠ .toggleTheme)
    (w : Surroundings σ) (id : RequestId) (a : App) (s : σ) :
    SameThemes a (a.dispatch w id action s).1 ∧ (a.dispatch w id action s).2 = s := by
  cases action with
  | toggleTheme => exact absurd rfl other
  | submitLogin =>
    obtain ⟨login, effects, submitted⟩ := a.submitLogin_eq (w.clock s)
    rw [dispatch, submitted]
    exact ⟨⟨rfl, rfl⟩, rfl⟩
  | compile =>
    obtain ⟨source, session, panes, effects, compiled⟩ := compile_eq a id (w.readSource s) (w.clock s)
    rw [dispatch, compiled]
    exact ⟨⟨rfl, rfl⟩, rfl⟩
  | _ => exact ⟨⟨rfl, rfl⟩, rfl⟩

theorem Received.sameThemes {a b : App} {now : Nat} {r : CallResult} (h : Received a now r b) :
    SameThemes a b := by
  cases h <;> exact ⟨rfl, rfl⟩

/-- Taking over a result does no more to the surroundings than rendering a diagram. -/
theorem receive_surroundings (w : Surroundings σ) (r : CallResult) (now : Nat) (a : App) (s : σ) :
    (a.receive w r now s).2 = s ∨ ∃ source, (a.receive w r now s).2 = (w.render source s).2 := by
  cases r with
  | loggedIn outcome => exact .inl rfl
  | compiled id outcome =>
    by_cases inFlight : a.session.inFlight = some id
    · rw [receive_compiled_of_eq w id outcome now s inFlight]
      exact Session.judge_surroundings w.toPresenter a.endpoint a.session.redirectDelay outcome a.panes s
    · rw [receive_compiled_of_ne w id outcome now s inFlight]
      exact .inl rfl

theorem tick_sameThemes (now : Nat) (a : App) (time : LocalTime) : SameThemes a (a.tick now time) := by
  obtain same | ⟨n, -, -, moved⟩ := a.tick_cases now time
  · rw [same]
    exact ⟨rfl, rfl⟩
  · rw [moved]
    exact ⟨rfl, rfl⟩

namespace Input

/-- Whether an input is a change of theme that is stored. -/
def storesTheme (w : Surroundings σ) : Input σ → App × σ → Bool
  | act _ .toggleTheme, (a, s) => (Theme.toggle w.preferences a.theme s).1.isOk
  | _, _ => false

theorem storesTheme_act_of_ne {action : Action} (w : Surroundings σ) (id : RequestId)
    (other : action ≠ .toggleTheme) (x : App × σ) : (act id action).storesTheme w x = false := by
  cases action with
  | toggleTheme => exact absurd rfl other
  | _ => rfl

/-- An input from outside the program leaves the theme that is stored. -/
def SparesTheme (w : Surroundings σ) : Input σ → App × σ → Prop
  | outside s', (_, s) => Theme.load w.preferences s' = Theme.load w.preferences s
  | _, _ => True

end Input

/-! ## Runs -/

/-- The number of changes of theme that are stored in a run. -/
def storedChanges (w : Surroundings σ) : List (Input σ) → App × σ → Nat
  | [], _ => 0
  | i :: rest, x => storedChanges w rest (i.apply w x) + if i.storesTheme w x then 1 else 0

/-- Nobody else changes the theme that is stored during a run. -/
def Undisturbed (w : Surroundings σ) : List (Input σ) → App × σ → Prop
  | [], _ => True
  | i :: rest, x => i.SparesTheme w x ∧ Undisturbed w rest (i.apply w x)

section Keeping

variable {w : Surroundings σ} {x : App × σ} (keeps : w.preferences.Keeps Theme.key)
  (apart : ∀ source s, Theme.load w.preferences (w.render source s).2 = Theme.load w.preferences s)

include keeps

theorem ThemesAgree.toggleTheme {a : App} {s : σ} (h : ThemesAgree w (a, s)) :
    ThemesAgree w (a.toggleTheme w s) ∧ (a.toggleTheme w s).1.theme =
      if (Theme.toggle w.preferences a.theme s).1.isOk then a.theme.toggled else a.theme := by
  obtain ⟨s', toggled, stored⟩ | ⟨e, s', refused, kept⟩ := Theme.toggle_cases keeps a.theme s
  · simp only [App.toggleTheme, toggled]
    exact ⟨⟨rfl, stored⟩, rfl⟩
  · simp only [App.toggleTheme, refused]
    exact ⟨⟨h.editor, kept.trans h.stored⟩, rfl⟩

include apart

/-- What one input does to the themes when they agree. -/
theorem ThemesAgree.apply (h : ThemesAgree w x) (i : Input σ) (spares : i.SparesTheme w x) :
    ThemesAgree w (i.apply w x) ∧
      (i.apply w x).1.theme = if i.storesTheme w x then x.1.theme.toggled else x.1.theme := by
  obtain ⟨a, s⟩ := x
  cases i with
  | act id action =>
    by_cases toggles : action = .toggleTheme
    · subst toggles
      exact h.toggleTheme keeps
    · obtain ⟨same, still⟩ := dispatch_of_ne_toggleTheme toggles w id a s
      rw [Input.storesTheme_act_of_ne w id toggles]
      exact ⟨h.of_same same (by rw [Input.apply, still]), same.theme⟩
  | result r now =>
    have same : SameThemes a (a.receive w r now s).1 := (receive_received w r now a s).sameThemes
    refine ⟨h.of_same same ?_, same.theme⟩
    obtain still | ⟨source, rendered⟩ := receive_surroundings w r now a s
    · rw [Input.apply, still]
    · rw [Input.apply, rendered]
      exact apart source s
  | edited report =>
    obtain ⟨source, status, edited⟩ := sourceEdited_eq w report a s
    have same : SameThemes a (a.sourceEdited w report s) := by
      rw [edited]
      exact ⟨rfl, rfl⟩
    exact ⟨h.of_same same rfl, same.theme⟩
  | tick now =>
    have same := tick_sameThemes now a (w.clock s)
    exact ⟨h.of_same same rfl, same.theme⟩
  | drained => exact ⟨⟨h.editor, h.stored⟩, rfl⟩
  | outside s' => exact ⟨⟨h.editor, spares.trans h.stored⟩, rfl⟩

/-- After a run the themes still agree, and each change that was stored has counted once. -/
theorem ThemesAgree.after (h : ThemesAgree w x) (inputs : List (Input σ))
    (undisturbed : Undisturbed w inputs x) :
    ThemesAgree w (after w inputs x) ∧
      (App.after w inputs x).1.theme = Theme.toggled^[storedChanges w inputs x] x.1.theme := by
  induction inputs generalizing x with
  | nil => exact ⟨h, rfl⟩
  | cons i rest ih =>
    obtain ⟨agree, step⟩ := h.apply keeps apart i undisturbed.1
    obtain ⟨agrees, flips⟩ := ih agree undisturbed.2
    refine ⟨agrees, ?_⟩
    rw [after_cons, flips, step, storedChanges, Function.iterate_add_apply]
    split <;> rfl

end Keeping

theorem themesAgree_start (w : Surroundings σ) (session : Session) (gate : LoginGate)
    (endpoint : String) (screen : Screen) (s : σ) :
    ThemesAgree w (start w session gate endpoint screen s, s) ∧
      (start w session gate endpoint screen s).theme = Theme.load w.preferences s := by
  obtain ⟨source, status, started⟩ := start_eq w session gate endpoint screen s
  rw [started]
  exact ⟨⟨rfl, rfl⟩, rfl⟩

/-- After every run of a program from its start, in which changes of theme may fail at will, the editor has
the theme of the program. It is the theme that was stored at the start, changed once for each change that
was stored, and a program started on what is stored now would have it as well. Rendering a diagram must
not touch the stored theme, and neither may anything else outside. -/
theorem copies_of_theme_agree {w : Surroundings σ} (keeps : w.preferences.Keeps Theme.key)
    (apart : ∀ source s, Theme.load w.preferences (w.render source s).2 = Theme.load w.preferences s)
    (session : Session) (gate : LoginGate) (endpoint : String) (screen : Screen) (s : σ)
    (inputs : List (Input σ))
    (undisturbed : Undisturbed w inputs (start w session gate endpoint screen s, s)) :
    let begun := (start w session gate endpoint screen s, s)
    let x := after w inputs begun
    x.1.editorTheme = x.1.theme ∧
      x.1.theme = Theme.toggled^[storedChanges w inputs begun] (Theme.load w.preferences s) ∧
      Theme.load w.preferences x.2 = x.1.theme := by
  obtain ⟨agree, loaded⟩ := themesAgree_start w session gate endpoint screen s
  obtain ⟨agrees, flips⟩ := agree.after keeps apart inputs undisturbed
  rw [loaded] at flips
  exact ⟨agrees.editor, flips, agrees.stored⟩

/-! ## A store that fails at times -/

/-- Preferences in memory, beside a list that tells which of the next changes can be stored; those after the
end of the list can. -/
def fickleStore : Preferences (List Bool × List (String × String)) where
  get? s key := Preferences.inMemory.get? s.2 key
  set s key text :=
    match s.1 with
    | false :: rest => (.error (.preferences "no space left"), (rest, s.2))
    | _ => (.ok (), (s.1.tail, (Preferences.inMemory.set s.2 key text).2))

theorem keeps_fickleStore (key : String) : fickleStore.Keeps key where
  get?_of_set {s s' text} succeeded := by
    obtain ⟨_ | ⟨_ | _, rest⟩, entries⟩ := s
    all_goals cases succeeded
    all_goals simp [fickleStore, Preferences.inMemory]
  get?_of_refused {s s' text e} refused := by
    obtain ⟨_ | ⟨_ | _, rest⟩, entries⟩ := s
    all_goals cases refused
    rfl

def fickleSurroundings : Surroundings (List Bool × List (String × String)) where
  readSource _ := .ok "int x;"
  editSource s := (.ok (), s)
  preferences := fickleStore
  render := .ofFunction fun _ => .error (.unavailable "dot")
  clock _ := ⟨2000, 1, 2, 3, 4, 5, 678⟩

/-- The theme under a padded name, which cannot be changed at once. -/
def paddedDark : List Bool × List (String × String) := ([false], [("theme", " dark\n")])

/-- Of five changes of theme the first and the fourth fail. Between them a diagram is shown, and someone puts
an unknown name into the store where the name of the light theme was. -/
def fickleInputs : List (Input (List Bool × List (String × String))) := [
  .act ⟨0⟩ .toggleTheme, .act ⟨1⟩ .compile, .act ⟨2⟩ .toggleTheme,
  .outside ([true, false], [("theme", "solarized")]),
  .result (.compiled ⟨1⟩ (.ok ⟨200, "\x7b\"dotCode\":\"digraph\"\x7d"⟩)) 5, .act ⟨3⟩ .toggleTheme,
  .act ⟨4⟩ .toggleTheme, .drained, .act ⟨5⟩ .toggleTheme, .tick 6]

def fickleStart : App :=
  start fickleSurroundings { redirectDelay := 2000 } ⟨1000⟩ "http://localhost" .workspace paddedDark

theorem fickleStart_eq : fickleStart = start fickleSurroundings { redirectDelay := 2000 } ⟨1000⟩
    "http://localhost" .workspace paddedDark := rfl

/-- The padded name counts as dark, and three changes are stored. -/
theorem copies_of_theme_agree_fickle :
    let x := after fickleSurroundings fickleInputs (fickleStart, paddedDark)
    fickleSurroundings.preferences.Keeps Theme.key ∧
      (∀ source s, Theme.load fickleSurroundings.preferences (fickleSurroundings.render source s).2 =
        Theme.load fickleSurroundings.preferences s) ∧
      Undisturbed fickleSurroundings fickleInputs (fickleStart, paddedDark) ∧
      x.1.editorTheme = .light ∧ x.1.theme = .light ∧
      Theme.load fickleSurroundings.preferences x.2 = .light := by
  have keeps : fickleSurroundings.preferences.Keeps Theme.key := keeps_fickleStore Theme.key
  have undisturbed : Undisturbed fickleSurroundings fickleInputs (fickleStart, paddedDark) := by
    simp only [fickleInputs, Undisturbed, Input.SparesTheme, true_and, and_true]
    decide +kernel
  have agree := copies_of_theme_agree keeps (fun _ _ => rfl) { redirectDelay := 2000 } ⟨1000⟩
    "http://localhost" .workspace paddedDark fickleInputs undisturbed
  rw [← fickleStart_eq] at agree
  obtain ⟨editor, flips, stored⟩ := agree
  have dark : Theme.load fickleSurroundings.preferences paddedDark = .dark := by decide +kernel
  have three : storedChanges fickleSurroundings fickleInputs (fickleStart, paddedDark) = 3 := by
    decide +kernel
  rw [dark, three] at flips
  exact ⟨keeps, fun _ _ => rfl, undisturbed, editor.trans flips, flips, stored.trans flips⟩

end App
end CompileDesk
