import CompileDesk.Proofs.AppRun

/-!
# The scheduled change of screen

The program keeps at most one scheduled change of screen. The result of a call that asks for another
replaces it, also while its time has not come. Hence a scheduled change is made at its time
exactly if the last one asked for meanwhile, if any, leads to the same screen and is due as well. A
second expired session postpones the first.
-/

namespace CompileDesk.App

variable {σ : Type}

/-- A tick makes a scheduled change to the screen, whatever the time of day. -/
def Moves (a : App) (now : Nat) (target : Screen) : Prop :=
  a.isRedirecting = true ∧ ∀ time, a.tick now time = a.navigate target time

theorem moves_iff {a : App} {now : Nat} {target : Screen} :
    Moves a now target ↔ ∃ n, a.navigation = some n ∧ n.target = target ∧ n.due ≤ now := by
  constructor
  · rintro ⟨redirecting, moved⟩
    replace moved := moved ⟨0, 0, 0, 0, 0, 0, 0⟩
    obtain ⟨n, scheduled⟩ := Option.isSome_iff_exists.mp redirecting
    rcases Nat.lt_or_ge now n.due with early | due
    · have cleared := congrArg App.navigation ((tick_of_early scheduled early).symm.trans moved)
      rw [scheduled] at cleared
      cases cleared
    · have reached := congrArg App.screen ((tick_of_due scheduled due).symm.trans moved)
      exact ⟨n, scheduled, reached, due⟩
  · rintro ⟨n, scheduled, rfl, due⟩
    exact ⟨by rw [isRedirecting, scheduled]; rfl, fun _ => tick_of_due scheduled due⟩

theorem SameSettings.delayTo_eq {a b : App} (h : SameSettings a b) (target : Screen) :
    b.delayTo target = a.delayTo target := by
  cases target with
  | login => exact h.redirectDelay
  | workspace => exact congrArg LoginGate.redirectDelay h.gate

theorem due_of_requested? {a : App} {now : Nat} {r : CallResult} {n : Navigation}
    (h : a.requested? now r = some n) : n.due = now + a.delayTo n.target := by
  rw [eq_of_requested? h]

/-- The changes of screen that a run asks for, in order. -/
def requests (w : Surroundings σ) : List (Input σ) → App × σ → List Navigation
  | [], _ => []
  | i :: rest, x => (i.requested? x.1).toList ++ requests w rest (i.apply w x)

/-- Whatever a run asks for is due after the delay of its target, counted from an input of the
run. -/
theorem due_of_mem_requests {w : Surroundings σ} {inputs : List (Input σ)} {x : App × σ}
    {m : Navigation} (h : m ∈ requests w inputs x) :
    ∃ now ∈ inputs.filterMap Input.time?, m.due = now + x.1.delayTo m.target := by
  induction inputs generalizing x with
  | nil => cases h
  | cons i rest ih =>
    rw [requests, List.mem_append, Option.mem_toList] at h
    obtain asked | later := h
    · cases i with
      | result r now => exact ⟨now, by simp [Input.time?], due_of_requested? asked⟩
      | _ => cases asked
    · obtain ⟨now, there, due⟩ := ih later
      refine ⟨now, ?_, ?_⟩
      · rw [List.mem_filterMap] at there ⊢
        obtain ⟨j, hj, time⟩ := there
        exact ⟨j, List.mem_cons_of_mem i hj, time⟩
      · rw [due, (i.apply_sameSettings w x).delayTo_eq]

/-- The latest change asked for is scheduled, or it was due before the bound and is made. -/
def Latest (x : App × σ) (bound : Nat) (n : Navigation) : Prop :=
  x.1.navigation = some n ∨ x.1.navigation = none ∧ n.due < bound

/-- An input that asks for nothing keeps the latest change the latest. -/
theorem Latest.apply {w : Surroundings σ} {x : App × σ} {bound : Nat} {n : Navigation}
    {i : Input σ} (h : Latest x bound n) (before : ∀ now, i = .tick now → now < bound)
    (silent : i.requested? x.1 = none) : Latest (i.apply w x) bound n := by
  by_cases ticks : ∃ now, i = .tick now
  · obtain ⟨now, rfl⟩ := ticks
    obtain scheduled | ⟨free, past⟩ := h
    · rcases Nat.lt_or_ge now n.due with early | due
      · left
        rw [Input.apply, tick_of_early scheduled early]
        exact scheduled
      · right
        rw [Input.apply, tick_of_due scheduled due]
        exact ⟨rfl, Nat.lt_of_le_of_lt due (before now rfl)⟩
    · right
      rw [Input.apply, tick_of_none free]
      exact ⟨free, past⟩
  · have kept : (i.apply w x).1.navigation = x.1.navigation := by
      rw [i.apply_navigation w x fun now hi => ticks ⟨now, hi⟩, silent, Option.none_or]
    rw [Latest, kept]
    exact h

/-- After a run whose ticks come before the bound, the last change it asked for is the latest. -/
theorem Latest.after {w : Surroundings σ} {inputs : List (Input σ)} {x : App × σ} {bound : Nat}
    {n : Navigation} (h : Latest x bound n) (before : ∀ now, .tick now ∈ inputs → now < bound) :
    Latest (after w inputs x) bound ((requests w inputs x).getLast?.getD n) := by
  -- `n` is general, since an input that asks for a change puts its own in place of it
  induction inputs generalizing x n with
  | nil => exact h
  | cons i rest ih =>
    have rest_before : ∀ now, .tick now ∈ rest → now < bound := by
      intro now there
      exact before now (List.mem_cons_of_mem i there)
    rw [after_cons, requests]
    cases asked : i.requested? x.1 with
    | none =>
      refine ih (h.apply ?_ asked) rest_before
      rintro now rfl
      exact before now List.mem_cons_self
    | some m =>
      have scheduled : (i.apply w x).1.navigation = some m := by
        cases i with
        | result r now =>
          rw [Input.apply_navigation w _ x (fun _ h => by cases h), asked, Option.some_or]
        | _ => cases asked
      rw [Option.toList_some, List.singleton_append, List.getLast?_cons, Option.getD_some]
      exact ih (.inl scheduled) rest_before

/-- When a change of screen is asked for, the first tick from its time on makes it exactly if the last
change asked for in between, if any, leads to the same screen and is due by then. -/
theorem moves_iff_last_request {w : Surroundings σ} {x : App × σ} {r : CallResult} {t now : Nat}
    {n : Navigation} {between : List (Input σ)} (asked : x.1.requested? t r = some n)
    (later : ∀ t' ∈ between.filterMap Input.time?, t ≤ t')
    (first : ∀ t', .tick t' ∈ between → t' < n.due) (due : n.due ≤ now) :
    Moves (after w (.result r t :: between) x).1 now n.target ↔
      ∀ m ∈ (requests w between (x.1.receive w r t x.2)).getLast?,
        m.target = n.target ∧ m.due ≤ now := by
  have scheduled : (x.1.receive w r t x.2).1.navigation = some n := by
    rw [(receive_received w r t x.1 x.2).navigation, asked, Option.some_or]
  have latest := Latest.after (w := w) (.inl scheduled) first
  rw [moves_iff, after_cons]
  change (∃ k, (after w between (x.1.receive w r t x.2)).1.navigation = some k ∧ _) ↔ _
  cases last : (requests w between (x.1.receive w r t x.2)).getLast? with
  | none =>
    rw [last, Option.getD_none] at latest
    obtain kept | ⟨_, past⟩ := latest
    · exact ⟨fun _ m hm => (by cases hm), fun _ => ⟨n, kept, rfl, due⟩⟩
    · exact absurd past (Nat.lt_irrefl _)
  | some m =>
    rw [last, Option.getD_some] at latest
    constructor
    · rintro ⟨k, there, target, reached⟩ m' hm'
      cases hm'
      obtain replaced | ⟨free, _⟩ := latest
      · cases replaced.symm.trans there
        exact ⟨target, reached⟩
      · cases free.symm.trans there
    · intro h
      obtain ⟨target, reached⟩ := h m rfl
      obtain replaced | ⟨_, past⟩ := latest
      · exact ⟨m, replaced, target, reached⟩
      · -- a change to the same screen that was asked for later is not due earlier
        obtain ⟨t', there, hdue⟩ := due_of_mem_requests (List.mem_of_getLast? last)
        have hn := due_of_requested? asked
        have same := (receive_received w r t x.1 x.2).sameSettings.delayTo_eq n.target
        have after := later t' there
        rw [target, same] at hdue
        omega

/-- With a login that failed meanwhile, an expired session leads to the login screen on time. -/
theorem expiry_moves_past_failed_login :
    let w := Surroundings.constant "int x;"
    let expired : Outcome := .ok ⟨401, ""⟩
    let x := after w [.act ⟨0⟩ .compile]
      (start w { redirectDelay := 2000 } ⟨1000⟩ "http://localhost" .workspace [], [])
    Moves (after w [.result (.compiled ⟨0⟩ expired) 0, .tick 1999,
      .result (.loggedIn (.ok ⟨500, ""⟩)) 1999] x).1 2000 .login := by
  intro w expired x
  have asked : x.1.requested? 0 (.compiled ⟨0⟩ expired) = some ⟨.login, 2000⟩ := rfl
  exact (moves_iff_last_request asked (by decide) (by simp) (Nat.le_refl 2000)).mpr nofun

/-- A second expiry, one second after the first, keeps the program in the workspace at the time of the
first. -/
theorem second_expiry_postpones_first :
    let w := Surroundings.constant "int x;"
    let expired : Outcome := .ok ⟨401, ""⟩
    let x := after w [.act ⟨0⟩ .compile]
      (start w { redirectDelay := 2000 } ⟨1000⟩ "http://localhost" .workspace [], [])
    let y := after w [.result (.compiled ⟨0⟩ expired) 0, .act ⟨1⟩ .compile,
      .result (.compiled ⟨1⟩ expired) 1000] x
    x.1.requested? 0 (.compiled ⟨0⟩ expired) = some ⟨.login, 2000⟩ ∧
      ¬ Moves y.1 2000 .login ∧ ∀ time, (y.1.tick 2000 time).screen = .workspace := by
  intro w expired x y
  have scheduled : y.1.navigation = some ⟨.login, 3000⟩ := rfl
  refine ⟨rfl, ?_, ?_⟩
  · rw [moves_iff, scheduled]
    rintro ⟨n, hn, _, due⟩
    cases hn
    exact absurd due (by decide)
  · intro time
    rw [tick_of_early scheduled (by decide)]
    rfl

end CompileDesk.App
