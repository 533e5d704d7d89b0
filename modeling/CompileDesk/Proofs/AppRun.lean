import CompileDesk.Proofs.AppChanges

/-!
# Runs of the program

A run is a list of inputs in any order: actions, results of calls, reports of the editor, ticks, and
the queue being emptied. The files and preferences may change on the way. The inputs need not fit
together, so that a result may come for a request that was never made or come twice.
-/

namespace CompileDesk.App

variable {σ : Type}

/-- One thing that is done to the program or to its surroundings. -/
inductive Input (σ : Type) where
  | act (id : RequestId) (action : Action)
  | result (r : CallResult) (now : Nat)
  | edited (report : Except DeskError Unit)
  | tick (now : Nat)
  | drained
  | outside (s : σ)

namespace Input

/-- The time that an input brings with it. -/
def time? : Input σ → Option Nat
  | result _ now => some now
  | tick now => some now
  | _ => none

def apply (w : Surroundings σ) : Input σ → App × σ → App × σ
  | act id action, (a, s) => a.dispatch w id action s
  | result r now, (a, s) => a.receive w r now s
  | edited report, (a, s) => (a.sourceEdited w report s, s)
  | tick now, (a, s) => (a.tick now (w.clock s), s)
  | drained, (a, s) => (a.takeEffects.2, s)
  | outside s, (a, _) => (a, s)

def requested? : Input σ → App → Option Navigation
  | result r now, a => a.requested? now r
  | _, _ => none

end Input

def after (w : Surroundings σ) (inputs : List (Input σ)) (x : App × σ) : App × σ :=
  inputs.foldl (fun x i => i.apply w x) x

section After

variable (w : Surroundings σ) (x : App × σ)

theorem after_cons (i : Input σ) (rest : List (Input σ)) :
    after w (i :: rest) x = after w rest (i.apply w x) := rfl

theorem after_append (first second : List (Input σ)) :
    after w (first ++ second) x = after w second (after w first x) := List.foldl_append

/-- What holds at the start and is kept by every input of the run holds after it. -/
theorem after_invariant {P : App × σ → Prop} (inputs : List (Input σ))
    (keep : ∀ i ∈ inputs, ∀ y, P y → P (i.apply w y)) (start : P x) : P (after w inputs x) := by
  induction inputs generalizing x with
  | nil => exact start
  | cons i rest ih =>
    apply ih
    · intro j hj
      exact keep j (List.mem_cons_of_mem i hj)
    · exact keep i List.mem_cons_self x start

end After

/-- Two states of the program with the same delays and the same address of the service. -/
structure SameSettings (a b : App) : Prop where
  redirectDelay : b.session.redirectDelay = a.session.redirectDelay
  gate : b.gate = a.gate
  endpoint : b.endpoint = a.endpoint

namespace SameSettings

theorem refl (a : App) : SameSettings a a := ⟨rfl, rfl, rfl⟩

theorem trans {a b c : App} (left : SameSettings a b) (right : SameSettings b c) :
    SameSettings a c :=
  ⟨right.redirectDelay.trans left.redirectDelay, right.gate.trans left.gate,
    right.endpoint.trans left.endpoint⟩

end SameSettings

theorem Acted.sameSettings {w : Surroundings σ} {id : RequestId} {a b : App} {s : σ}
    (h : Acted w id a s b) : SameSettings a b := by
  cases h <;> exact ⟨rfl, rfl, rfl⟩

theorem Acted.navigation {w : Surroundings σ} {id : RequestId} {a b : App} {s : σ}
    (h : Acted w id a s b) : b.navigation = a.navigation := by
  cases h <;> rfl

theorem Received.sameSettings {a b : App} {now : Nat} {r : CallResult}
    (h : Received a now r b) : SameSettings a b := by
  cases h <;> exact ⟨rfl, rfl, rfl⟩

theorem tick_sameSettings (now : Nat) (a : App) (time : LocalTime) :
    SameSettings a (a.tick now time) := by
  obtain same | ⟨n, _, _, moved⟩ := a.tick_cases now time
  · rw [same]
    exact .refl a
  · rw [moved]
    exact ⟨rfl, rfl, rfl⟩

theorem Input.apply_sameSettings (w : Surroundings σ) (i : Input σ) (x : App × σ) :
    SameSettings x.1 (i.apply w x).1 := by
  obtain ⟨a, s⟩ := x
  cases i with
  | act id action => exact (dispatch_acted w id action a s).sameSettings
  | result r now => exact (receive_received w r now a s).sameSettings
  | edited report =>
    obtain ⟨source, status, h⟩ := sourceEdited_eq w report a s
    rw [apply, h]
    exact ⟨rfl, rfl, rfl⟩
  | tick now => exact tick_sameSettings now a (w.clock s)
  | drained => exact ⟨rfl, rfl, rfl⟩
  | outside t => exact .refl a

theorem after_sameSettings (w : Surroundings σ) (inputs : List (Input σ)) (x : App × σ) :
    SameSettings x.1 (after w inputs x).1 :=
  after_invariant (P := fun y => SameSettings x.1 y.1) w x inputs
    (fun i _ y h => h.trans (i.apply_sameSettings w y)) (.refl x.1)

/-- Only results and ticks touch the scheduled change of screen. -/
theorem Input.apply_navigation (w : Surroundings σ) (i : Input σ) (x : App × σ)
    (still : ∀ now, i ≠ .tick now) :
    (i.apply w x).1.navigation = (i.requested? x.1).or x.1.navigation := by
  obtain ⟨a, s⟩ := x
  cases i with
  | act id action => exact (dispatch_acted w id action a s).navigation
  | result r now => exact (receive_received w r now a s).navigation
  | edited report =>
    obtain ⟨source, status, h⟩ := sourceEdited_eq w report a s
    rw [apply, h]
    rfl
  | tick now => exact absurd rfl (still now)
  | drained => rfl
  | outside t => rfl

end CompileDesk.App
