import CompileDesk.Proofs.TableLayout
import Mathlib.Logic.Function.Iterate

/-!
# Columns give way evenly

Each step of narrowing takes one character from a widest column. So a column that gave way is narrower than
no other by more than one character, and narrowing takes as many steps as there are characters too many,
whether for the page or, on a narrow one, for four columns of the least width.
-/

namespace CompileDesk.Table

inductive Column where
  | name
  | kind
  | scope
  | address
  deriving DecidableEq, Repr

namespace Widths

def width (w : Widths) : Column → Nat
  | .name => w.name
  | .kind => w.kind
  | .scope => w.scope
  | .address => w.address

theorem atLeast_iff_width {w : Widths} : w.AtLeast ↔ ∀ c, 4 ≤ w.width c := by
  rw [atLeast_iff]
  constructor
  · rintro ⟨name, kind, scope, address⟩ c
    cases c <;> assumption
  · intro h
    exact ⟨h .name, h .kind, h .scope, h .address⟩

theorem width_le_widest (w : Widths) (c : Column) : w.width c ≤ w.widest := by
  unfold widest
  cases c <;> simp only [width] <;> omega

def less (w : Widths) : Column → Widths
  | .name => { w with name := w.name - 1 }
  | .kind => { w with kind := w.kind - 1 }
  | .scope => { w with scope := w.scope - 1 }
  | .address => { w with address := w.address - 1 }

theorem width_less (w : Widths) (c d : Column) :
    (w.less c).width d = if d = c then w.width d - 1 else w.width d := by
  cases c <;> cases d <;> rfl

variable {w r : Widths} {page : Nat}

theorem total_less {c : Column} (some : 0 < w.width c) : (w.less c).total + 1 = w.total := by
  cases c <;> simp only [width, less, total, sum] at some ⊢ <;> omega

/-! ## A step -/

/-- A step takes one character from a widest column. -/
theorem exists_narrowed_eq (w : Widths) : ∃ c, w.width c = w.widest ∧ w.narrowed = w.less c := by
  unfold narrowed
  split
  · rename_i address
    exact ⟨.address, address, rfl⟩
  · split
    · rename_i scope
      exact ⟨.scope, scope, rfl⟩
    · split
      · rename_i kind
        exact ⟨.kind, kind, rfl⟩
      · have name : w.name = w.widest := by
          unfold widest at *
          omega
        exact ⟨.name, name, rfl⟩

theorem total_narrowed (wide : minWidth < w.widest) : w.narrowed.total + 1 = w.total := by
  obtain ⟨c, widest, eq⟩ := w.exists_narrowed_eq
  rw [eq, total_less (by omega)]

theorem AtLeast.total_of_wide (least : w.AtLeast) (wide : minWidth < w.widest) : 22 < w.total := by
  obtain ⟨name, kind, scope, address⟩ := (atLeast_iff w).mp least
  simp only [minWidth, widest, total, sum, gapsWidth] at wide ⊢
  omega

/-- The widths after some steps: no column has become wider, and one that gave way is narrower than no other
by more than one character. -/
structure Evenly (w r : Widths) : Prop where
  within : ∀ c, r.width c ≤ w.width c
  even : ∀ c d, r.width c < w.width c → r.width d ≤ r.width c + 1

theorem Evenly.refl (w : Widths) : Evenly w w :=
  ⟨fun _ => le_rfl, fun _ _ gaveWay => absurd gaveWay (Nat.lt_irrefl _)⟩

theorem Evenly.narrowed (h : Evenly w r) : Evenly w r.narrowed := by
  obtain ⟨c, widest, eq⟩ := r.exists_narrowed_eq
  have shrinks (d : Column) : (r.less c).width d ≤ r.width d := by
    rw [width_less]
    split <;> omega
  rw [eq]
  constructor
  · intro d
    exact (shrinks d).trans (h.within d)
  · intro e d gaveWay
    have bound := shrinks d
    by_cases same : e = c
    -- the column was a widest one, so that none is wider by more than it lost
    · have noWider := r.width_le_widest d
      rw [width_less r c e, if_pos same, same]
      omega
    · rw [width_less r c e, if_neg same] at gaveWay ⊢
      exact bound.trans (h.even e d gaveWay)

/-! ## The run -/

theorem Evenly.fitted (h : Evenly w r) (page : Nat) : Evenly w (r.fitted page) := by
  fun_induction Widths.fitted r page with
  | case1 r more _ ih => exact ih h.narrowed
  | case2 => exact h

/-- Narrowing takes as many steps as there are characters too many. -/
theorem AtLeast.fitted_eq_iterate (least : w.AtLeast) (page : Nat) :
    w.fitted page = Widths.narrowed^[w.total - max page 22] w := by
  fun_induction Widths.fitted w page with
  | case1 w more _ ih =>
    have step := total_narrowed more.2
    have room := least.total_of_wide more.2
    have steps : w.total - max page 22 = w.narrowed.total - max page 22 + 1 := by omega
    rw [ih (least.narrowed more.2), steps, Function.iterate_succ_apply]
  | case2 w ends =>
    have bounded := least.total_fitted_le page
    rw [Widths.fitted, dif_neg ends] at bounded
    rw [Nat.sub_eq_zero_of_le bounded, Function.iterate_zero_apply]

/-- No step is taken once the columns are within the page. -/
theorem le_total_fitted (wide : page ≤ w.total) : page ≤ (w.fitted page).total := by
  fun_induction Widths.fitted w page with
  | case1 w more _ ih =>
    have step := total_narrowed more.2
    exact ih (by omega)
  | case2 => exact wide

theorem AtLeast.width_of_total_le (least : w.AtLeast) (narrow : w.total ≤ 22) (c : Column) :
    w.width c = 4 := by
  obtain ⟨name, kind, scope, address⟩ := (atLeast_iff w).mp least
  simp only [total, sum, gapsWidth] at narrow
  cases c <;> simp only [width] <;> omega

theorem AtLeast.width_fitted_le (least : w.AtLeast) (page : Nat) (c : Column) :
    (w.fitted page).width c ≤ max page 22 := by
  have bounded := least.total_fitted_le page
  simp only [total, sum] at bounded
  cases c <;> simp only [width] <;> omega

/-- On the page of a terminal every cell can be padded to its column. -/
theorem width_fitted_ofRows_le (rows : List SymbolRow) (terminal : page ≤ padLimit) (c : Column) :
    ((ofRows rows).fitted page).width c ≤ padLimit := by
  have bounded := (ofRows_atLeast rows).width_fitted_le page c
  unfold padLimit at *
  omega

/-- Columns that are too wide are narrowed to the page, or to the least width on a page that is narrower still,
in as many steps as there are characters too many. None gets less than four characters; those that
fit stay as they are, and no column gives way further than to one character less than any other. -/
theorem fitted_evenly (least : w.AtLeast) (page : Nat) :
    w.fitted page = Widths.narrowed^[w.total - max page 22] w ∧
    (∀ c, 4 ≤ (w.fitted page).width c ∧ (w.fitted page).width c ≤ w.width c) ∧
    (w.sum + 6 ≤ page → w.fitted page = w) ∧
    (page < w.sum + 6 → 22 ≤ page → (w.fitted page).sum + 6 = page) ∧
    (page < w.sum + 6 → page < 22 → ∀ c, (w.fitted page).width c = 4) ∧
    ∀ c d, (w.fitted page).width c < w.width c →
      (w.fitted page).width d ≤ (w.fitted page).width c + 1 := by
  have kept := least.fitted page
  have bounded := least.total_fitted_le page
  have evenly := (Evenly.refl w).fitted page
  refine ⟨least.fitted_eq_iterate page, ?_, fitted_of_total_le, ?_, ?_, evenly.even⟩
  · intro c
    exact ⟨atLeast_iff_width.mp kept c, evenly.within c⟩
  · intro wide room
    have reached : page ≤ (w.fitted page).sum + 6 := le_total_fitted (Nat.le_of_lt wide)
    have bounded : (w.fitted page).sum + 6 ≤ max page 22 := bounded
    omega
  · intro _ narrow
    exact kept.width_of_total_le (by omega)

theorem fitted_evenly_thirty : (⟨9, 7, 7, 5⟩ : Widths).AtLeast ∧
    (fitted ⟨9, 7, 7, 5⟩ 30).sum + 6 = 30 ∧
    ∀ c d, (fitted ⟨9, 7, 7, 5⟩ 30).width c < width ⟨9, 7, 7, 5⟩ c →
      (fitted ⟨9, 7, 7, 5⟩ 30).width d ≤ (fitted ⟨9, 7, 7, 5⟩ 30).width c + 1 := by
  have least : (⟨9, 7, 7, 5⟩ : Widths).AtLeast := by
    rw [atLeast_iff]
    decide
  obtain ⟨_, _, _, reaches, _, even⟩ := fitted_evenly least 30
  exact ⟨least, reaches (by decide) (by decide), even⟩

end Widths

end CompileDesk.Table
