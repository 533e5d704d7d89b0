import CompileDesk.Panes.Table
import Mathlib.Data.List.Forall2
import Mathlib.Data.List.TakeWhile
import Mathlib.Order.MinMax

/-!
# The layout of the symbol table

Columns are narrowed one character at a time, and none to less than four characters. So a table is no wider
than the page, or 22 characters on a narrower page; and each cell is brought to the width of its column,
as three dots always have room. Before they are narrowed, the columns have the least widths that hold the
titles and all cells; so if any columns hold them on the page, these do, and nothing is cut.
-/

namespace CompileDesk.Table

namespace Widths

/-! ## The least widths -/

/-- No column is wider than the one of the other widths. -/
structure Within (w w' : Widths) : Prop where
  name : w.name ≤ w'.name
  kind : w.kind ≤ w'.kind
  scope : w.scope ≤ w'.scope
  address : w.address ≤ w'.address

theorem Within.refl (w : Widths) : w.Within w := ⟨le_rfl, le_rfl, le_rfl, le_rfl⟩

/-- The cells have room in their columns. -/
def Hold (w : Widths) (cells : List String) : Prop :=
  List.Forall₂ (fun cell width => Text.width cell ≤ width) cells w.toList

/-- The titles and the cells of all entries have room in their columns. -/
structure HoldAll (w : Widths) (rows : List SymbolRow) : Prop where
  titles : w.Hold SymbolRow.columns
  entries : ∀ row ∈ rows, row ≠ .placeholder → w.Hold row.cells

theorem including_within_iff (w w' : Widths) (row : SymbolRow) :
    (w.including row).Within w' ↔ w.Within w' ∧ (row ≠ .placeholder → w'.Hold row.cells) := by
  cases row with
  | placeholder => simp [including]
  | entry name kind scope address =>
    constructor
    · intro h
      obtain ⟨h₁, h₂, h₃, h₄⟩ := h
      simp only [including, max_le_iff] at h₁ h₂ h₃ h₄
      refine ⟨⟨h₁.1, h₂.1, h₃.1, h₄.1⟩, fun _ => ?_⟩
      exact .cons h₁.2 (.cons h₂.2 (.cons h₃.2 (.cons h₄.2 .nil)))
    · rintro ⟨⟨h₁, h₂, h₃, h₄⟩, held⟩
      obtain _ | ⟨n₁, _ | ⟨n₂, _ | ⟨n₃, _ | ⟨n₄, _⟩⟩⟩⟩ := held nofun
      exact ⟨max_le h₁ n₁, max_le h₂ n₂, max_le h₃ n₃, max_le h₄ n₄⟩

theorem foldl_including_within_iff (w w' : Widths) (rows : List SymbolRow) :
    (rows.foldl including w).Within w' ↔
      w.Within w' ∧ ∀ row ∈ rows, row ≠ .placeholder → w'.Hold row.cells := by
  induction rows generalizing w with
  | nil => simp
  | cons row rows ih =>
    rw [List.foldl_cons, ih, including_within_iff, List.forall_mem_cons, and_assoc]

theorem ofTitles_within_iff (w : Widths) : ofTitles.Within w ↔ w.Hold SymbolRow.columns := by
  constructor
  · rintro ⟨h₁, h₂, h₃, h₄⟩
    exact .cons h₁ (.cons h₂ (.cons h₃ (.cons h₄ .nil)))
  · intro held
    obtain _ | ⟨n₁, _ | ⟨n₂, _ | ⟨n₃, _ | ⟨n₄, _⟩⟩⟩⟩ := held
    exact ⟨n₁, n₂, n₃, n₄⟩

/-- The widths of a table are the least that hold all its cells. -/
theorem ofRows_within_iff (rows : List SymbolRow) (w : Widths) :
    (ofRows rows).Within w ↔ w.HoldAll rows := by
  rw [ofRows, foldl_including_within_iff, ofTitles_within_iff]
  exact ⟨fun h => ⟨h.1, h.2⟩, fun h => ⟨h.titles, h.entries⟩⟩

theorem ofRows_holdAll (rows : List SymbolRow) : (ofRows rows).HoldAll rows :=
  (ofRows_within_iff rows _).mp (.refl _)

/-! ## Narrowing -/

/-- No column has less than the least width. -/
def AtLeast (w : Widths) : Prop := ∀ n ∈ w.toList, minWidth ≤ n

theorem atLeast_iff (w : Widths) :
    w.AtLeast ↔ 4 ≤ w.name ∧ 4 ≤ w.kind ∧ 4 ≤ w.scope ∧ 4 ≤ w.address := by
  simp [AtLeast, toList, minWidth]

theorem Within.atLeast {w w' : Widths} (h : w.Within w') (least : w.AtLeast) : w'.AtLeast := by
  rw [atLeast_iff] at least ⊢
  obtain ⟨l₁, l₂, l₃, l₄⟩ := least
  exact ⟨l₁.trans h.name, l₂.trans h.kind, l₃.trans h.scope, l₄.trans h.address⟩

theorem ofRows_atLeast (rows : List SymbolRow) : (ofRows rows).AtLeast := by
  have titles : ofTitles.Within (ofRows rows) := (ofTitles_within_iff _).mpr (ofRows_holdAll rows).titles
  exact titles.atLeast ((atLeast_iff _).mpr (by decide))

theorem AtLeast.narrowed {w : Widths} (least : w.AtLeast) (wide : minWidth < w.widest) :
    w.narrowed.AtLeast := by
  rw [atLeast_iff] at least ⊢
  unfold minWidth at wide
  unfold Widths.narrowed
  split
  · dsimp only
    omega
  · split
    · dsimp only
      omega
    · split
      · dsimp only
        omega
      · -- No other column is the widest, so it is the first one that gives way.
        have name : w.widest = w.name := by
          unfold widest at *
          omega
        dsimp only
        omega

theorem AtLeast.fitted {w : Widths} (least : w.AtLeast) (page : Nat) : (w.fitted page).AtLeast := by
  fun_induction Widths.fitted w page with
  | case1 w h _ ih => exact ih (least.narrowed h.2)
  | case2 => exact least

/-- Narrowing ends when the table fits or when all columns have the least width. -/
theorem AtLeast.total_fitted_le {w : Widths} (least : w.AtLeast) (page : Nat) :
    (w.fitted page).total ≤ max page 22 := by
  fun_induction Widths.fitted w page with
  | case1 w h _ ih => exact ih (least.narrowed h.2)
  | case2 w h =>
    rw [atLeast_iff] at least
    simp only [total, sum, widest, gapsWidth, minWidth] at h ⊢
    omega

theorem fitted_of_total_le {w : Widths} {page : Nat} (fits : w.total ≤ page) : w.fitted page = w := by
  rw [fitted, dif_neg (by omega)]

end Widths

/-! ## Lines -/

/-- A text with the blanks at its end taken away. -/
structure Trimmed (text line : List Char) : Prop where
  rest : ∃ blanks, text = line ++ blanks ∧ ∀ c ∈ blanks, Text.isBlank c = true
  ends : ∀ c ∈ line.getLast?, Text.isBlank c = false

theorem Trimmed.length_le {text line : List Char} (h : Trimmed text line) : line.length ≤ text.length := by
  obtain ⟨blanks, rfl, -⟩ := h.rest
  rw [List.length_append]
  omega

/-- The longest column is narrowed first, and the last of equally wide ones. -/
example : lines [.entry "a_long_identifier" "int" "main" "0x04", .placeholder] 24 =
    ["Name   Type  Scope  A...", "────────────────────────", "a_...  int   main   0x04",
      "No symbols were produced"] := by
  cbv

end CompileDesk.Table
