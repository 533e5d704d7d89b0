import CompileDesk.Text.Blank

/-! # Themes

There is a light and a dark theme. The name of the chosen one is kept in a store of preferences; a name
that is missing or unknown stands for the light theme.
-/

namespace CompileDesk

inductive Theme where
  | light
  | dark
  deriving DecidableEq, Repr

namespace Theme

def name : Theme → String
  | light => "light"
  | dark => "dark"

/-- The theme of a stored name, blanks around it aside. -/
def ofStored (value : String) : Theme :=
  if Text.trim value.toList = "dark".toList then dark else light

def toggled : Theme → Theme
  | light => dark
  | dark => light

def toggleLabel : Theme → String
  | light => "Dark mode"
  | dark => "Light mode"

@[simp] theorem toggled_toggled (t : Theme) : t.toggled.toggled = t := by cases t <;> rfl

@[simp] theorem ofStored_name (t : Theme) : ofStored t.name = t := by cases t <;> decide

def key : String := "theme"

end Theme
end CompileDesk
