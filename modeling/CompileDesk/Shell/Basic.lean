import CompileDesk.Error
import CompileDesk.Files.Path

/-! # Shells

The shells for which a completion script can be written. A shell is named by itself or by the path of
its program.
-/

namespace CompileDesk

inductive Shell where
  | bash
  | zsh
  | fish
  deriving DecidableEq, Repr

namespace Shell

def name : Shell → String
  | bash => "bash"
  | zsh => "zsh"
  | fish => "fish"

def all : List Shell := [bash, zsh, fish]

def ofName (name : String) : Except DeskError Shell :=
  let base := (Path.fileName? name).getD name
  match all.find? (·.name == base) with
  | some shell => .ok shell
  | none => .error (.shellCompletion ("Unsupported shell: '" ++ base ++ "'"))

@[simp] theorem ofName_name (s : Shell) : ofName s.name = .ok s := by cases s <;> rfl

end Shell
end CompileDesk
