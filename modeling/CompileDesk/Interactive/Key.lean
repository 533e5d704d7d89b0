import CompileDesk.Interactive.Form

/-! # Keys

What a key does depends on the screen and, on the login screen, on the focus. With the control key
held, the only keys are `c` to quit and `r` to compile in the workspace.
-/

namespace CompileDesk

inductive Key where
  | char (c : Char)
  | enter
  | escape
  | tab
  | backTab
  | up
  | down
  | left
  | right
  | home
  | endKey
  | pageUp
  | pageDown
  | insert
  | delete
  | backspace
  | null
  | function (n : Nat)
  deriving DecidableEq, Repr

structure KeyPress where
  key : Key
  control : Bool := false
  shift : Bool := false
  alt : Bool := false
  deriving DecidableEq, Repr

/-- The key press that reaches a program as a character. Control characters stand for keys of their own or
for letters pressed with the control key held. -/
def KeyPress.ofChar (c : Char) : KeyPress :=
  match c with
  | '\n' => ⟨.enter, false, false, false⟩
  | '\t' => ⟨.tab, false, false, false⟩
  | '\x1b' => ⟨.escape, false, false, false⟩
  | '\x7f' => ⟨.backspace, false, false, false⟩
  | c =>
    if c.toNat < 32 then ⟨.char (Char.ofNat (c.toNat + 96)), true, false, false⟩
    else ⟨.char c, false, false, false⟩

inductive Action where
  | quit
  | nextField
  | previousField
  | input (c : Char)
  | backspace
  | submitLogin
  | compile
  | editSource
  | toggleTheme
  | nextTab
  deriving DecidableEq, Repr

namespace Action

def onLogin? (focus : LoginField) : Key → Option Action
  | .escape => some quit
  | .tab => some nextField
  | .down => some nextField
  | .backTab => some previousField
  | .up => some previousField
  | .enter => some submitLogin
  | .backspace => if focus = .button then none else some backspace
  | .char c =>
    if focus = .button then (if c = ' ' then some submitLogin else none) else some (input c)
  | _ => none

def onWorkspace? : Key → Option Action
  | .function n => if n = 5 then some compile else none
  | .char c =>
    if c = 'e' then some editSource
    else if c = 't' then some toggleTheme
    else if c = 'q' ∨ c = 'Q' then some quit
    else none
  | .tab => some nextTab
  | .escape => some quit
  | _ => none

def withControl? (screen : Screen) (key : Key) : Option Action :=
  if key = .char 'c' then some quit
  else if key = .char 'r' ∧ screen = .workspace then some compile
  else none

def ofKey? (screen : Screen) (focus : LoginField) (press : KeyPress) : Option Action :=
  if press.control then withControl? screen press.key
  else
    match screen with
    | .login => onLogin? focus press.key
    | .workspace => onWorkspace? press.key

end Action
end CompileDesk
