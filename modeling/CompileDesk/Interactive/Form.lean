import CompileDesk.Panes.Basic

/-! # The login form

The interactive program shows one of two screens. On the login screen a form has two fields and a
button; one of the three has the focus.
-/

namespace CompileDesk

inductive Screen where
  | login
  | workspace
  deriving DecidableEq, Repr

def Screen.name : Screen → String
  | login => "Login"
  | workspace => "Workspace"

inductive LoginField where
  | username
  | password
  | button
  deriving DecidableEq, Repr

namespace LoginField

def name : LoginField → String
  | username => "Username"
  | password => "Password"
  | button => "Button"

def next : LoginField → LoginField
  | username => password
  | password => button
  | button => username

def previous : LoginField → LoginField
  | username => button
  | password => username
  | button => password

@[simp] theorem previous_next (f : LoginField) : f.next.previous = f := by cases f <;> rfl

@[simp] theorem next_previous (f : LoginField) : f.previous.next = f := by cases f <;> rfl

end LoginField

/-- The login form. It is pending while a login is on its way. -/
structure LoginForm where
  username : String := ""
  password : String := ""
  focus : LoginField := .username
  message : Option Status := none
  pending : Bool := false
  deriving DecidableEq, Repr

namespace LoginForm

def shortened (s : String) : String := String.ofList s.toList.dropLast

/-- Appends a character to the field with the focus; the button takes none. -/
def input (f : LoginForm) (c : Char) : LoginForm :=
  match f.focus with
  | .username => { f with username := f.username.push c }
  | .password => { f with password := f.password.push c }
  | .button => f

/-- Takes the last character from the field with the focus. -/
def backspace (f : LoginForm) : LoginForm :=
  match f.focus with
  | .username => { f with username := shortened f.username }
  | .password => { f with password := shortened f.password }
  | .button => f

def signingIn : String := "Signing in..."

def expired : String := "Your session has expired. Please sign in again."

/-- The form as it is when the workspace opens: only the user name stays. -/
def entered (f : LoginForm) : LoginForm := { username := f.username }

/-- The form as it is when the session is over: the password goes, and the focus is on the field to fill
in first. -/
def returned (f : LoginForm) (time : LocalTime) : LoginForm := { f with
  password := ""
  focus := if f.username.isEmpty then .username else .password
  message := some ⟨.warning, expired, time⟩ }

end LoginForm
end CompileDesk
