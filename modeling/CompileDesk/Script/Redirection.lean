import CompileDesk.Script.Builtin
import CompileDesk.Script.Expansion

/-! # Redirections

A redirection gives the input another text, or binds a stream to a file or to where another stream goes. The first
one that fails ends them all, with a message; after the command everything is bound as before.
-/

namespace CompileDesk.Script

def openingFault (toCreate : Bool) (path : List Char) (e : IoError) : String :=
  let reason := match e with
    | .notFound | .notAFolder => if toCreate then "Directory nonexistent" else "No such file"
    | e => e.reason
  (if toCreate then "cannot create " else "cannot open ") ++ String.ofList path ++ ": " ++ reason

def State.directed (s : State) (stream : Nat) (c : Channel) : State :=
  { s with channels := bind stream c s.channels }

/-- The channel that a number stands for, or none for a dash. -/
def State.channelOf (s : State) (target : List Char) : Except String Channel :=
  if target == ['-'] then .ok .closed
  else
    match (number? target).bind fun n => s.channels.lookup n with
    | some c => .ok c
    | none => .error (String.ofList target ++ ": Bad file descriptor")

def redirect (inner : Inner) (s : State) : Redirection → Except State State
  | .mk line stream direction target =>
    let (s, text) := expandOne inner { s with line } target
    if !s.isOnward then .error s
    else
      let path := s.path text
      let opened (toCreate : Bool) (result : Except IoError State) : Except State State :=
        result.mapError fun e => (s.say (openingFault toCreate text e)).gives 2
      match direction with
      | .fromText => .ok { s with input := bytesOf text }
      | .fromFile =>
        opened false ((s.files.readBytes path).map fun bytes => { s with input := bytes.toList })
      | .toFile =>
        opened true ((s.files.writeBytes path .empty).map fun files =>
          { s with files }.directed stream (.file path))
      | .toFileEnd =>
        opened true ((s.files.openToAppend path).map fun files =>
          { s with files }.directed stream (.file path))
      | .toStream =>
        if stream == 0 then .ok { s with input := [] }
        else
          match s.channelOf text with
          | .ok c => .ok (s.directed stream c)
          | .error message => .error ((s.say message).gives 2)

def Redirection.isOfInput : Redirection → Bool
  | .mk _ stream _ _ => stream == 0

def underRedirections (inner : Inner) (s : State) (rs : List Redirection) (run : State → State) : State :=
  let keepsInput := rs.any Redirection.isOfInput
  match rs.foldlM (redirect inner) s with
  | .ok directed => s.restored (run directed) keepsInput
  | .error failed => s.restored failed keepsInput

end CompileDesk.Script
