import CompileDesk.Text.Natural

/-! # Why a file operation failed -/

namespace CompileDesk

inductive IoError where
  | notFound
  | permissionDenied
  | alreadyExists
  | notAFolder
  | isAFolder
  | notAProgram
  | nameTooLong
  | tooManyTurns
  | nulInPath
  | invalidUtf8
  | other (text : String)
  deriving DecidableEq, Repr

namespace IoError

def reason : IoError → String
  | notFound => "No such file or directory"
  | notAProgram => "Exec format error"
  | permissionDenied => "Permission denied"
  | alreadyExists => "File exists"
  | notAFolder => "Not a directory"
  | isAFolder => "Is a directory"
  | nameTooLong => "File name too long"
  | tooManyTurns => "Too many levels of symbolic links"
  | nulInPath => "file name contained an unexpected NUL byte"
  | invalidUtf8 => "stream did not contain valid UTF-8"
  | other text => text

def number? : IoError → Option Nat
  | notFound => some 2
  | notAProgram => some 8
  | permissionDenied => some 13
  | alreadyExists => some 17
  | notAFolder => some 20
  | isAFolder => some 21
  | nameTooLong => some 36
  | tooManyTurns => some 40
  | nulInPath | invalidUtf8 | other _ => none

def message (e : IoError) : String :=
  match e.number? with
  | some n => e.reason ++ " (os error " ++ Text.ofNat n ++ ")"
  | none => e.reason

end IoError
end CompileDesk
