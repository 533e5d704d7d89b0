import CompileDesk.Files.Error

/-! # What can go wrong

Every operation of the program that can fail does so with one of these errors.
-/

namespace CompileDesk

inductive DeskError where
  | sourceNotFound (path : String)
  | connectivity (message : String)
  | compilation (message : String)
  | sessionExpired
  | loginRejected (message : String)
  | validation (message : String)
  | malformedResponse (message : String)
  | editor (message : String)
  | preferences (message : String)
  | config (message : String)
  | shellCompletion (message : String)
  | io (cause : IoError)
  | json (message : String)
  | http (message : String)
  deriving DecidableEq, Repr

def DeskError.message : DeskError → String
  | sourceNotFound path => "Source file not found: " ++ path
  | connectivity m => "Could not reach the compiler service: " ++ m
  | compilation m => "Compilation failed: " ++ m
  | sessionExpired => "Session expired, please log in again"
  | loginRejected m => "Login rejected: " ++ m
  | validation m => "Invalid login input: " ++ m
  | malformedResponse m => "Malformed server response: " ++ m
  | editor m => "Editor error: " ++ m
  | preferences m => "Preference storage error: " ++ m
  | config m => "Configuration error: " ++ m
  | shellCompletion m => "Shell completion error: " ++ m
  | io cause => "IO error: " ++ cause.message
  | json m => "JSON error: " ++ m
  | http m => "HTTP client error: " ++ m

end CompileDesk
