import CompileDesk.Settings.Basic
import CompileDesk.Toml.Quoted
import CompileDesk.Toml.Meaning

/-! # Settings as TOML

Settings are kept as a TOML document with a comment above each of them. Reading takes any document: a
setting that is missing has its default, other keys are passed over, and a value of another type
than its setting's is refused.
-/

namespace CompileDesk.Settings

def truth (b : Bool) : String := if b then "true" else "false"

def delay (n : UInt64) : String := Text.ofNat n.toNat

def document (s : Settings) : String :=
  "# mjc configuration\n\n" ++
  "# Base URL of the compiler service\n" ++
  "server_url = " ++ Toml.quoted s.serverUrl ++ "\n\n" ++
  "# Milliseconds to wait before returning to the login screen\n" ++
  "# after the server reports an expired session (HTTP 401)\n" ++
  "session_expiry_redirect_ms = " ++ delay s.sessionExpiryRedirect ++ "\n\n" ++
  "# Milliseconds to wait before opening the workspace after a successful login\n" ++
  "login_redirect_ms = " ++ delay s.loginRedirect ++ "\n\n" ++
  "# Graphviz executable used to render diagrams to SVG\n" ++
  "renderer = " ++ Toml.quoted s.renderer ++ "\n\n" ++
  "# Keep rendered SVG files under ~/.config/mjc/diagrams/\n" ++
  "save_diagrams = " ++ truth s.saveDiagrams ++ "\n"

/-- The settings as plain TOML, without a line feed at the end. -/
def plainDocument (s : Settings) : String :=
  "server_url = " ++ Toml.quoted s.serverUrl ++ "\n" ++
  "session_expiry_redirect_ms = " ++ delay s.sessionExpiryRedirect ++ "\n" ++
  "login_redirect_ms = " ++ delay s.loginRedirect ++ "\n" ++
  "renderer = " ++ Toml.quoted s.renderer ++ "\n" ++
  "save_diagrams = " ++ truth s.saveDiagrams

def textOr (t : Toml.Table) (key default : String) : Option String :=
  match t.lookup key with
  | none => some default
  | some (.string s) => some s
  | some _ => none

def delayOr (t : Toml.Table) (key : String) (default : UInt64) : Option UInt64 :=
  match t.lookup key with
  | none => some default
  | some (.integer n) =>
    if 0 ≤ n && n ≤ Text.maxWord then some (UInt64.ofNat n.toNat) else none
  | some _ => none

def truthOr (t : Toml.Table) (key : String) (default : Bool) : Option Bool :=
  match t.lookup key with
  | none => some default
  | some (.boolean b) => some b
  | some _ => none

/-- The settings of a table. Integers anywhere in it must have at most 128 bits. -/
def ofTable? (t : Toml.Table) : Option Settings := do
  if !Toml.allIntegersOf Toml.fitsWide t then none
  else
    let initial : Settings := {}
    some {
      serverUrl := ← textOr t "server_url" initial.serverUrl
      sessionExpiryRedirect :=
        ← delayOr t "session_expiry_redirect_ms" initial.sessionExpiryRedirect
      loginRedirect := ← delayOr t "login_redirect_ms" initial.loginRedirect
      renderer := ← textOr t "renderer" initial.renderer
      saveDiagrams := ← truthOr t "save_diagrams" initial.saveDiagrams }

def parse (text : String) : Except Toml.Fault Settings :=
  (Toml.parse text).bind fun t => Toml.wellFormed (ofTable? t)

end CompileDesk.Settings
