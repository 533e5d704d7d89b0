import CompileDesk.Text.Blank
import CompileDesk.Text.Natural

/-! # Settings

Five settings govern the program. A setting is changed by its name with a text. A value of the right
form is stored first and validated afterwards, so that a rejected address or renderer stays in the
changed settings while the change is reported as failed; what is kept on disk is decided by the
caller.
-/

namespace CompileDesk

/-- The settings; delays are in milliseconds. -/
structure Settings where
  serverUrl : String := "http://127.0.0.1:4567"
  sessionExpiryRedirect : UInt64 := 2000
  loginRedirect : UInt64 := 1000
  renderer : String := "dot"
  saveDiagrams : Bool := true
  deriving DecidableEq, Repr

inductive Setting where
  | serverUrl
  | sessionExpiryRedirect
  | loginRedirect
  | renderer
  | saveDiagrams
  deriving DecidableEq, Repr

namespace Setting

def name : Setting → String
  | serverUrl => "server_url"
  | sessionExpiryRedirect => "session_expiry_redirect_ms"
  | loginRedirect => "login_redirect_ms"
  | renderer => "renderer"
  | saveDiagrams => "save_diagrams"

def all : List Setting :=
  [serverUrl, sessionExpiryRedirect, loginRedirect, renderer, saveDiagrams]

def ofName? (name : String) : Option Setting := all.find? (·.name == name)

end Setting

inductive SettingsFault where
  | invalidUrl (url : String)
  | emptyRenderer
  | notMilliseconds (setting : Setting) (value : String)
  | notBoolean (value : String)
  | unknownSetting (name : String)
  deriving DecidableEq, Repr

def SettingsFault.message : SettingsFault → String
  | invalidUrl url => "server_url must start with http:// or https:// (got `" ++ url ++ "`)"
  | emptyRenderer => "renderer must name an executable, e.g. `dot`"
  | notMilliseconds setting value =>
    "Invalid value for `" ++ setting.name ++ "`: expected milliseconds, got `" ++ value ++ "`"
  | notBoolean value =>
    "Invalid value for `save_diagrams`: expected true or false, got `" ++ value ++ "`"
  | unknownSetting name =>
    "Unknown config key `" ++ name ++ "`. Valid keys: " ++
      Text.joined ", " (Setting.all.map Setting.name)

namespace Settings

/-- What is wrong with the settings: the address has to begin with a known scheme, blanks in front
of it aside, and the renderer must not be blank. -/
def fault? (s : Settings) : Option SettingsFault :=
  let url := Text.trimmed s.serverUrl
  if !(Text.startsWith url "http://" || Text.startsWith url "https://") then
    some (.invalidUrl s.serverUrl)
  else if Text.blank s.renderer then some .emptyRenderer
  else none

def withoutSlashes (s : String) : String :=
  String.ofList (s.toList.reverse.dropWhile (· == '/')).reverse

def baseUrl (s : Settings) : String := withoutSlashes s.serverUrl

def milliseconds? (value : String) : Option UInt64 :=
  (Text.bounded? Text.maxWord value.toList).map UInt64.ofNat

/-- Stores the value of a text in a setting; the settings are as before when the text is not of the
right form. -/
def store (s : Settings) (setting : Setting) (value : String) : Except SettingsFault Settings :=
  match setting with
  | .serverUrl => .ok { s with serverUrl := value }
  | .sessionExpiryRedirect =>
    match milliseconds? value with
    | some ms => .ok { s with sessionExpiryRedirect := ms }
    | none => .error (.notMilliseconds setting value)
  | .loginRedirect =>
    match milliseconds? value with
    | some ms => .ok { s with loginRedirect := ms }
    | none => .error (.notMilliseconds setting value)
  | .renderer => .ok { s with renderer := value }
  | .saveDiagrams =>
    if value = "true" then .ok { s with saveDiagrams := true }
    else if value = "false" then .ok { s with saveDiagrams := false }
    else .error (.notBoolean value)

/-- Changes the setting with a name. The settings after the change come with what is wrong with it. -/
def change (s : Settings) (name value : String) : Settings × Option SettingsFault :=
  match Setting.ofName? name with
  | none => (s, some (.unknownSetting name))
  | some setting =>
    match s.store setting value with
    | .error fault => (s, some fault)
    | .ok stored => (stored, stored.fault?)

end Settings
end CompileDesk
