import CompileDesk.Compilation.Symbol
import CompileDesk.Decimal.Shortest
import CompileDesk.Json.Reader
import CompileDesk.Service.Reply

/-! # The verdict of a compilation

A reply of the compile service says one of three things: the program was compiled, it was refused, or
the session is over. The status 401 decides before the body is looked at; then the body has to be
a JSON object. Each piece of information has a current field name and an older one. A refusal is
recognised before the symbols are read, so that a broken symbol table does not hide its message.
-/

namespace CompileDesk

structure Artifacts where
  assembly : String
  diagram : Option String
  symbols : List Symbol
  deriving DecidableEq, Repr

inductive Verdict where
  | compiled (artifacts : Artifacts)
  | refused (message : String)
  | sessionExpired
  deriving DecidableEq, Repr

inductive SymbolFault where
  | notAnObject (kind : String)
  | notText (found : String)
  deriving DecidableEq, Repr

def SymbolFault.message : SymbolFault → String
  | notAnObject kind => "expected an object, found a " ++ kind
  | notText found => "invalid type: " ++ found ++ ", expected a string"

inductive ReplyFault where
  | invalidJson (detail : String)
  | notAnObject (kind : String)
  | badSymbol (index : Nat) (fault : SymbolFault)
  deriving DecidableEq, Repr

def ReplyFault.message : ReplyFault → String
  | invalidJson detail => "response body is not valid JSON: " ++ detail
  | notAnObject kind => "response body is a JSON " ++ kind ++ ", expected an object"
  | badSymbol index fault =>
    "symbolTable entry " ++ Text.ofNat index ++ " is malformed: " ++ fault.message

namespace Verdict

def genericRefusal : String := "The compiler service reported an error without details."

/-- The first field among the names that holds a string. -/
def firstText? (fields : List (String × Json)) (names : List String) : Option String :=
  names.findSome? fun name => (Json.field? fields name).bind Json.asString?

def unexpected : Json → String
  | .null => "null"
  | .bool true => "boolean `true`"
  | .bool false => "boolean `false`"
  | .number (.integer n) => "integer `" ++ Text.ofInt n ++ "`"
  | .number (.binary x) => "floating point `" ++ String.ofList x.compact ++ "`"
  | .string s => "string " ++ s
  | .array _ => "sequence"
  | .object _ => "map"

def textField (fields : List (String × Json)) (name : String) :
    Except SymbolFault (Option String) :=
  match Json.field? fields name with
  | none => .ok none
  | some (.string s) => .ok (some s)
  | some v => .error (.notText (unexpected v))

def nullableField (fields : List (String × Json)) (name : String) :
    Except SymbolFault (Option String) :=
  match Json.field? fields name with
  | some .null => .ok none
  | _ => textField fields name

/-- Reads an entry of the symbol table. The fields are looked at in alphabetical order. -/
def symbolOf : Json → Except SymbolFault Symbol
  | .object fields => do
    let address ← nullableField fields "address"
    let name ← textField fields "name"
    let scope ← textField fields "scope"
    let kind ← textField fields "type"
    return ⟨name.getD "", kind.getD "", scope.getD "", address⟩
  | v => .error (.notAnObject v.kind)

/-- Reads the entries of a symbol table up to the first that is no symbol. -/
def symbolsFrom : Nat → List Json → Except ReplyFault (List Symbol)
  | _, [] => .ok []
  | index, entry :: rest =>
    match symbolOf entry with
    | .error fault => .error (.badSymbol index fault)
    | .ok symbol => (symbolsFrom (index + 1) rest).map (symbol :: ·)

/-- Reads the symbol table; a field that is no list counts as an empty table. -/
def symbolTable : Option Json → Except ReplyFault (List Symbol)
  | some (.array entries) => symbolsFrom 0 entries
  | _ => .ok []

/-- Whether the object reports success; the status decides when no flag does. -/
def reportsSuccess (status : Bool) (fields : List (String × Json)) : Bool :=
  match Json.field? fields "success" with
  | some (.bool flag) => flag
  | _ => status

/-- The reason of a refusal: the first text of the two fields that is not blank. -/
def refusalReason (fields : List (String × Json)) : String :=
  ((["error", "message"].filterMap fun name =>
    (Json.field? fields name).bind Json.asString?).find? fun m => !Text.blank m).getD genericRefusal

def ofFields (status : Bool) (fields : List (String × Json)) : Except ReplyFault Verdict :=
  if reportsSuccess status fields then
    (symbolTable (Json.field? fields "symbolTable")).map fun symbols =>
      .compiled ⟨(firstText? fields ["asmCode", "asmResult"]).getD "",
        firstText? fields ["dotCode", "dotResult"], symbols⟩
  else .ok (.refused (refusalReason fields))

def ofReply (r : Reply) : Except ReplyFault Verdict :=
  if r.status == sessionExpiredStatus then .ok .sessionExpired
  else
    match Json.parse r.body with
    | .error detail => .error (.invalidJson detail)
    | .ok (.object fields) => ofFields r.isSuccess fields
    | .ok v => .error (.notAnObject v.kind)

end Verdict
end CompileDesk
