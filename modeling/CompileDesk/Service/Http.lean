import CompileDesk.Service.Wire
import CompileDesk.Text.Utf8

/-! # Messages between program and service

A request is written as a message of version 1.0 of the Hypertext Transfer Protocol, in which the service
closes the connection after its reply. So the reply is all that comes: a status line, headers up to an
empty line, and the body.
-/

namespace CompileDesk.Http

/-- Where a message goes: a host, the number of the socket there, and what is asked for. -/
structure Address where
  host : String
  socket : UInt16
  target : String
  deriving DecidableEq, Repr

/-- The address that a URL without encryption names. -/
def Address.ofUrl? (url : String) : Option Address := do
  let rest ← Text.afterOpening "http://".toList url.toList
  let isHost : Char → Bool := fun c => c != '/'
  let host := rest.takeWhile isHost
  let target := match rest.dropWhile isHost with
    | [] => "/"
    | path => String.ofList path
  match Text.splitOnce [':'] host with
  | none => some ⟨String.ofList host, 80, target⟩
  | some (name, digits) =>
    (Text.bounded? 65535 digits).map fun n => ⟨String.ofList name, n.toUInt16, target⟩

def lineEnd : String := "\r\n"

def headers (a : Address) (r : Request) : List (String × String) :=
  [("Host", a.host), ("Accept", "*/*")] ++
    (r.contentType.map fun kind => ("Content-Type", kind)).toList ++
    (r.body.map fun body => ("Content-Length", Text.ofNat (Text.byteLength body))).toList

def message (a : Address) (r : Request) : ByteArray :=
  Text.bytesOf (r.method.name ++ " " ++ a.target ++ " HTTP/1.0" ++ lineEnd ++
    String.join ((headers a r).map fun h => h.1 ++ ": " ++ h.2 ++ lineEnd) ++ lineEnd ++
    r.body.getD "")

def status? (line : List Char) : Option Nat :=
  match Text.words line with
  | version :: code :: _ =>
    if "HTTP/".toList.isPrefixOf version then Text.bounded? 999 code else none
  | _ => none

def reply? (bytes : ByteArray) : Option Reply := do
  let (head, body) ← Text.splitOnce "\r\n\r\n".toList (Text.lenient bytes).toList
  let status ← status? (head.takeWhile (· != '\r'))
  return ⟨status, String.ofList body⟩

end CompileDesk.Http
