import CompileDesk.Command.Run
import CompileDesk.Interactive.View
import CompileDesk.Program.Basic
import CompileDesk.Service.Http
import Std.Async.DNS
import Std.Async.TCP
import Std.Time

/-! # The command line

The program runs on what has been seen of the world so far: the files it may touch, the answers of the
service and the keys that were pressed. When it sends a request that has no answer yet, or waits for a key, the
answer or the keys are fetched and it runs again with them. At its end the changed files and its messages are
written. The terminal hands keys over line by line.
-/

namespace CompileDesk.CommandLine

open Std.Async

/-- Looks at what is at a path, when the tree knows nothing of it. Reading a folder fails with error 21. -/
def look (t : FileTree) (path : String) : IO FileTree := do
  match t.goal path with
  | .ok g =>
    if (t.get? g.place).isSome then return t
    try
      return t.put g.place (.file (← IO.FS.readBinFile path) false)
    catch
      | .inappropriateType _ 21 _ => return t.put g.place .folder
      | _ => return t
  | .error _ => return t

/-- The folders that lead to a path, outermost first, and the path itself. The fuel bounds the parts of the
path. -/
def wayTo (path : String) : Nat → List String
  | 0 => [path]
  | fuel + 1 =>
    match Path.parent? path with
    | some parent => wayTo parent fuel ++ [path]
    | none => [path]

def lookAll (paths : List String) : IO FileTree :=
  (paths.flatMap fun path => wayTo path path.length).foldlM look {}

def writeChanges (before after : FileTree) : IO Unit := do
  for (place, _) in before.entries do
    if (after.get? place).isNone then IO.FS.removeFile place.path
  for (place, entry) in after.entries do
    match before.get? place, entry with
    | some .folder, .folder => pure ()
    | _, .folder => IO.FS.createDirAll place.path
    | some (.file old _), .file content _ =>
      if old.data != content.data then IO.FS.writeBinFile place.path content
    | _, .file content _ => IO.FS.writeBinFile place.path content
    | _, _ => pure ()

def localNow : IO LocalTime := do
  let now ← Std.Time.PlainDateTime.now
  return ⟨now.year.toInt.toNat, now.month.toNat, now.day.toNat, now.hour.toNat, now.minute.toNat,
    now.second.toNat, now.millisecond.toNat⟩

/-- Everything that comes over a connection until it is closed. -/
partial def receiveAll (socket : TCP.Socket.Client) (received : ByteArray) : Async ByteArray := do
  match ← socket.recv? 65536 with
  | some bytes => receiveAll socket (received ++ bytes)
  | none => return received

def converse (a : Http.Address) (message : ByteArray) (ip : Std.Net.IPAddr) : Async ByteArray := do
  let socket ← TCP.Socket.Client.mk
  socket.connect (match ip with
    | .v4 ip => .v4 ⟨ip, a.socket⟩
    | .v6 ip => .v6 ⟨ip, a.socket⟩)
  socket.send message
  receiveAll socket .empty

def converseWithFirst (a : Http.Address) (message : ByteArray) : List Std.Net.IPAddr → IO ByteArray
  | [] => throw (IO.userError "the host has no address")
  | [ip] => (converse a message ip).block
  | ip :: rest => try (converse a message ip).block catch _ => converseWithFirst a message rest

def fetch (r : Request) : IO Answer := do
  match Http.Address.ofUrl? r.url with
  | none => return .failed "the address is no http address"
  | some a =>
    try
      let ips ← (DNS.getAddrInfo a.host (toString a.socket)).block
      let bytes ← converseWithFirst a (Http.message a r) ips.toList
      return match Http.reply? bytes with
        | some reply => .reply reply
        | none => .failed "the reply is no message"
    catch e => return .failed (toString e)

/-- What has been seen of the world: the answers of the service, the keys with the times at which they came,
and the times before and after the latest request. -/
structure Seen where
  answers : List Answer := []
  keys : List (KeyPress × Nat) := []
  before : Nat
  after : Nat

/-- The host with the keyboard and the clock as they were seen. The last event of the keyboard has no
meaning; the screen drawn before it is the present one. -/
def Seen.host (s : Seen) (h : Host) : Host :=
  { h with
    keyboard := (s.keys.map fun k => .press k.1) ++ [.nothing]
    clock := fun n => match s.keys[n]? with
      | some k => k.2
      | none => if n = 0 then s.before else s.after }

def showScreen (drawings : List Drawing) : IO Unit := do
  let canvas := (App.displayed 80 24 drawings).shown
  for y in List.range canvas.height do
    IO.println (canvas.rowText y)

/-- Runs the program until it has all that it asks for. -/
partial def run (h : Option Host) (words : List String) (files : FileTree) (seen : Seen) : IO Ended := do
  let ended := runProgram (h.map seen.host) words { files, wire := .scripted seen.answers }
  match ended.desk.wire.sent[seen.answers.length]? with
  | some request =>
    let before ← IO.monoMsNow
    let answer ← fetch request
    let after ← IO.monoMsNow
    run h words files { seen with answers := seen.answers ++ [answer], before, after }
  | none =>
    if ended.desk.drawn.length ≤ seen.keys.length then return ended
    else
      showScreen (ended.desk.drawn.take (seen.keys.length + 1))
      let line ← (← IO.getStdin).getLine
      if line.isEmpty then return ended
      let now ← IO.monoMsNow
      let keys := line.toList.map fun c => (KeyPress.ofChar c, now)
      run h words files { seen with keys := seen.keys ++ keys, after := now }

def start (words : List String) : IO UInt32 := do
  let now ← localNow
  let editor : EditorChoice := ⟨← IO.getEnv "VISUAL", ← IO.getEnv "EDITOR"⟩
  let home := (← IO.getEnv "HOME").filter fun home => !home.isEmpty
  let host : Option Host := home.map fun home =>
    { home, now, editor, clock := fun _ => 0, programs := Program.run }
  let paths := match host, Invocation.ofWords words with
    | some h, .ok i => i.paths h
    | _, _ => []
  let files ← lookAll paths
  let begun ← IO.monoMsNow
  let ended ← run host words files { before := begun, after := begun }
  writeChanges files ended.desk.files
  IO.print ended.desk.transcript.output
  IO.eprint ended.desk.transcript.errors
  return ended.exitCode.toUInt32

end CompileDesk.CommandLine

def main (words : List String) : IO UInt32 := CompileDesk.CommandLine.start words
