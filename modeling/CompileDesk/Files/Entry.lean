import CompileDesk.Text.Blank

/-! # Entries of a tree of files

An entry is a file, a folder, a device that takes whatever is written and holds nothing, or a program that
belongs to the system. A place is the list of names that lead to an entry from the working folder, or from
the root, which has a place of its own. Some entries are there on every system.
-/

namespace CompileDesk

inductive Entry where
  | file (content : ByteArray) (executable : Bool)
  | folder
  | device
  | program (name : String)

abbrev Place := List String

namespace Place

def root : Place := ["/"]

def above (place : Place) : Place := if place = root then root else place.dropLast

def path : Place → String
  | "/" :: rest => "/" ++ Text.joined "/" rest
  | place => Text.joined "/" place

end Place

namespace Entry

def programs : List String :=
  ["basename", "bash", "cat", "chmod", "cp", "dash", "dirname", "echo", "env", "false", "head", "ls", "mkdir",
    "mv", "printf", "rm", "rmdir", "sh", "sleep", "tail", "tee", "test", "touch", "true", "wc"]

def rootFolders : List String :=
  ["bin", "boot", "dev", "etc", "home", "lib", "media", "mnt", "opt", "proc", "root", "run", "sbin",
    "srv", "sys", "tmp", "usr", "var"]

/-- What is at a place on every system. The working folder and the root are folders. -/
def onEverySystem : Place → Option Entry
  | [] | ["/"] => some .folder
  | ["/", name] => if rootFolders.contains name then some .folder else none
  | ["/", "dev", "null"] => some .device
  | ["/", "usr", "bin"] | ["/", "usr", "lib"] | ["/", "usr", "local"] | ["/", "usr", "sbin"] |
    ["/", "usr", "share"] => some .folder
  | ["/", "bin", name] | ["/", "usr", "bin", name] =>
    if programs.contains name then some (.program name) else none
  | _ => none

end Entry
end CompileDesk
