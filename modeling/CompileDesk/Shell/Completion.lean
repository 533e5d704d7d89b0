import CompileDesk.Shell.Basic
import CompileDesk.Text.Blank

/-! # Completion scripts

A completion script tells a shell which words can follow the name of the program.
-/

namespace CompileDesk.Shell

def programName : String := "mjc"

/-- The script that completes the first argument of the program to one of the words. -/
def completionScript (shell : Shell) (words : List String) : String :=
  match shell with
  | bash =>
    "_" ++ programName ++ "() \x7b\n    COMPREPLY=( $(compgen -W '" ++ Text.joined " " words ++
      "' -- \"$\x7bCOMP_WORDS[COMP_CWORD]\x7d\") )\n\x7d\ncomplete -F _" ++ programName ++ " " ++
      programName ++ "\n"
  | zsh =>
    "#compdef " ++ programName ++ "\n_arguments '1: :(" ++ Text.joined " " words ++ ")'\n"
  | fish =>
    "complete -c " ++ programName ++ " -f -n __fish_use_subcommand -a '" ++
      Text.joined " " words ++ "'\n"

end CompileDesk.Shell
