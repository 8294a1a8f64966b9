import Conformance.Shell.Builtin.Control
import Conformance.Shell.Builtin.Extended
import Conformance.Shell.Builtin.Files
import Conformance.Shell.Builtin.Process

/-!
# The table of commands
-/

namespace Conformance.Shell

open Builtin

def commonBuiltin? (name : String) : Option Builtin :=
  match name with
  | ":" => some { constant 0 with isSpecial := true }
  | "." => some source
  | "[" => some bracket
  | "alias" => some setAlias
  | "bg" => some resume
  | "break" => some (leaveLoops .breaks)
  | "cd" => some cd
  | "command" => some command
  | "continue" => some (leaveLoops .continues)
  | "echo" => some echo
  | "eval" => some eval
  | "exec" => some exec
  | "exit" => some exit
  | "export" => some exportNames
  | "false" => some (constant 1)
  | "fg" => some resume
  | "getopts" => some getopts
  | "hash" => some hash
  | "jobs" => some jobs
  | "kill" => some kill
  | "local" => some localNames
  | "printf" => some printf
  | "pwd" => some pwd
  | "read" => some read
  | "readonly" => some fixNames
  | "return" => some returnFrom
  | "set" => some setParameters
  | "shift" => some shift
  | "test" => some test
  | "times" => some times
  | "trap" => some trap
  | "true" => some (constant 0)
  | "type" => some type
  | "ulimit" => some ulimit
  | "umask" => some umask
  | "unalias" => some unalias
  | "unset" => some unset
  | "wait" => some wait
  | _ => none

/-- The commands of the larger language. -/
def extendedBuiltin? (name : String) : Option Builtin :=
  match name with
  | "builtin" => some builtin
  | "declare" => some declare
  | "typeset" => some declare
  | "let" => some let'
  | "mapfile" => some mapfile
  | "readarray" => some mapfile
  | "shopt" => some shopt
  | "source" => some source
  | _ => commonBuiltin? name

def builtinTable : BuiltinTable
  | .standard, name => commonBuiltin? name
  | .extended, name => extendedBuiltin? name

end Conformance.Shell
