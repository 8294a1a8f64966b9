import Conformance.Tool.Records.Grammar
import Conformance.Tool.Records.Run

/-!
# Processing records

`awk` runs a script on the records of its operands.  The script is the first operand, or
it is kept in files.
-/

namespace Conformance.Tool

open Machine Shell Records

/-- What a script for records is started with. -/
structure RecordCall where
  /-- Scripts, and the files that they come from. -/
  sources : List (String × List Char)
  settings : List (String × List Char)
  operands : List String

namespace RecordCall

/-- Ends because the tool was called in a wrong way. -/
def misuse {α : Type} (text : String) : Work α := do
  Work.warn text
  throw 2

def take (call : RecordCall) (letter : Char) (value : String) : Work RecordCall := do
  match letter with
  | 'F' => return { call with settings := call.settings ++ [("FS", unescaped value.toList)] }
  | 'v' =>
    match Run.assignment? value.toList with
    | some (name, text) =>
      return { call with settings := call.settings ++ [(name, unescaped text)] }
    | none => misuse ("improper assignment: -v " ++ value)
  | 'f' =>
    match ← Work.readOperand value with
    | .ok data => return { call with sources := call.sources ++ [(value, charsOfData data)] }
    | .error fault => misuse ("cannot open " ++ value ++ " (" ++ fault.text ++ ")")
  | _ => return call

/-- Reads the words behind the name of the tool; `fuel` bounds them. -/
def read : (fuel : Nat) → RecordCall → List String → Work RecordCall
  | 0, call, _ => return call
  | fuel + 1, call, words => do
    match words with
    | [] => return call
    | word :: rest =>
      match word.toList with
      | ['-', '-'] => return { call with operands := rest }
      | '-' :: letter :: value =>
        if !"FvfW".toList.contains letter then misuse ("not an option: " ++ word)
        else if !value.isEmpty then
          read fuel (← call.take letter (String.ofList value)) rest
        else match rest with
          | text :: others => read fuel (← call.take letter text) others
          | [] => misuse ("option -" ++ String.singleton letter ++ " lacks argument")
      | _ => return { call with operands := words }

end RecordCall

namespace Records

def State.initial (bench : Bench) (operands : List String) : State :=
  let given : List (String × Value) :=
    [("FS", .text [' ']), ("OFS", .text [' ']), ("ORS", .text ['\n']), ("RS", .text ['\n']),
      ("SUBSEP", .text ['\x1c']), ("CONVFMT", .text "%.6g".toList),
      ("OFMT", .text "%.6g".toList), ("NR", .number 0), ("FNR", .number 0),
      ("RSTART", .number 0), ("RLENGTH", .number (-1)), ("FILENAME", .text []),
      ("ARGC", .ofNat (operands.length + 1))]
  let arguments := (bench.name :: operands).zipIdx.foldl (fun (table : Table) (operand, place) =>
    table.set (.number place) (.outside operand.toList)) .empty
  let environment := bench.environment.foldl (fun (table : Table) entry =>
    let name := entry.toList.takeWhile (· ≠ '=')
    table.set (.text (String.ofList name)) (.outside (entry.toList.drop (name.length + 1)))) .empty
  { bench
    globals := given.foldl (fun globals (name, value) => globals.insert name value) ∅
    arrays := ((∅ : Std.TreeMap String Nat compare).insert "ARGV" 0).insert "ENVIRON" 1
    tables := ((∅ : Std.TreeMap Nat Table compare).insert 0 arguments).insert 1 environment
    nextTable := 2
    frames := []
    record := .outside []
    fields := #[]
    current := none
    place := 1
    hasRead := false
    readers := []
    writers := []
    ranges := []
    seed := .number 0
    chance := 0
    status := 0 }

/-- Runs a script with variables that are set before; the result is its status. -/
def Script.run (script : Script) (settings : List (String × List Char)) : Run Unit := do
  let body : Run Unit := do
    for (name, value) in settings do
      Run.setGlobal name (.outside value)
    Run.runScript script.functions script
  let result ← Activity.attempt body
  Run.closeAll
  match result with
  | .error (.stop status) => throw (.stop status)
  | _ => throw (.stop (← get).status)

end Records

def awk : Utility := fun words => do
  let call ← RecordCall.read (words.length + 1) ⟨[], [], []⟩ words
  let (file, source, operands) ← match call.sources, call.operands with
    | [], text :: rest => pure ("", text.toList, rest)
    | [], [] => do
      Work.writeError "Usage: mawk [Options] [Program] [file ...]\n"
      throw 2
    | (name, first) :: others, rest =>
      let texts := first :: others.map (·.2)
      pure (name ++ ": ", ['\n'].intercalate texts, rest)
  match scriptOf source with
  | .error fault => RecordCall.misuse (fault.message file)
  | .ok script =>
    let state := State.initial (← get) operands
    fun bench next => script.run call.settings { state with bench } fun result state =>
      match result with
      | .error (.stop status) => next (.error status) state.bench
      | _ => next (.ok ()) state.bench

end Conformance.Tool
