import Conformance.CommandLine
import Conformance.Invocation
import Conformance.Suite.Build

/-!
# Diagnostics

How failures are put to the user: a code, a message, and where they exist a hint,
an underlying cause and a place in the specification.
-/

namespace Conformance

structure Diagnostic where
  code : String
  message : String
  help : Option String
  cause : Option String
  /-- A byte offset into the specification. -/
  place : Option Nat
deriving DecidableEq, Repr

/-- A diagnostic as text: its code and message, then its cause and its hint. -/
def Diagnostic.text (diagnostic : Diagnostic) : String :=
  diagnostic.code ++ "\n\n  " ++ diagnostic.message ++ "\n" ++
    (match diagnostic.cause with
      | some cause => "  caused by: " ++ cause ++ "\n"
      | none => "") ++
    (match diagnostic.help with
      | some help => "  help: " ++ help ++ "\n"
      | none => "")

def SpecError.diagnostic : SpecError → Diagnostic
  | .unreadable path cause =>
    ⟨"conform::spec::io", "failed to read specification " ++ path.text, none,
      some cause.message, none⟩
  | .notYaml fault place =>
    ⟨"conform::spec::yaml", "specification is not valid YAML: " ++ fault.text, none, none, place⟩
  | .malformed problem =>
    ⟨"conform::spec::malformed", "malformed specification: " ++ problem.message, problem.help,
      none, none⟩

def InvokeError.diagnostic (error : InvokeError) : Diagnostic :=
  match error with
  | .launch _ cause => ⟨"conform::io::spawn", error.message, none, some cause.message, none⟩
  | .wait _ cause => ⟨"conform::io::wait", error.message, none, some cause.message, none⟩

/-- Why the program could not do its work. -/
inductive ProgramError where
  | specification (cause : SpecError)
  | outputDirectory (path : Path) (cause : FileError)
  | report (path : Path) (cause : FileError)
deriving DecidableEq, Repr

def ProgramError.diagnostic : ProgramError → Diagnostic
  | .specification cause => cause.diagnostic
  | .outputDirectory path cause =>
    ⟨"conform::io::output_dir", "failed to prepare output directory " ++ path.text,
      some "check that the base directory exists and is writable", some cause.message, none⟩
  | .report path cause =>
    ⟨"conform::io::report", "failed to write report " ++ path.text, none, some cause.message,
      none⟩

end Conformance
