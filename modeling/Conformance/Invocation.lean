import Conformance.FileTree
import Conformance.Machine.Fault

/-!
# Invocations of children

An invoker answers an invocation with an outcome or with the reason why there is
none, and may change the files and its own state.  Nothing is assumed of it.
-/

namespace Conformance

structure Invocation where
  program : Path
  arguments : List String
deriving DecidableEq, Repr

/-- Program and arguments with blanks between them. -/
def Invocation.commandLine (invocation : Invocation) : String :=
  String.intercalate " " (invocation.program.text :: invocation.arguments)

structure Outcome where
  /-- None if a signal ended the child. -/
  exitCode : Option Int
  stdout : List String
  timedOut : Bool
deriving DecidableEq, Repr

namespace Outcome

def success (outcome : Outcome) : Bool := !outcome.timedOut && outcome.exitCode = some 0

/-- The exit status in words. -/
def describe (outcome : Outcome) : String :=
  match outcome.exitCode with
  | some code => toString code
  | none => "terminated by signal"

end Outcome

/-- Why a program could not be launched. -/
inductive LaunchCause where
  | machine (fault : Machine.Fault)
  | nulByte
  | noLongerScripted
deriving DecidableEq, Repr

def LaunchCause.message : LaunchCause → String
  | .machine fault => fault.message
  | .nulByte => "nul byte found in provided data"
  | .noLongerScripted => "scripted"

/-- Why an invocation has no outcome. -/
inductive InvokeError where
  | launch (program : String) (cause : LaunchCause)
  | wait (program : String) (cause : LaunchCause)
deriving DecidableEq, Repr

def InvokeError.message : InvokeError → String
  | .launch program _ => "failed to launch " ++ program
  | .wait program _ => "failed while waiting for " ++ program

abbrev Reply := Except InvokeError Outcome

/-- What a session acts on: files, and the state `σ` of whoever runs children. -/
structure World (σ : Type) where
  files : FileTree
  children : σ

structure Invoker (σ : Type) where
  invoke : Invocation → World σ → Reply × World σ

/-- A file to put in place. -/
structure FilePlan where
  path : Path
  node : Node

/-- Puts a file or directory in place, with its ancestors, as far as possible. -/
def FileTree.place (tree : FileTree) (plan : FilePlan) : FileTree :=
  match plan.node with
  | .directory => (tree.makeDirectories plan.path).2
  | .file content executable =>
    let grown := match plan.path.parent? with
      | some above => (tree.makeDirectories above).2
      | none => tree
    match grown.write plan.path content with
    | .error _ => grown
    | .ok written =>
      if executable then
        match written.setExecutable plan.path true with
        | .ok marked => marked
        | .error _ => written
      else written

def FileTree.placeAll (tree : FileTree) (plans : List FilePlan) : FileTree :=
  plans.foldl place tree

/-- A prepared answer, and the files that appear before it is given. -/
structure ScriptedReply where
  writes : List FilePlan
  reply : Reply

/-- Answers from a list, in order. -/
def Invoker.scripted : Invoker (List ScriptedReply) where
  invoke _ world :=
    match world.children with
    | [] => (.error (.launch "script exhausted" .noLongerScripted), world)
    | first :: rest => (first.reply, ⟨world.files.placeAll first.writes, rest⟩)

end Conformance
