/-!
# Faults

Why a machine refuses a request, with the number and the words by which the
programs that run on it know the reason.
-/

namespace Conformance.Machine

inductive Fault where
  | notPermitted
  | notFound
  | noProcess
  | interrupted
  | inputOutput
  | tooManyArguments
  | badFormat
  | badDescriptor
  | noChild
  | permissionDenied
  | busy
  | exists
  | notDirectory
  | isDirectory
  | invalid
  | notTerminal
  | textBusy
  | noSpace
  | illegalSeek
  | brokenPipe
  | outOfRange
  | nameTooLong
  | notEmpty
  | linkLoop
deriving DecidableEq, Repr

namespace Fault

def number : Fault → Nat
  | .notPermitted => 1
  | .notFound => 2
  | .noProcess => 3
  | .interrupted => 4
  | .inputOutput => 5
  | .tooManyArguments => 7
  | .badFormat => 8
  | .badDescriptor => 9
  | .noChild => 10
  | .permissionDenied => 13
  | .busy => 16
  | .exists => 17
  | .notDirectory => 20
  | .isDirectory => 21
  | .invalid => 22
  | .notTerminal => 25
  | .textBusy => 26
  | .noSpace => 28
  | .illegalSeek => 29
  | .brokenPipe => 32
  | .outOfRange => 34
  | .nameTooLong => 36
  | .notEmpty => 39
  | .linkLoop => 40

/-- The reason in words. -/
def text : Fault → String
  | .notPermitted => "Operation not permitted"
  | .notFound => "No such file or directory"
  | .noProcess => "No such process"
  | .interrupted => "Interrupted system call"
  | .inputOutput => "Input/output error"
  | .tooManyArguments => "Argument list too long"
  | .badFormat => "Exec format error"
  | .badDescriptor => "Bad file descriptor"
  | .noChild => "No child processes"
  | .permissionDenied => "Permission denied"
  | .busy => "Device or resource busy"
  | .exists => "File exists"
  | .notDirectory => "Not a directory"
  | .isDirectory => "Is a directory"
  | .invalid => "Invalid argument"
  | .notTerminal => "Inappropriate ioctl for device"
  | .textBusy => "Text file busy"
  | .noSpace => "No space left on device"
  | .illegalSeek => "Illegal seek"
  | .brokenPipe => "Broken pipe"
  | .outOfRange => "Numerical result out of range"
  | .nameTooLong => "File name too long"
  | .notEmpty => "Directory not empty"
  | .linkLoop => "Too many levels of symbolic links"

/-- The reason in words and as a number. -/
def message (fault : Fault) : String :=
  fault.text ++ " (os error " ++ toString fault.number ++ ")"

end Fault

end Conformance.Machine
