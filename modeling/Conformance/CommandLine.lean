import Conformance.Number.Decimal
import Conformance.Settings
import Conformance.Suite
import Conformance.Text.Visible

/-!
# Command line

Words are read from left to right.  An option that takes a value is pending until
the next option or the end; only then is its value checked, so an unknown option
behind it is reported first.  Words that are neither options nor values are tags.
-/

namespace Conformance

/-- Options that take a value. -/
inductive ValueOption where
  | file
  | dir
  | out
  | compiler
  | assembly
  | timeout
  | report
deriving DecidableEq, Repr

namespace ValueOption

def longName : ValueOption → String
  | .file => "file"
  | .dir => "dir"
  | .out => "out"
  | .compiler => "compiler"
  | .assembly => "asm-artifact"
  | .timeout => "timeout"
  | .report => "report"

def shortName? : ValueOption → Option Char
  | .file => some 'f'
  | .dir => some 'd'
  | .out => some 'o'
  | .timeout => some 't'
  | _ => none

/-- What the value is called in messages. -/
def valueName : ValueOption → String
  | .file => "FILE"
  | .dir => "DIR"
  | .out => "OUT"
  | .compiler => "COMPILER"
  | .assembly => "ASM_ARTIFACT"
  | .timeout => "SECONDS"
  | .report => "PATH"

def all : List ValueOption := [.file, .dir, .out, .compiler, .assembly, .timeout, .report]

def display (option : ValueOption) : String :=
  "--" ++ option.longName ++ " <" ++ option.valueName ++ ">"

end ValueOption

/-- Options without a value. -/
inductive Flag where
  | ignore
  | noColor
  | help
  | version
deriving DecidableEq, Repr

namespace Flag

def longName : Flag → String
  | .ignore => "ignore"
  | .noColor => "no-color"
  | .help => "help"
  | .version => "version"

def shortName? : Flag → Option Char
  | .ignore => some 'i'
  | .noColor => none
  | .help => some 'h'
  | .version => some 'V'

def all : List Flag := [.ignore, .noColor, .help, .version]

def display (flag : Flag) : String := "--" ++ flag.longName

end Flag

/-- What a name on the command line stands for. -/
inductive OptionName where
  | value (option : ValueOption)
  | flag (flag : Flag)
deriving DecidableEq, Repr

def OptionName.ofLong? (name : String) : Option OptionName :=
  match ValueOption.all.find? (·.longName = name) with
  | some option => some (.value option)
  | none => (Flag.all.find? (·.longName = name)).map .flag

def OptionName.ofShort? (c : Char) : Option OptionName :=
  match ValueOption.all.find? (·.shortName? = some c) with
  | some option => some (.value option)
  | none => (Flag.all.find? (·.shortName? = some c)).map .flag

/-- Why words are no command line, or ask for something else than a session. -/
inductive UsageError where
  | unknownArgument (argument : String)
  | missingValue (option : ValueOption)
  | repeatedOption (display : String)
  | superfluousValue (value : String) (flag : Flag)
  | invalidValue (value : String) (option : ValueOption) (cause : String)
  | helpRequested
  | versionRequested
deriving DecidableEq, Repr

def helpText : String :=
  "Compile and run a declarative conformance suite against a compiler.\n" ++
  "\n" ++
  "Usage: conform [OPTIONS] [TAGS]...\n" ++
  "\n" ++
  "Arguments:\n" ++
  "  [TAGS]...  Tags selecting (or, with --ignore, excluding) groups. Case-insensitive\n" ++
  "\n" ++
  "Options:\n" ++
  "  -f, --file <FILE>                  Specification file (or directory of YAML files), " ++
    "relative to --dir [default: tests.yaml]\n" ++
  "  -i, --ignore                       Skip groups carrying any of the given tags instead of " ++
    "selecting them\n" ++
  "  -d, --dir <DIR>                    Base directory holding the specification, sources and " ++
    "compiler [default: _test]\n" ++
  "  -o, --out <OUT>                    Artifact directory, relative to --dir [default: tmp]\n" ++
  "      --compiler <COMPILER>          Compiler executable, relative to --dir " ++
    "[default: speroc]\n" ++
  "      --asm-artifact <ASM_ARTIFACT>  Assembly file the compiler leaves in the working " ++
    "directory [default: out.s]\n" ++
  "  -t, --timeout <SECONDS>            Kill any compile or test invocation running longer than " ++
    "this many seconds\n" ++
  "      --no-color                     Disable colored output\n" ++
  "      --report <PATH>                Write the session summary as JSON to this path\n" ++
  "  -h, --help                         Print help\n" ++
  "  -V, --version                      Print version\n"

def versionText : String := "conform 0.1.0\n"

namespace UsageError

/-- The message; for help and version the whole text, otherwise without the usage
that follows it.  Of words that the user typed it repeats what is visible. -/
def message : UsageError → String
  | .unknownArgument argument => "error: unexpected argument '" ++ visible argument ++ "' found"
  | .missingValue option =>
    "error: a value is required for '" ++ option.display ++ "' but none was supplied"
  | .repeatedOption display =>
    "error: the argument '" ++ display ++ "' cannot be used multiple times"
  | .superfluousValue value flag =>
    "error: unexpected value '" ++ visible value ++ "' for '" ++ flag.display ++
      "' found; no more were expected"
  | .invalidValue value option cause =>
    "error: invalid value '" ++ visible value ++ "' for '" ++ option.display ++ "': " ++ cause
  | .helpRequested => helpText
  | .versionRequested => versionText

/-- Whether the text was asked for. -/
def isRequest : UsageError → Bool
  | .helpRequested => true
  | .versionRequested => true
  | _ => false

def exitCode (error : UsageError) : Nat := if error.isRequest then 0 else 2

end UsageError

/-- An option whose value is not checked yet, or not even there. -/
structure PendingOption where
  option : ValueOption
  value : Option String
deriving DecidableEq, Repr

/-- A command line being read. -/
structure Reader where
  values : List (ValueOption × String)
  flags : List Flag
  tags : List String
  pending : Option PendingOption
  /-- Whether only tags follow. -/
  tagsOnly : Bool
deriving DecidableEq, Repr

/-- Why a value does not fit its option. -/
def valueError? (option : ValueOption) (value : String) : Option UsageError :=
  match option with
  | .timeout =>
    if value.isEmpty then
      some (.invalidValue value option "cannot parse float from empty string")
    else if (Binary64.ofText? value).isNone then
      some (.invalidValue value option "invalid float literal")
    else none
  | _ => if value.isEmpty then some (.missingValue option) else none

namespace Reader

def empty : Reader := ⟨[], [], [], none, false⟩

/-- Gives an option its value. -/
def assign (r : Reader) (option : ValueOption) (value : String) : Except UsageError Reader :=
  if r.values.any (·.1 = option) then .error (.repeatedOption option.display)
  else
    match valueError? option value with
    | some error => .error error
    | none => .ok { r with values := r.values ++ [(option, value)] }

/-- Settles the pending option. -/
def settle (r : Reader) : Except UsageError Reader :=
  match r.pending with
  | none => .ok r
  | some ⟨option, none⟩ => .error (.missingValue option)
  | some ⟨option, some value⟩ => { r with pending := none }.assign option value

def addTag (r : Reader) (tag : String) : Except UsageError Reader := do
  let settled ← r.settle
  .ok { settled with tags := settled.tags ++ [tag] }

def addFlag (r : Reader) (flag : Flag) : Except UsageError Reader := do
  let settled ← r.settle
  match flag with
  | .help => .error .helpRequested
  | .version => .error .versionRequested
  | _ =>
    if settled.flags.contains flag then .error (.repeatedOption flag.display)
    else .ok { settled with flags := settled.flags ++ [flag] }

/-- An option with its value attached, or still without one. -/
def addOption (r : Reader) (option : ValueOption) (attached : Option String) :
    Except UsageError Reader := do
  let settled ← r.settle
  match attached with
  | some value => settled.assign option value
  | none => .ok { settled with pending := some ⟨option, none⟩ }

/-- A word that begins with two hyphens: a name and perhaps a value. -/
def addLong (r : Reader) (body : List Char) : Except UsageError Reader :=
  let name := String.ofList (body.takeWhile (· ≠ '='))
  let attached := match body.dropWhile (· ≠ '=') with
    | _ :: value => some (String.ofList value)
    | [] => none
  match OptionName.ofLong? name, attached with
  | none, _ => .error (.unknownArgument ("--" ++ name))
  | some (.value option), attached => r.addOption option attached
  | some (.flag flag), none => r.addFlag flag
  | some (.flag flag), some value => .error (.superfluousValue value flag)

/-- A word that begins with one hyphen: flags, then perhaps an option, whose value
is the rest of the word. -/
def addShorts (r : Reader) : List Char → Except UsageError Reader
  | [] => .ok r
  | c :: rest =>
    match OptionName.ofShort? c with
    | none => .error (.unknownArgument (String.ofList ['-', c]))
    | some (.flag flag) => do
      let more ← r.addFlag flag
      addShorts more rest
    | some (.value option) =>
      match rest with
      | [] => r.addOption option none
      | '=' :: value => r.addOption option (some (String.ofList value))
      | value => r.addOption option (some (String.ofList value))

/-- A word that is no option: the value that is waited for, or a tag. -/
def addPlain (r : Reader) (word : String) : Except UsageError Reader :=
  match r.pending with
  | some ⟨option, none⟩ => .ok { r with pending := some ⟨option, some word⟩ }
  | _ => r.addTag word

def addWord (r : Reader) (word : String) : Except UsageError Reader :=
  if r.tagsOnly then r.addTag word
  else
    match word.toList with
    | ['-', '-'] => .ok { r with tagsOnly := true }
    | '-' :: '-' :: body => r.addLong body
    | '-' :: c :: rest => r.addShorts (c :: rest)
    | _ => r.addPlain word

end Reader

/-- What a command line asks for. -/
structure Arguments where
  file : Path
  ignore : Bool
  dir : Path
  out : Path
  compiler : Path
  assembly : Path
  timeout : Option Binary64
  noColor : Bool
  report : Option Path
  tags : List String
deriving DecidableEq, Repr

/-- What a reader has been told, with defaults for the rest. -/
def Reader.arguments (r : Reader) : Arguments :=
  let value := fun option => r.values.lookup option
  let path := fun option (default : Path) => ((value option).map Path.mk).getD default
  { file := path .file Settings.default.specFile
    ignore := r.flags.contains .ignore
    dir := path .dir Settings.default.base
    out := path .out Settings.default.outDirectory
    compiler := path .compiler Settings.default.compiler
    assembly := path .assembly Settings.default.assembly
    timeout := (value .timeout).bind Binary64.ofText?
    noColor := r.flags.contains .noColor
    report := (value .report).map Path.mk
    tags := r.tags }

namespace Arguments

/-- Reads the words behind the program's name. -/
def parse (words : List String) : Except UsageError Arguments := do
  let read ← words.foldlM Reader.addWord Reader.empty
  let settled ← read.settle
  .ok settled.arguments

/-- A timeout counts only if it is positive and not too long. -/
def timeoutNanos (arguments : Arguments) : Option Nat :=
  match arguments.timeout with
  | some seconds => if Binary64.lt .zero seconds then nanosOfSeconds? seconds else none
  | none => none

def settings (arguments : Arguments) : Settings :=
  ⟨arguments.dir, arguments.file, arguments.out, arguments.compiler, arguments.assembly,
    arguments.timeoutNanos⟩

def selector (arguments : Arguments) : TagSelector := .ofTags arguments.tags arguments.ignore

end Arguments

end Conformance
