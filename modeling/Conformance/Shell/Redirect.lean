import Conformance.Shell.Expand

/-!
# Redirections

The words of redirections are expanded first, then they are carried out in order.
What they replace is kept under descriptors with high numbers, to be brought back.
-/

namespace Conformance.Shell

open Machine

/-- A redirection whose word has been expanded. -/
inductive Prepared where
  | file (descriptor : Nat) (path : String) (transfer : Transfer)
  | copy (descriptor source : Nat)
  | shut (descriptor : Nat)
  | text (descriptor : Nat) (content : String)
  /-- Output and errors to a file. -/
  | both (path : String) (append : Bool)

namespace Prepared

def descriptor : Prepared → Nat
  | .file n _ _ => n
  | .copy n _ => n
  | .shut n => n
  | .text n _ => n
  | .both _ _ => 1

end Prepared

/-- The reason for a failure to open a file, in the words of a shell. -/
def openReason (creates : Bool) (fault : Fault) : String :=
  if fault = .notFound || fault = .notDirectory then
    if creates then "Directory nonexistent" else "No such file"
  else fault.text

/-- The least descriptor for what is kept aside. -/
def asideFrom : Nat := 10

/-- How much is written into a pipe at once by the shell itself. -/
def pipeText : Nat := 4096

namespace Sh

/-- Complains about a file that cannot be opened. -/
def failOpening {α : Type} (path : String) (creates : Bool) (fault : Fault) : Sh α := do
  match (← get).dialect with
  | .standard =>
    fail ((if creates then "cannot create " else "cannot open ") ++ path ++ ": " ++
      openReason creates fault)
  | .extended =>
    modify fun session => { session with command := none }
    warn (path ++ ": " ++ fault.text)
    setStatus 1
    throw .mistake

def prepareCopy (runner : Runner) (descriptor : Nat) (target : Word) : Sh Prepared := do
  let words ← match bare? target with
    | some text => pure [text]
    | none => Expand.fieldsOf runner target
  match words with
  | text :: _ =>
    match text.toList with
    | ['-'] => return .shut descriptor
    | [d] => if d.isDigit then return .copy descriptor (d.toNat - '0'.toNat) else bad text
    | digits =>
      if (← get).dialect = .extended then
        if digits.all Char.isDigit then return .copy descriptor ((digitsAt 10 digits).1.getD 0)
        else return .both text false
      else bad text
  | [] => fail "redir error"
where
  bad (text : String) : Sh Prepared := do
    if (← get).dialect = .extended then return .both text false
    else fail "Syntax error: Bad fd number"

def prepare (runner : Runner) : Redirection → Sh Prepared
  | .mk descriptor transfer target => do
    match transfer with
    | .duplicate => prepareCopy runner descriptor target
    | .document number =>
      let content := ((← get).documents.lookup number).getD []
      return .text descriptor (← Expand.quotedText runner content)
    | .line => return .text descriptor ((← Expand.text runner target) ++ "\n")
    | .both append => return .both (← Expand.text runner target) append
    | _ => return .file descriptor (← Expand.text runner target) transfer

def keepAside (descriptor : Nat) : Sh Unit := do
  let session ← get
  match session.replaced with
  | frame :: others =>
    if !frame.any (·.1 = descriptor) then
      let aside ← match ← Activity.ask (.copy descriptor asideFrom false) with
        | .number n => do
          Activity.close descriptor
          pure (some n)
        | _ => pure none
      set { session with replaced := ((descriptor, aside) :: frame) :: others }
  | [] => pure ()

def lead (opened descriptor : Nat) : Sh Unit := do
  if opened ≠ descriptor then
    let _ ← Activity.ask (.redirect opened descriptor)
    Activity.close opened

def openingFor : Transfer → Opening
  | .input => .input
  | .append => .append
  | .readWrite => ⟨true, true, false, true, false, false, true⟩
  | _ => .output

/-- A descriptor for a text.  A long one is written by a process of its own. -/
def openText (content : String) : Sh Nat := do
  match ← Activity.makePipe with
  | .error _ => fail "Pipe call failed"
  | .ok (reader, writer) =>
    let data := dataOfRaw content
    if data.size ≤ pipeText then
      let _ ← Activity.write writer data
    else
      let _ ← Activity.fork fun _ =>
        .ask (.close reader) fun _ => .ask (.write writer data) fun _ => .exit 0
    Activity.close writer
    return reader

def openTarget (path : String) (transfer : Transfer) : Sh Nat := do
  let session ← get
  let creates := transfer ≠ .input
  let guarded := transfer = .output && session.has 'C'
  let how := openingFor transfer
  if guarded then
    match ← Activity.examine path with
    | .ok info =>
      if info.kind = .regular then
        if session.dialect = .extended then
          warn (path ++ ": cannot overwrite existing file")
          setStatus 1
          throw .mistake
        else failOpening path true .exists
    | .error _ => pure ()
  match ← Activity.openFile path how with
  | .ok opened => return opened
  | .error fault => failOpening path creates fault

/-- Carries out a redirection.  With `keeps`, what it replaces is kept aside. -/
def redirect (keeps : Bool) (prepared : Prepared) : Sh Unit := do
  let aside (descriptor : Nat) : Sh Unit := if keeps then keepAside descriptor else pure ()
  match prepared with
  | .file descriptor path transfer =>
    let opened ← openTarget path transfer
    if opened = descriptor then
      if keeps then modify fun session => { session with
        replaced := match session.replaced with
          | frame :: others =>
            (if frame.any (·.1 = descriptor) then frame else (descriptor, none) :: frame) :: others
          | [] => [] }
    else
      aside descriptor
      lead opened descriptor
  | .text descriptor content =>
    let opened ← openText content
    if opened = descriptor then
      if keeps then modify fun session => { session with
        replaced := match session.replaced with
          | frame :: others =>
            (if frame.any (·.1 = descriptor) then frame else (descriptor, none) :: frame) :: others
          | [] => [] }
    else
      aside descriptor
      lead opened descriptor
  | .both path append =>
    let opened ← openTarget path (if append then .append else .output)
    aside 1
    aside 2
    lead opened 1
    let _ ← Activity.ask (.redirect 1 2)
  | .shut descriptor =>
    aside descriptor
    Activity.close descriptor
  | .copy descriptor source =>
    if descriptor ≠ source then
      aside descriptor
      match ← Activity.attemptTo (.redirect source descriptor) with
      | none => pure ()
      | some fault =>
        modify fun session => { session with
          command := if session.dialect = .extended then none else session.command }
        fail (toString source ++ ": " ++ fault.text)

def redirectAll (keeps : Bool) (all : List Prepared) : Sh Unit := do
  for prepared in all do
    redirect keeps prepared

def pushReplaced : Sh Unit := modify fun session => { session with
  replaced := [] :: session.replaced }

/-- Brings back the descriptors that the innermost command has replaced, or, with
`drops`, leaves them as they are. -/
def popReplaced (drops : Bool) : Sh Unit := do
  let session ← get
  match session.replaced with
  | [] => pure ()
  | frame :: others =>
    set { session with replaced := others }
    for (descriptor, aside) in frame do
      match aside with
      | some kept =>
        if !drops then
          let _ ← Activity.ask (.redirect kept descriptor)
        Activity.close kept
      | none => if !drops then Activity.close descriptor

/-- Brings back descriptors until so many commands are left; `fuel` bounds them. -/
def unwindReplaced (level : Nat) : (fuel : Nat) → Sh Unit
  | 0 => return
  | fuel + 1 => do
    if level < (← get).replaced.length then
      popReplaced false
      unwindReplaced level fuel

/-- Redirects, and tells whether that failed: the status is then in the session. -/
def redirectSafely (keeps : Bool) (all : List Prepared) : Sh Bool := do
  match ← Activity.attempt (redirectAll keeps all) with
  | .ok _ => return false
  | .error .mistake => return true
  | .error other => throw other

end Sh

end Conformance.Shell
