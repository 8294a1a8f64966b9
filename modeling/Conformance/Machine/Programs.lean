import Conformance.Machine.Kernel
import Conformance.Machine.Snapshot
import Conformance.Shell.Start
import Conformance.Tool.Accounts
import Conformance.Tool.Arguments
import Conformance.Tool.Calendar
import Conformance.Tool.Diff
import Conformance.Tool.Dump
import Conformance.Tool.Edit
import Conformance.Tool.Encoding
import Conformance.Tool.Fields
import Conformance.Tool.Find
import Conformance.Tool.Installing
import Conformance.Tool.Launch
import Conformance.Tool.Listing
import Conformance.Tool.Moving
import Conformance.Tool.Numbers
import Conformance.Tool.Octets
import Conformance.Tool.Ordering
import Conformance.Tool.Pairs
import Conformance.Tool.Paragraph
import Conformance.Tool.Pieces
import Conformance.Tool.Plain
import Conformance.Tool.Records
import Conformance.Tool.Scaled
import Conformance.Tool.Search
import Conformance.Tool.Show
import Conformance.Tool.Sort
import Conformance.Tool.Sums
import Conformance.Tool.Translate
import Conformance.Tool.Usage
import Conformance.Tool.WordOptions

/-!
# The programs of the machine

Which programs there are, how they are started, and the disk on which they lie.
-/

namespace Conformance.Machine

/-- Shells, and the language each of them reads. -/
def shells : List (String × Shell.Dialect) :=
  [("sh", .standard), ("dash", .standard), ("bash", .extended)]

/-- The tools of the machine. -/
def tools : List (String × Tool.Utility) :=
  [("true", Tool.constant 0), ("false", Tool.constant 1), ("sync", Tool.constant 0),
    ("echo", Tool.echo), ("printf", Tool.printf), ("test", Tool.test), ("[", Tool.bracket),
    ("pwd", Tool.pwd), ("whoami", Tool.oneLine Tool.userName), ("arch", Tool.oneLine "x86_64"),
    ("id", Tool.identity), ("uname", Tool.uname), ("tty", Tool.tty), ("yes", Tool.yes),
    ("sleep", Tool.sleep), ("timeout", Tool.timeout), ("env", Tool.env),
    ("printenv", Tool.printenv), ("which", Tool.which), ("nice", Tool.nice),
    ("nohup", Tool.nohup), ("setsid", Tool.setsid), ("kill", Tool.kill),
    ("cat", Tool.cat), ("tac", Tool.tac), ("rev", Tool.rev), ("head", Tool.head),
    ("tail", Tool.tail), ("nl", Tool.nl), ("tee", Tool.tee), ("wc", Tool.wc),
    ("cut", Tool.cut), ("paste", Tool.paste), ("fold", Tool.fold), ("expand", Tool.expand),
    ("unexpand", Tool.unexpand), ("comm", Tool.comm), ("join", Tool.join),
    ("sort", Tool.sort), ("uniq", Tool.uniq), ("tr", Tool.tr), ("od", Tool.od),
    ("base64", Tool.codeTool .base64), ("base32", Tool.codeTool .base32),
    ("basenc", Tool.basenc), ("cmp", Tool.cmp), ("dd", Tool.dd), ("seq", Tool.seq),
    ("expr", Tool.expr), ("factor", Tool.factor), ("chmod", Tool.chmod),
    ("basename", Tool.basename), ("dirname", Tool.dirname), ("readlink", Tool.readlink),
    ("realpath", Tool.realpath), ("date", Tool.date), ("mkdir", Tool.mkdir),
    ("rmdir", Tool.rmdir), ("touch", Tool.touch), ("truncate", Tool.truncate),
    ("ln", Tool.ln), ("unlink", Tool.unlink), ("link", Tool.link), ("mkfifo", Tool.mkfifo),
    ("mktemp", Tool.mktemp), ("rm", Tool.rm), ("cp", Tool.cp), ("mv", Tool.mv),
    ("ls", Tool.ls), ("stat", Tool.stat), ("grep", Tool.grep), ("egrep", Tool.egrep),
    ("fgrep", Tool.fgrep), ("sed", Tool.sed), ("diff", Tool.diff), ("find", Tool.find),
    ("xargs", Tool.xargs), ("split", Tool.split), ("tsort", Tool.tsort),
    ("shuf", Tool.shuf), ("fmt", Tool.fmt),
    ("numfmt", Tool.numfmt), ("du", Tool.du),
    ("install", Tool.install), ("getopt", Tool.getopt), ("groups", Tool.groups),
    ("logname", Tool.logname), ("who", Tool.noUsers), ("users", Tool.noUsers),
    ("chown", Tool.chown), ("chgrp", Tool.chgrp), ("nproc", Tool.nproc),
    ("hostname", Tool.oneLine "localhost"), ("stty", Tool.stty), ("stdbuf", Tool.stdbuf),
    ("pathchk", Tool.pathchk), ("iconv", Tool.iconv), ("mknod", Tool.mknod), ("dir", Tool.dir), ("vdir", Tool.vdir), ("sum", Tool.sum), ("cksum", Tool.cksum),
    ("md5sum", Tool.digestTool .md5), ("sha1sum", Tool.digestTool .sha1),
    ("sha224sum", Tool.digestTool .sha224), ("sha256sum", Tool.digestTool .sha256),
    ("sha384sum", Tool.digestTool .sha384), ("sha512sum", Tool.digestTool .sha512),
    ("b2sum", Tool.digestTool .blake2b),
    ("awk", Tool.awk), ("mawk", Tool.awk)]

/-- Every name under which a program can be started. -/
def programNames : List String := shells.map (·.1) ++ tools.map (·.1)

/-- A program that begins. -/
def load (image : Image) (environment : List String) : Process :=
  match shells.lookup image.program with
  | some dialect => Shell.shellProcess dialect image.arguments environment
  | none =>
    match tools.lookup image.program with
    | some tool =>
      Tool.Work.toProcess (tool (image.arguments.drop 1))
        ⟨image.arguments.headD "", environment, [], 0, 0, 1, none⟩
    | none => .exit 127

/-- Devices by name. -/
def devices : List (String × Device) :=
  [("null", .null), ("zero", .zero), ("full", .full), ("stdin", .descriptor 0),
    ("stdout", .descriptor 1), ("stderr", .descriptor 2)]

/-- How many descriptors can be opened by name. -/
def namedDescriptors : Nat := 256

/-- A disk with the programs and devices, and with a directory for everybody. -/
def systemDisk : Disk :=
  let directory (mode : Nat) (above : Nat) : Inode := ⟨.directory above [], mode, false, 0, 1⟩
  let folders := ["dev", "etc", "home", "root", "var", "usr"].foldl
    (fun disk name => Disk.install disk [name] (directory Disk.directoryMode)) Disk.empty
  let deeper := [["usr", "bin"], ["usr", "local"], ["usr", "local", "bin"], ["dev", "fd"]].foldl
    (fun disk place => Disk.install disk place (directory Disk.directoryMode)) folders
  let shared := deeper.install ["tmp"] (directory 1023)
  let linked := shared.install ["bin"] fun _ => ⟨.link "usr/bin", 511, false, 0, 1⟩
  let program (name : String) (_ : Nat) : Inode := ⟨.program name, Disk.directoryMode, false, 0, 1⟩
  let filled := programNames.foldl
    (fun disk name => Disk.install disk ["usr", "bin", name] (program name)) linked
  let device (kind : Device) (_ : Nat) : Inode := ⟨.device kind, 438, false, 0, 1⟩
  let equipped := devices.foldl
    (fun disk (name, kind) => Disk.install disk ["dev", name] (device kind)) filled
  (List.range namedDescriptors).foldl (fun disk number =>
    Disk.install disk ["dev", "fd", toString number] (device (.descriptor number))) equipped

end Conformance.Machine
