import EditorBridge.Host.Image
import EditorBridge.Shell.Start
import EditorBridge.Utility.Arguments
import EditorBridge.Utility.Blocks
import EditorBridge.Utility.Calculating
import EditorBridge.Utility.Comparing
import EditorBridge.Utility.Condition
import EditorBridge.Utility.Copying
import EditorBridge.Utility.Counting
import EditorBridge.Utility.Cutting
import EditorBridge.Utility.Dumping
import EditorBridge.Utility.Editing.Run
import EditorBridge.Utility.Files
import EditorBridge.Utility.Lines
import EditorBridge.Utility.Numbering
import EditorBridge.Utility.Numbers
import EditorBridge.Utility.Processes
import EditorBridge.Utility.Records.Run
import EditorBridge.Utility.Replacing
import EditorBridge.Utility.Searching
import EditorBridge.Utility.Sorting
import EditorBridge.Utility.Writing

/-!
# What a machine has from the start

Directories, special files, and the programs that can be run, with what each of them does.
-/
namespace EditorBridge.Host

open Utility (closing)

/-- Programs by their names that have a status of one when they fail. -/
def ordinary : List (String × Utility) :=
  [("arch", Utility.arch), ("base64", Utility.Dumping.base64),
    ("basename", Utility.basename), ("cat", Utility.cat),
    ("chmod", Utility.chmod), ("comm", Utility.comm), ("cp", Utility.cp), ("cut", Utility.cut),
    ("dd", Utility.Blocks.dd), ("dirname", Utility.dirname), ("echo", Utility.echo),
    ("expand", Utility.Numbering.expand), ("factor", Utility.Numbering.factor),
    ("fold", Utility.fold), ("head", Utility.head), ("id", Utility.identity),
    ("mkdir", Utility.mkdir), ("mv", Utility.mv), ("nl", Utility.Numbering.nl),
    ("od", Utility.Dumping.od), ("paste", Utility.paste), ("printf", Utility.printf),
    ("pwd", Utility.pwd), ("readlink", Utility.readlink), ("realpath", Utility.realpath),
    ("rev", Utility.rev), ("rm", Utility.rm), ("rmdir", Utility.rmdir),
    ("sed", Utility.Editing.sed), ("seq", Utility.Numbers.seq), ("setsid", Utility.setsid),
    ("sleep", Utility.sleep), ("split", Utility.Blocks.split), ("tac", Utility.tac),
    ("tail", Utility.tail), ("tee", Utility.tee), ("touch", Utility.touch),
    ("tr", Utility.Replacing.tr), ("truncate", Utility.Blocks.truncate),
    ("tty", Utility.tty), ("uname", Utility.uname),
    ("unexpand", Utility.Numbering.unexpand), ("uniq", Utility.uniq), ("wc", Utility.wc),
    ("which", Utility.which), ("whoami", Utility.whoami),
    ("xargs", Utility.Arguments.xargs), ("yes", Utility.yes)]

/-- Programs by their names that have another status when they fail. -/
def special : List (String × Nat × Utility) :=
  [("[", 2, Utility.bracket), ("awk", 2, Utility.Records.awk), ("mawk", 2, Utility.Records.awk),
    ("cmp", 2, Utility.Comparing.cmp), ("diff", 2, Utility.Comparing.diff),
    ("egrep", 2, Utility.Searching.egrep), ("env", 125, Utility.env),
    ("expr", 2, Utility.Calculating.expr),
    ("fgrep", 2, Utility.Searching.fgrep), ("grep", 2, Utility.Searching.grep),
    ("ls", 2, Utility.ls),
    ("nice", 125, Utility.nice), ("nohup", 125, Utility.nohup), ("printenv", 2, Utility.printenv),
    ("sort", 2, Utility.Sorting.sort), ("test", 2, Utility.test),
    ("timeout", 125, Utility.timeout)]

def programs : List (String × (List Raw → Act Nat)) :=
  [("sh", Shell.start), ("dash", Shell.start), ("true", Utility.succeed), ("false", Utility.fail)]
    ++ ordinary.map (fun (name, program) => (name, closing 1 program))
    ++ special.map fun (name, failure, program) => (name, closing failure program)

def program? (name : Raw) : Option (List Raw → Act Nat) := programs.lookup (String.ofList name)

namespace Image

def directories : List Path :=
  ["/bin", "/boot", "/dev", "/etc", "/home", "/lib", "/media", "/mnt", "/opt", "/proc", "/root",
    "/run", "/sbin", "/srv", "/sys", "/tmp", "/usr", "/usr/bin", "/usr/include", "/usr/lib",
    "/usr/local", "/usr/local/bin", "/usr/sbin", "/usr/share", "/var", "/var/cache", "/var/lib",
    "/var/log", "/var/tmp"].map Path.ofString

/-- The files of a fresh machine that hold its settings, with their lines. -/
def settings : List (String × List String) :=
  [("/etc/passwd",
      ["root:x:0:0:root:/root:/bin/bash", "daemon:x:1:1:daemon:/usr/sbin:/usr/sbin/nologin",
        "bin:x:2:2:bin:/bin:/usr/sbin/nologin",
        "nobody:x:65534:65534:nobody:/nonexistent:/usr/sbin/nologin"]),
    ("/etc/group", ["root:x:0:", "daemon:x:1:", "bin:x:2:", "nogroup:x:65534:"]),
    ("/etc/hosts", ["127.0.0.1\tlocalhost"]),
    ("/etc/hostname", ["localhost"]),
    ("/etc/shells", ["/bin/sh", "/usr/bin/sh", "/bin/dash", "/usr/bin/dash"])]

/-- The directories in which programs are installed. -/
def searchPath : List Path := ["/usr/bin", "/bin"].map Path.ofString

def locationOf (path : Path) : Location := (Path.split path).filter (· ≠ [])

def devices : List Path :=
  ["/dev/null", "/dev/zero", "/dev/full", "/dev/stdin", "/dev/stdout", "/dev/stderr"].map
    Path.ofString

/-- A tree with the installed programs and the special files. -/
def install (tree : FileTree) : FileTree :=
  let tree := directories.foldl (fun tree path => tree.put (locationOf path) .directory) tree
  let tree := settings.foldl (fun tree (path, lines) =>
    tree.put (locationOf (Path.ofString path))
      (.file (lines.flatMap fun line => Utf8.encode (line ++ "\n")) false)) tree
  let tree := devices.foldl (fun tree path => tree.put (locationOf path) (.file [] false)) tree
  searchPath.foldl (fun tree place =>
    programs.foldl (fun tree (name, _) =>
      tree.put (locationOf place ++ [Utf8.encode name]) (file name.toList)) tree) tree

end Image

end EditorBridge.Host
