import Graft.Shell.Tool.Awk
import Graft.Shell.Tool.Blocks
import Graft.Shell.Tool.Columns
import Graft.Shell.Tool.Compare
import Graft.Shell.Tool.Digest
import Graft.Shell.Tool.Dump
import Graft.Shell.Tool.Expr
import Graft.Shell.Tool.Find
import Graft.Shell.Tool.Grep
import Graft.Shell.Tool.Listing
import Graft.Shell.Tool.Number
import Graft.Shell.Tool.Order
import Graft.Shell.Tool.Permission
import Graft.Shell.Tool.Pieces
import Graft.Shell.Tool.Sed
import Graft.Shell.Tool.System
import Graft.Shell.Tool.Text
import Graft.Shell.Tool.Transfer
import Graft.Shell.Tool.Xargs

/-!
# Programs of the system

The programs that scripts call, by name.
-/
namespace Graft.Shell.Tool

/-- Programs that run no others. -/
private def plain : List (String × (State → List Bytes → State)) :=
  [("cat", cat), ("tac", tac), ("rev", rev), ("tee", tee), ("head", head), ("tail", tail),
    ("wc", wc), ("nl", nl), ("fold", fold), ("expand", expand), ("unexpand", unexpand),
    ("cut", cut), ("paste", paste), ("tr", tr), ("sort", sort), ("uniq", uniq), ("comm", comm),
    ("join", join), ("tsort", tsort), ("rm", rm), ("rmdir", rmdir), ("mkdir", mkdir),
    ("touch", touch), ("cp", cp), ("mv", mv), ("ln", ln), ("readlink", readlink),
    ("realpath", realpath), ("basename", basename), ("dirname", dirname), ("chmod", chmod),
    ("chown", chown), ("chgrp", chgrp),
    ("truncate", truncate), ("mktemp", mktemp), ("ls", ls), ("stat", stat), ("du", du),
    ("printenv", printenv), ("sleep", sleep), ("echo", echoWords), ("printf", printWords),
    ("test", testWords), ("[", bracketWords), ("true", fun s _ => s), ("yes", yes),
    ("false", fun s _ => s.finish 1), ("pwd", workingDirectory), ("which", which),
    ("whoami", whoami), ("groups", groups), ("id", id), ("uname", uname), ("arch", arch),
    ("nproc", nproc), ("hostname", hostname), ("tty", tty), ("logname", logname), ("users", users),
    ("who", users), ("pathchk", pathchk), ("dir", dir), ("vdir", vdir),
    ("getconf", getconf), ("date", date),
    ("sync", fun s _ => s), ("seq", seq), ("factor", factor), ("shuf", shuf), ("numfmt", numfmt),
    ("cksum", cksum), ("sum", sum), ("base64", base64), ("base32", base32), ("od", od), ("dd", dd),
    ("install", install), ("unlink", unlink), ("link", link), ("cmp", cmp),
    ("diff", diff), ("sdiff", sdiff), ("grep", grep), ("egrep", egrep), ("fgrep", fgrep),
    ("expr", expr)]

/-- Programs that run others. -/
private def running : List (String × (Launch → State → List Bytes → State)) :=
  [("env", env), ("timeout", timeout), ("nice", nice), ("nohup", nohup), ("stdbuf", stdbuf),
    ("setsid", setsid), ("sed", sed), ("awk", awk), ("mawk", awk), ("find", find), ("xargs", xargs),
    ("split", split)]

/-- Programs that print digests. -/
private def digesting : List (String × (State → List Bytes → State)) :=
  digestKinds.map fun (name, k) => (name, digestSum k)

/-- The programs and what they do. -/
def table : List (String × (Launch → State → List Bytes → State)) :=
  ((plain ++ digesting).map fun (name, f) => (name, fun _ => f)) ++ running

def find? (name : Bytes) : Option (Launch → State → List Bytes → State) :=
  table.lookup (String.ofList name)

end Graft.Shell.Tool
