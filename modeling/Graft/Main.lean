import Graft.Command

/-!
# The program

Reads the part of the file system that a command can see, runs the command on it, and writes the
files that the command changed.
-/
namespace Graft.Main

/-- The names of a path from the root. -/
def locationOf (path : String) : Location := Location.ofPath [] (.parse path.toList)

def pathOf (l : Location) : String := String.ofList l.display

/-- The contents of a file, as a text if they are one. -/
def readContent (path : String) : IO Disk.Content := do
  let bytes ← IO.FS.readBinFile path
  match String.fromUTF8? bytes with
  | some s => return .text s.toList
  | none => return .raw bytes.toList

/-- The real path of what is there. -/
def real? (path : String) : IO (Option String) := do
  try return some (toString (← IO.FS.realPath path)) catch _ => return none

/-- What stands at a location whose directory is real, and all beneath it. A link is kept as a link
to its real path. -/
partial def snapshot (l : Location) (d : Disk) : IO Disk := do
  let path := pathOf l
  match ← real? path with
  | none => return d
  | some r =>
    if r != path then return d.set l (.link r.toList)
    try
      let names ← listing path
      names.foldlM (fun d name => snapshot (l ++ [name.toList]) d) (d.set l .directory)
    catch _ =>
      try return d.set l (.file (← readContent path) true) catch _ => return d
where
  listing (path : String) : IO (List String) := do
    let here ← IO.FS.realPath path
    return (← here.readDir).toList.map (·.fileName)

/-- Adds a tree, and the directories above it, to a disk. -/
def addTree (d : Disk) (path : String) : IO Disk := do
  match ← real? path with
  | none => return d
  | some r =>
    let l := locationOf r
    match d.makeDirectories l.dropLast with
    | .ok d => snapshot l d
    | .error _ => return d

/-- Adds a directory without what it holds. -/
def addDirectory (d : Disk) (path : String) : IO Disk := do
  match ← real? path with
  | none => return d
  | some r => return (d.makeDirectories (locationOf r)).toOption.getD d

/-- The paths a command looks at, beside the working directory. -/
def pathsOf : Command → List Text
  | .apply o => o.config.toList ++ o.root.toList
  | .find file _ helper | .check file helper _ => file :: helper.toList
  | .list root => root.toList
  | .version | .help => []

/-- Writes the files in which two disks differ. -/
def writeChanges (before after : Disk) : IO Unit := do
  for (l, item) in after.entries do
    match item with
    | .file (.text t) _ =>
      let same := match before.get? l with
        | some (.file (.text old) _) => old == t
        | _ => false
      unless same do
        let fresh := pathOf l ++ ".tmp"
        IO.FS.writeFile fresh (String.ofList t)
        IO.FS.rename fresh (pathOf l)
    | _ => pure ()

def print (p : Command.Printed) : IO Unit := do
  IO.print p.output
  IO.eprint p.errors
  (← IO.getStdout).flush

def finish (before : Disk) (r : Command.Reply) : IO UInt32 := do
  writeChanges before r.disk
  print r.printed
  return r.exit.toUInt32

/-- The next line of the standard input, if it is a text. -/
def readLine : IO (Except Disk.Fault Text) := do
  try
    let line ← (← IO.getStdin).getLine
    return .ok line.toList
  catch _ => return .error .notText

/-- Runs a command where the program was started. -/
def runHere (c : Command) : IO UInt32 := do
  let here := toString (← IO.currentDir)
  let home := (← IO.getEnv "HOME").getD ""
  let seen := here :: (pathsOf c).map fun t => String.ofList (Path.under here.toList t)
  let d ← addDirectory ⟨[]⟩ (String.ofList (Path.under home.toList ".gradle".toList))
  let d ← seen.foldlM addTree d
  match c.start ⟨d, locationOf here, home.toList⟩ with
  | .done r => finish d r
  | .ask printed answer =>
    print printed
    let line ← readLine
    finish d (answer (line.map fun t => Command.isYes (Command.firstLine t)))

end Graft.Main

def main (args : List String) : IO UInt32 := do
  match Graft.Command.parse? (args.map String.toList) with
  | some c => Graft.Main.runHere c
  | none =>
    IO.eprintln Graft.Command.usage
    return 2
