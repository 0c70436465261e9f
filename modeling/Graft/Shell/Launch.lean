import Graft.Shell.Builtin
import Graft.Shell.Host
import Graft.Shell.Read

/-!
# Starting processes

How files are opened for a command, how programs are found, what a new process begins with and what
it leaves to the one that waits for it.
-/
namespace Graft.Shell

/-! ## Opening files -/

private def openMessage (f : Disk.Fault) (absent : String) : Bytes :=
  match f with
  | .notFound | .notDirectory => absent.toList
  | f => f.reason.toList

/-- What is opened by a path, or why it cannot be opened. -/
def openPath (s : State) (opening : Opening) (path : Bytes) : Except Bytes (State × Nat) :=
  let cannot (verb : String) (why : Bytes) : Except Bytes (State × Nat) :=
    .error ("cannot ".toList ++ verb.toList ++ ' ' :: path ++ ": ".toList ++ why)
  let special (source : Source) : Except Bytes (State × Nat) :=
    .ok (s.openSource ⟨source, 0, false, true, true⟩)
  let same (n : Nat) : Except Bytes (State × Nat) :=
    match s.opened? n with
    | some (i, _) => .ok (s, i)
    | none => cannot "open" "No such device or address".toList
  match device? path, opening with
  | some .null, _ => special .null
  | some .full, _ => special .full
  | some .zeros, .read => .ok (s.openPipe manyZeros State.unlimited)
  | some .zeros, _ => special .null
  | some .input, _ => same 0
  | some .output, _ => same 1
  | some .errors, _ => same 2
  | none, .read =>
    match s.disk.reach s.here path.toText with
    | .error f => cannot "open" (openMessage f "No such file")
    | .ok l =>
      match s.disk.get? l with
      | some (.file content _) =>
        .ok (s.openSource ⟨.file l content.bytes none, 0, false, true, false⟩)
      | _ => .ok (s.openSource ⟨.directory, 0, false, true, false⟩)
  | none, opening =>
    match s.place path with
    | .error f => cannot "create" (openMessage f "Directory nonexistent")
    | .ok l =>
      let isThere := (s.disk.get? l).isSome
      if opening == .write && s.has 'C' && isThere then
        cannot "create" Disk.Fault.alreadyExists.reason.toList
      else
        let keeps := opening == .append || opening == .both
        let s := if keeps && isThere then s else s.store l false []
        .ok (s.openSource ⟨.file l [] none, 0, opening == .append, opening == .both, true⟩)

/-- Redirects a descriptor. The flag says whether that was possible. -/
def openChannel (s : State) (descriptor : Nat) (opening : Opening) (word : Bytes) : State × Bool :=
  match opening with
  | .document =>
    let (s, i) := s.openPipe word State.unlimited
    (s.setDescriptor descriptor i, true)
  | .duplicate =>
    match word with
    | ['-'] => (s.closeDescriptor descriptor, true)
    | [c] =>
      let n := c.toNat - '0'.toNat
      if n == descriptor then (s, true)
      else
        match s.opened? n with
        | some (i, _) => (s.setDescriptor descriptor i, true)
        | none => (s.report 2 (word ++ ": Bad file descriptor".toList), false)
    | _ => (s, true)
  | opening =>
    match openPath s opening word with
    | .ok (s, i) => (s.setDescriptor descriptor i, true)
    | .error message => (s.report 2 message, false)

/-- Whether a word can name a descriptor that is duplicated. -/
def isDescriptor : Bytes → Bool
  | [c] => c.isDigit || c == '-'
  | _ => false

/-! ## Programs -/

/-- The variables that a program is told. They come in the order of the sums of their characters. -/
def environment (s : State) : List (Bytes × Bytes) :=
  let bucket (name : Bytes) : Nat :=
    ((name.headD (Char.ofNat 0)).toNat * 16 + (name.map Char.toNat).foldl (· + ·) 0) % 39
  let told := s.bindings.reverse.filterMap fun (name, v) =>
    if v.exported then v.value.map (name, ·) else none
  told.mergeSort fun a b => bucket a.1 ≤ bucket b.1

/-- The directories in which programs are looked for. A process that was told none has two. -/
def searchPath (s : State) : List Bytes :=
  match s.binding? "PATH".toList with
  | none => ["/bin".toList, "/usr/bin".toList]
  | some v => Bytes.split ':' (v.value.getD [])

/-- A path in a directory; an empty directory is the current one. -/
def inDirectory (directory name : Bytes) : Bytes :=
  if directory.isEmpty then name
  else if directory.getLast? == some '/' then directory ++ name
  else directory ++ '/' :: name

private def isFileAt (s : State) (path : Bytes) : Bool := s.disk.isFile s.here path.toText

/-- The path of a program that is looked for by its name. Files that can be run come first. -/
def search? (s : State) (name : Bytes) : Option Bytes :=
  let found := ((searchPath s).map (inDirectory · name)).filter (isFileAt s)
  let runs (path : Bytes) : Bool := match s.disk.reach s.here path.toText with
    | .ok l => (s.disk.get? l matches some (.file _ true))
    | .error _ => false
  found.find? runs <|> found.head?

/-- What a path that is run leads to. -/
inductive Executable where
  | program (name : Bytes)
  | script (content : Bytes)

/-- Finds what a path leads to, if that can be run. -/
def executable (programs : List Text) (d : Disk) (here : Location) (path : Text) :
    Except Disk.Fault Executable := do
  let l ← d.reach here path
  match d.get? l with
  | some (.file content true) =>
    let b := content.bytes
    match (if b.isEmpty then Host.program? programs l else none) with
    | some name => .ok (.program name)
    | none => .ok (.script b)
  | _ => .error .permissionDenied

/-- The interpreter that the first line of a script names, and its argument. -/
def interpreter? (content : Bytes) : Option (Bytes × List Bytes) :=
  match content with
  | '#' :: '!' :: r =>
    let line := (r.takeWhile (· != '\n')).dropWhile isGap
    let line := (line.reverse.dropWhile isGap).reverse
    let path := line.takeWhile (!isGap ·)
    let argument := (line.drop path.length).dropWhile isGap
    if path.isEmpty then none
    else some (path, if argument.isEmpty then [] else [argument])
  | _ => none

/-- The words that a shell itself understands. -/
def keywords : List Bytes := reserved

/-- What a command is, in words or as it can be called. -/
def describe (s : State) (inWords : Bool) (name : Bytes) : State :=
  let shown (words plain : Bytes) : State :=
    (s.print ((if inWords then name ++ words else plain) ++ ['\n'])).finish 0
  let absent : State := (if inWords then s.print (name ++ ": not found\n".toList) else s).finish 127
  if keywords.contains name then shown " is a shell keyword".toList name
  else
    match s.aliases.lookup name with
    | some value =>
      shown (" is an alias for ".toList ++ value) ("alias ".toList ++ name ++
        '=' :: Builtin.quote value)
    | none =>
      if s.functions.any (·.1 == name) then shown " is a shell function".toList name
      else if Builtin.special.contains name then shown " is a special shell builtin".toList name
      else if Builtin.names.contains name then shown " is a shell builtin".toList name
      else if name.contains '/' then
        match s.disk.reach s.here name.toText with
        | .ok _ => shown (" is ".toList ++ name) name
        | .error _ => absent
      else
        match search? s name with
        | some path =>
          let isKnown := s.hashed.contains name
          let how := if isKnown then " is a tracked alias for " else " is "
          let after := shown (how.toList ++ path) path
          if isKnown then after else { after with hashed := after.hashed ++ [name] }
        | none => absent

/-! ## Processes -/

/-- The first place for a job from a number on: one that is free, or that of a job which is over and
is then forgotten. -/
private def freeSlotFrom (s : State) : Nat → Nat → State × Nat
  | 0, n => (s, n)
  | fuel + 1, n =>
    match s.jobs.find? fun j => j.isOf s.self && j.slot == n with
    | none => (s, n)
    | some j =>
      if j.isOver then ({ s with jobs := s.jobs.filter (·.number != j.number) }, n)
      else freeSlotFrom s fuel (n + 1)

/-- The first place for a job. -/
def freeSlot (s : State) : State × Nat := freeSlotFrom s s.jobs.length 1

/-- A copy of a shell that runs beside it. Only signals that are ignored stay so. -/
def fork (s : State) : State :=
  let s := (freeSlot s).1
  { s with
    self := s.lastProcess + 1
    lastProcess := s.lastProcess + 1
    traps := s.traps.filter fun t => t.1 != 0 && t.2.isEmpty
    halt := none }

/-- How a process ended. -/
def ending (s : State) : Ending :=
  match s.halt with
  | some (.ended (.exited n)) => .exited (n % 256)
  | some (.ended e) => e
  | _ => .exited (s.status % 256)

/-- What a process that ran beside this one leaves in common. -/
def rejoin (s child : State) : State :=
  { child with
    toProcess := { s.toProcess with status := (ending child).status }
    lost := s.lost
    halt := s.halt }

/-- Says which signal ended a process that was waited for. -/
def announce (s : State) (e : Ending) : State :=
  match e with
  | .killed n =>
    let text := Signal.text n
    if text.isEmpty then s else s.complain s.status text.toList
  | .exited _ => s

/-- The shell gets to know which of its jobs have ended. -/
def noticeJobs (s : State) : State :=
  if s.jobs.isEmpty then s
  else { s with jobs := s.jobs.map fun j => if j.isOf s.self then j.notice else j }

/-- The process goes on after one that it waited for. -/
def resume (s child : State) : State := noticeJobs (announce (rejoin s child) (ending child))

/-- The variables of a new shell: what it is told, and what every shell has. -/
def firstBindings (s : State) : Variables :=
  let own (name value : String) : Bytes × Variable :=
    (name.toList, ⟨some value.toList, false, false⟩)
  let told := (s.bindings.filter fun v => v.2.exported && v.2.value.isSome).map fun (n, v) =>
    (n, { v with fixed := false })
  let wanted :=
    [own "OPTIND" "1", own "IFS" " \t\n", own "PS1" "# ", own "PS2" "> ", own "PS4" "+ ",
    own "PPID" (toString s.self)]
  let path := if told.any (·.1 == "PATH".toList) then []
    else [own "PATH" "/usr/local/sbin:/usr/local/bin:/usr/sbin:/usr/bin:/sbin:/bin"]
  let others := told.filter fun v => v.1 != "PWD".toList && !wanted.any (·.1 == v.1)
  let here := s.herePath
  ("PWD".toList, ⟨some here, true, false⟩) :: others ++ wanted ++ path

/-- A new shell in place of a process. -/
def newShell (s : State) (flavor : Flavor) (name : Bytes) : State :=
  let told := (s.textOf "PWD").getD []
  let isHere := told.head? == some '/' &&
    (s.disk.canonicalize [] (Bytes.toText told)).toOption == some s.here
  let s := { s with herePath := if isHere then told else .ofText s.here.display }
  { s with
    flavor, name
    command := []
    arguments := []
    bindings := firstBindings s
    functions := []
    aliases := []
    options := []
    line := 1
    status := 0
    substituted := 0
    tested := false
    loops := 0
    depth := 0
    locals := none
    optionIndex := 1
    optionOffset := none
    hashed := []
    shell := s.self
    lastJob := none }

/-- The shell is told on its command line what to do. -/
inductive Task where
  | script (text : Bytes)
  | file (path : Bytes)
  | input

/-- Reads the arguments of a shell: options, and what to run with which name and arguments. -/
def task : Nat → Bool → State → List Bytes → State × Task
  | 0, _, s, _ => (s, .input)
  | fuel + 1, isText, s, args =>
    let operands (args : List Bytes) : State × Task :=
      match isText, args with
      | true, script :: name :: rest => ({ s with name, arguments := rest }, .script script)
      | true, [script] => (s, .script script)
      | true, [] => ({ s with line := 0 }.abort "-c requires an argument".toList, .input)
      | false, [] => (s.setOption 's' true, .input)
      | false, file :: rest =>
        if s.has 's' then ({ s with arguments := file :: rest }, .input)
        else ({ s with name := file, arguments := rest }, .file file)
    match args with
    | (sign :: c :: r) :: rest =>
      if sign != '-' && sign != '+' then operands args
      else if [c, r.headD ' '] == ['-', ' '] then operands rest
      else
        let letters := (c :: r).filter (· != 'c')
        let (s', rest) := Builtin.letterOptions (sign == '-') { s with line := 0 } letters rest
        if s'.halt.isSome then (s', .input)
        else task fuel (isText || letters.length ≤ r.length) { s' with line := 1 } rest
    | ['-'] :: rest => operands rest
    | args => operands args

/-- A process that has done nothing yet. -/
def start (d : Disk) (here : Location) (told : List (Bytes × Bytes)) (input : Bytes) : State :=
  let first : State := {
    here
    herePath := .ofText here.display
    flavor := .plain
    called := []
    command := []
    name := []
    arguments := []
    bindings := told.map fun (name, value) => (name, ⟨some value, true, false⟩)
    functions := []
    aliases := []
    descriptors := [(0, 0), (1, 1), (2, 2)]
    options := []
    mask := 0o022
    status := 0
    substituted := 0
    line := 1
    tested := false
    loops := 0
    depth := 0
    locals := none
    traps := []
    optionIndex := 1
    optionOffset := none
    hashed := []
    self := State.firstProcess
    shell := State.firstProcess
    deadline := none
    kept := d
    tail := none
    opened := #[]
    jobs := []
    lastProcess := State.firstProcess
    lastJob := none
    lost := none
    starved := false
    pending := []
    clock := 0
    stamps := []
    changes := 0
    modes := []
    owners := []
    twins := []
    halt := none }
  let (s, _) := first.openPipe input State.unlimited
  let (s, _) := s.openPipe [] State.unlimited
  (s.openPipe [] State.unlimited).1

/-- What a process left behind. -/
def outcome (s : State) : Outcome := ⟨ending s, s.held 1, s.held 2⟩

end Graft.Shell
