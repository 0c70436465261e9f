import Graft.Shell.Expand
import Graft.Shell.Job

/-!
# Simple commands

A simple command is expanded, its redirections are opened and its assignments made; then a function,
a command of the shell or a program is called. Redirections last as long as the command, and so do
assignments unless the command is a special one.
-/
namespace Graft.Shell

/-- Shows a command before it runs. The redirections of the command do not apply. -/
private def showWords (s : State) (mark : Bytes) (descriptors : List (Nat × Nat))
    (assigned : List (Bytes × Bytes)) (words : List Bytes) : State :=
  let shown := assigned.map (fun (name, value) => name ++ '=' :: value) ++ words
  if shown.isEmpty then s
  else
    let t := mark ++ Text.join [' '] shown ++ ['\n']
    { ({ s with descriptors } : State).write 2 t with descriptors := s.descriptors, lost := s.lost }

/-- Runs a command of the shell under its name. Output that was lost is an error. -/
def within (careful : Bool) (s : State) (name : Bytes) (body : State → State) : State :=
  let after := body { s with command := name, lost := none }
  let after := match after.lost with
    | some _ =>
      let s := after.report 1 (name ++ ": I/O error".toList)
      { s with status := if after.status == 0 then 1 else after.status }
    | none => after
  let forgiven := after.halt == some .failed && (careful || !Builtin.special.contains name)
  { after with command := s.command, lost := s.lost, halt := if forgiven then none else after.halt }

/-- Says what commands are. -/
private def describeAll (s : State) (names : List Bytes) : State :=
  names.foldl (fun s n =>
    let after := describe s true n
    if after.status == 0 then after.finish s.status else after) (s.finish 0)

/-- Lists the programs that were found, forgets them or looks for more. -/
private def hash (s : State) (args : List Bytes) : State :=
  match args.filter (·.head? != some '-') with
  | [] =>
    if args.isEmpty then
      (s.print (s.hashed.flatMap fun n => (search? s n).getD [] ++ ['\n'])).finish 0
    else { s with hashed := [] }.finish 0
  | names =>
    names.foldl (fun s n =>
      match search? s n with
      | some _ => { s with hashed := s.hashed ++ [n] }
      | none => s.report 1 (n ++ ": not found".toList)) (s.finish 0)

namespace Runner

/-- How deep functions may nest. -/
def maxDepth : Nat := 1000

/-- Runs a function. -/
def callFunction (r : Runner) (s : State) (body : Command) (args : List Bytes) : State :=
  if s.depth ≥ maxDepth then
    s.abort ("Maximum function recursion depth (" ++ toString maxDepth ++ ") reached").toList
  else
  let after := r.command { s with
    arguments := args
    loops := 0
    depth := s.depth + 1
    locals := some []
    optionIndex := 1
    optionOffset := none } body
  let after := (after.locals.getD []).foldl (fun s v => s.restore v.1 v.2) after
  { after with
    halt := if after.halt == some .back then none else after.halt
    arguments := s.arguments
    loops := s.loops
    depth := s.depth
    locals := s.locals
    optionIndex := s.optionIndex
    optionOffset := s.optionOffset }

/-- Runs the file that is named, as a part of the script. -/
def runFile (r : Runner) (s : State) (args : List Bytes) : State :=
  match args.filter (· != ['-', '-']) with
  | [] => s.finish 0
  | name :: _ =>
    let path := if name.contains '/' then some name
      else ((searchPath s).map (inDirectory · name)).find? fun p =>
        s.disk.isFile s.here (Bytes.toText p)
    match path with
    | none => s.abort (name ++ ": not found".toList)
    | some path =>
      match openPath s .read path with
      | .error message => s.abort message
      | .ok (opened, i) =>
        let script := match opened.opened[i]? with
          | some ⟨.file _ first _, _, _, _, _⟩ => first
          | _ => []
        let after := r.text { s.finish 0 with command := path, tested := false } script
        let halt := if after.halt == some .back then none else after.halt
        { after with halt, line := s.line, tested := s.tested }

/-- Runs a program in place of the shell, or keeps redirections if there is none. The trap of the
shell is forgotten once the program has started. -/
def replace (r : Runner) (s : State) (args : List Bytes) : State :=
  match (if args.head? == some ['-', '-'] then args.tail else args) with
  | [] => s.finish 0
  | words =>
    let after := r.image { s with traps := [] } words
    if after.halt == some .failed then
      { after with traps := s.traps, halt := some (.ended (.exited after.status)) }
    else after

/-- Runs a command of the shell that runs other commands, or a program. -/
private def callOther (r : Runner) (careful : Bool) (s : State) (name : Bytes) (args : List Bytes) :
    State :=
  match String.ofList name with
  | "eval" =>
    within careful s name fun s =>
      { r.text (s.finish 0) (Text.join [' '] args) with line := s.line }
  | "." => within careful s name fun s => r.runFile s args
  | "exec" => within careful s name fun s => r.replace s args
  | "type" => within careful s name fun s => describeAll s args
  | "hash" => within careful s name fun s => hash s args
  | "wait" => within careful s name fun s => r.wait s args
  | "jobs" => within careful s name fun s => listJobs s args
  | "fg" | "bg" => within careful s name fun s => moveJob s args
  | "source" =>
    if s.flavor == .bash then within careful s name fun s => r.runFile s args
    else r.launch s (name :: args)
  | _ => r.launch s (name :: args)

/-- Runs a command that is no function. -/
private def callPlain (r : Runner) (careful : Bool) (s : State) (name : Bytes) (args : List Bytes) :
    State :=
  match Builtin.find? name with
  | some f => within careful s name fun s => f s args
  | none => r.callOther careful s name args

/-- Runs a command that is no function, or says what it is. -/
def callNamed (r : Runner) (s : State) : List Bytes → State
  | [] => s.finish 0
  | a :: rest =>
    if a == "command".toList || a == ['-', 'p'] then r.callNamed s rest
    else if a == ['-', '-'] then
      match rest with
      | [] => s.finish 0
      | name :: args => r.callPlain true s name args
    else
      match a with
      | '-' :: _ :: _ =>
        within true s "command".toList fun s =>
          Builtin.withOptions "pvV" s (a :: rest) fun os names =>
            match names, os.getLast? with
            | name :: _, some (c, _) => describe s (c == 'V') name
            | _, _ => s.finish 0
      | name => r.callPlain true s name rest

/-- Runs a function, a command of the shell or a program. -/
def call (r : Runner) (s : State) (name : Bytes) (args : List Bytes) : State :=
  match s.functions.lookup name with
  | some body => r.callFunction s body args
  | none =>
    if name == "command".toList then r.callNamed s args else r.callPlain false s name args

/-- Shows a command before it runs, if that is asked for. -/
private def trace (r : Runner) (s : State) (descriptors : List (Nat × Nat))
    (values : List (Bytes × Bytes)) (fields : List Bytes) : State :=
  if s.has 'x' then
    let (s, mark) := r.expandText s (template ((s.textOf "PS4").getD []))
    showWords s mark descriptors values fields
  else s

def runSimple (r : Runner) (s : State) (assigned : List (Bytes × Word)) (words : List Word)
    (rs : List Redirect) : State :=
  let (s, fields) := r.expandFields { s with substituted := 0 } [] words
  if s.halt.isSome then s
  else
    let isFunction := fields.head?.any fun n => s.functions.any (·.1 == n)
    let isSpecial := !isFunction && fields.head?.any Builtin.special.contains
    let isExec := !isFunction && commandName fields == some "exec".toList
    let descriptors := s.descriptors
    match r.redirectAll s rs with
    | (s, false) =>
      let s := { s with descriptors }
      if isSpecial && s.halt.isNone then { s with halt := some .failed } else s
    | (s, true) =>
      let lasts := fields.isEmpty || isSpecial
      let before := s.bindings
      let (s, values) := r.assignAll s (!lasts || isExec) [] assigned
      let s := if s.halt.isSome then s
        else
          let s := r.trace s descriptors values fields
          match fields with
          | [] => s.finish s.substituted
          | name :: args => r.call s name args
      let s := if lasts then s
        else values.foldl (fun s a => s.restore a.1 (before.lookup a.1)) s
      if isExec then s else { s with descriptors }

end Runner
end Graft.Shell
