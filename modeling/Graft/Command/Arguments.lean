import Graft.Text

/-!
# Arguments of the command line

A command line is a command with options. Options have a long name and mostly a letter; letters can
be written together, and a value follows its option or is attached to it.
-/
namespace Graft

structure Command.ApplyOptions where
  config : Option Text
  root : Option Text
  dryRun : Bool
  yes : Bool
  keepGoing : Bool
  quiet : Bool
  deriving DecidableEq, Repr

/-- What the program is asked to do. -/
inductive Command where
  | apply (options : Command.ApplyOptions)
  | find (file pattern : Text) (helper : Option Text)
  | check (file : Text) (helper : Option Text) (quiet : Bool)
  | list (root : Option Text)
  | version
  | help
  deriving DecidableEq, Repr

namespace Command

/-- What an option takes. -/
inductive Kind where
  /-- Nothing; it may be given once. -/
  | flag
  /-- Nothing; it may be repeated. -/
  | count
  /-- A value that is not empty. -/
  | path
  /-- A value. -/
  | text
  deriving DecidableEq, Repr

structure Parameter where
  long : Text
  letter : Option Char
  kind : Kind
  deriving DecidableEq, Repr

private def param (long : String) (letter : Option Char) (kind : Kind) : Parameter :=
  ⟨long.toList, letter, kind⟩

/-- The options every command takes, before or after its name. -/
def common : List Parameter :=
  [param "verbose" (some 'v') .count, param "quiet" (some 'q') .flag, param "help" (some 'h') .flag]

/-- The options before the name of a command. -/
def leading : List Parameter := param "version" (some 'V') .flag :: common

/-- The options of a command. -/
def parameters? (name : Text) : Option (List Parameter) :=
  match String.ofList name with
  | "apply" =>
    some ([param "config" (some 'c') .path, param "root" (some 'r') .path,
      param "dry-run" (some 'n') .flag, param "yes" (some 'y') .flag,
      param "keep-going" none .flag] ++ common)
  | "find" =>
    some ([param "file" (some 'f') .path, param "pattern" (some 'p') .text,
      param "helper" none .path] ++ common)
  | "check" => some ([param "file" (some 'f') .path, param "helper" none .path] ++ common)
  | "list" => some (param "root" (some 'r') .path :: common)
  | _ => none

/-- The options given so far, by long name. -/
abbrev Given := List (Text × Text)

/-- Notes an option. Only a counted one may be given again. -/
def Given.note (g : Given) (p : Parameter) (value : Text) : Option Given :=
  if p.kind ≠ .count && g.any (·.1 == p.long) then none
  else if p.kind = .path && value.isEmpty then none
  else some (g ++ [(p.long, value)])

def Given.has (g : Given) (long : String) : Bool := g.any (·.1 == long.toList)

def Given.value? (g : Given) (long : String) : Option Text := g.lookup long.toList

/-- Help or the version is asked for. Nothing after that counts. -/
def Given.asksHelp (g : Given) : Bool := g.has "help" || g.has "version"

private def takesValue (p : Parameter) : Bool := p.kind = .path || p.kind = .text

/-- What a cluster of letters comes to: the options given, and one that still lacks its value. -/
def cluster (ps : List Parameter) : Given → Text → Option (Given × Option Parameter)
  | g, [] => some (g, none)
  | g, c :: r => do
    let p ← ps.find? (·.letter == some c)
    if takesValue p then
      match r with
      | [] => return (g, some p)
      | '=' :: value => return (← g.note p value, none)
      | value => return (← g.note p value, none)
    else
      let g ← g.note p []
      if g.asksHelp then return (g, none) else cluster ps g r

/-- An option by its long name, maybe with its value attached. -/
def long (ps : List Parameter) (g : Given) (t : Text) : Option (Given × Option Parameter) := do
  let name := t.takeWhile (· != '=')
  let attached := match t.dropWhile (· != '=') with
    | [] => none
    | _ :: value => some value
  let p ← ps.find? (·.long == name)
  match takesValue p, attached with
  | true, some value => return (← g.note p value, none)
  | true, none => return (g, some p)
  | false, some _ => none
  | false, none => return (← g.note p [], none)

/-- An argument that is read as an option. -/
def isOption : Text → Bool
  | '-' :: _ :: _ => true
  | _ => false

private def option (ps : List Parameter) (g : Given) : Text → Option (Given × Option Parameter)
  | '-' :: '-' :: t => long ps g t
  | t => cluster ps g t.tail

/-- Reads options up to the first other argument. Help and version end the reading. -/
def options (ps : List Parameter) : Given → List Text → Option (Given × List Text)
  | g, [] => some (g, [])
  | g, a :: rest =>
    if a = ['-', '-'] then if rest.isEmpty then some (g, []) else none
    else if isOption a then
      match option ps g a with
      | none => none
      | some (g, none) => if g.asksHelp then some (g, []) else options ps g rest
      | some (g, some p) =>
        match rest with
        | [] => none
        | value :: rest =>
          if isOption value then none
          else
            match g.note p value with
            | none => none
            | some g => options ps g rest
    else some (g, a :: rest)

/-- The command of a name with its options. -/
def ofGiven (name : Text) (g : Given) (quiet : Bool) : Option Command :=
  match String.ofList name with
  | "apply" =>
    some (.apply ⟨g.value? "config", g.value? "root", g.has "dry-run", g.has "yes",
      g.has "keep-going", quiet⟩)
  | "find" => do
    return .find (← g.value? "file") ((g.value? "pattern").getD "\x7b\x7d".toList)
      (g.value? "helper")
  | "check" => do return .check (← g.value? "file") (g.value? "helper") quiet
  | "list" => some (.list (g.value? "root"))
  | _ => none

/-- Help on the whole program or on one command. -/
def helpOn : List Text → Option Command
  | [] => some .help
  | [name] => if name = "help".toList || (parameters? name).isSome then some .help else none
  | _ => none

/-- The command that arguments ask for, if they are a proper command line. -/
def parse? (args : List Text) : Option Command := do
  let (before, rest) ← options leading [] args
  if before.has "help" then return .help
  if before.has "version" then return .version
  match rest with
  | [] => none
  | name :: rest =>
    if name = "help".toList then helpOn rest
    else
      let (given, rest) ← options (← parameters? name) [] rest
      if given.has "help" then return .help
      if !rest.isEmpty then none
      ofGiven name given (before.has "quiet" || given.has "quiet")

end Command
end Graft
