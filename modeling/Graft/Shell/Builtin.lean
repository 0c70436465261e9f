import Graft.Shell.Fields
import Graft.Shell.Format
import Graft.Shell.Signal
import Graft.Shell.Test

/-!
# Commands of the shell itself

Commands that change the state of the shell: its variables, its directory, its options and how it
ends. They do not run other commands. A command that cannot do what it is asked to fails; that ends
the shell only if the command is a special one.
-/
namespace Graft.Shell.Builtin

/-- Commands before which assignments last, and whose errors end the shell. -/
def special : List Bytes :=
  [".", ":", "break", "continue", "eval", "exec", "exit", "export", "local", "readonly", "return",
    "set", "shift", "times", "trap", "unset"].map String.toList

/-- Commands whose arguments may be assignments. -/
def declares : List Bytes := ["export", "readonly", "local", "alias"].map String.toList

/-! ## Arguments -/

/-- Options that the letters in `known` name, with their values, and the other arguments. A letter
with a value stands before a colon. -/
def options (known : Bytes) : Nat → List Bytes → Except Bytes (List (Char × Bytes) × List Bytes)
  | 0, args => .ok ([], args)
  | fuel + 1, ('-' :: c :: r) :: args =>
    if c == '-' && r.isEmpty then .ok ([], args)
    else
      match known.dropWhile (· != c) with
      | _ :: ':' :: _ =>
        match r, args with
        | _ :: _, _ => do
          let (os, rest) ← options known fuel args
          return ((c, r) :: os, rest)
        | [], value :: args => do
          let (os, rest) ← options known fuel args
          return ((c, value) :: os, rest)
        | [], [] => .error ("No arg for -".toList ++ c :: " option".toList)
      | _ :: _ => do
        let (os, rest) ← options known fuel (if r.isEmpty then args else ('-' :: r) :: args)
        return ((c, []) :: os, rest)
      | [] => .error ("Illegal option -".toList ++ [c])
  | _, args => .ok ([], args)

/-- Goes on with the options and arguments of a command, or fails. -/
def withOptions (known : String) (s : State) (args : List Bytes)
    (run : List (Char × Bytes) → List Bytes → State) : State :=
  match options known.toList (Bytes.room args) args with
  | .ok (os, rest) => run os rest
  | .error message => s.abort message

/-- Fails because an argument is no number. -/
def badNumber (s : State) (t : Bytes) : State := s.abort ("Illegal number: ".toList ++ t)

/-- A number that is not negative. -/
def natural? (t : Bytes) : Option Nat :=
  (Arithmetic.integer? t).bind fun n => if 0 ≤ n && n < Int.pow 2 31 then some n.toNat else none

/-- Goes on with the number that the first argument is, or with another if there is none. -/
def withNumber (s : State) (args : List Bytes) (otherwise : Nat) (run : Nat → State) : State :=
  match args with
  | [] => run otherwise
  | a :: _ =>
    match natural? a with
    | some n => run n
    | none => badNumber s a

/-- A text in quotes, so that a shell reads it as one word. -/
def quoted : Nat → Bytes → Bytes
  | 0, _ => []
  | fuel + 1, t =>
    let plain := t.takeWhile (· != '\'')
    let rest := t.drop plain.length
    let quotes := rest.takeWhile (· == '\'')
    let rest := rest.drop quotes.length
    let here := '\'' :: plain ++ ['\'']
    if quotes.isEmpty then here
    else
      here ++ '"' :: quotes ++ ['"'] ++ if rest.isEmpty then [] else quoted fuel rest

def quote (t : Bytes) : Bytes := quoted (t.length + 1) t

/-! ## Variables -/

private def isBefore (a b : Bytes × Variable) : Bool := notAfter a.1 b.1

/-- Lists variables with their values behind a word. -/
def listVariables (s : State) (word : Bytes) (p : Variable → Bool) : State :=
  let line (v : Bytes × Variable) : Bytes :=
    word ++ (if word.isEmpty then [] else [' ']) ++ v.1 ++ (match v.2.value with
      | some t => '=' :: quote t
      | none => []) ++ ['\n']
  let shown := (s.bindings.filter fun v => p v.2).mergeSort isBefore
  (s.print (shown.flatMap line)).finish 0

/-- Goes on if a text can name a variable. -/
def withName (s : State) (name : Bytes) (run : State) : State :=
  if isName name then run else s.abort (name ++ ": bad variable name".toList)

/-- Gives a variable a value, if it may be changed. -/
def assign (s : State) (name value : Bytes) : State := withName s name (s.setVariable name value)

/-- Marks variables, and gives them values if the arguments do. -/
def declare (mark : Variable → Variable) (s : State) (args : List Bytes) : State :=
  args.foldl (fun s a =>
    if s.halt.isSome then s
    else
      let name := a.takeWhile (· != '=')
      let marked (s : State) : State :=
        s.putVariable name (mark ((s.binding? name).getD ⟨none, false, false⟩))
      match a.dropWhile (· != '=') with
      | _ :: value =>
        let s := assign s name value
        if s.halt.isSome then s else marked s
      | [] => withName s name (marked s)) (s.finish 0)

private def declaring (word : String) (p : Variable → Bool) (mark : Variable → Variable)
    (s : State) (args : List Bytes) : State :=
  withOptions "p" s args fun os names =>
    if os.isEmpty && !names.isEmpty then declare mark s names else listVariables s word.toList p

def exportNames : State → List Bytes → State :=
  declaring "export" (·.exported) fun v => { v with exported := true }

def fixNames : State → List Bytes → State :=
  declaring "readonly" (·.fixed) fun v => { v with fixed := true }

/-- Variables that get their values back when the function ends. -/
def localize (s : State) (args : List Bytes) : State :=
  match s.locals with
  | none => s.abort "not in a function".toList
  | some _ =>
    args.foldl (fun s a =>
      if s.halt.isSome then s
      else
        let name := a.takeWhile (· != '=')
        let saved := (name, s.binding? name) :: s.locals.getD []
        let s := { s with locals := some saved }
        match a.dropWhile (· != '=') with
        | _ :: value => assign s name value
        | [] =>
          withName s name (if (s.binding? name).isSome then s
            else s.putVariable name ⟨none, false, false⟩)) (s.finish 0)

def unset (s : State) (args : List Bytes) : State :=
  withOptions "vf" s args fun os names =>
    names.foldl (fun s name =>
      if s.halt.isSome then s
      else if (os.getLast?.map (·.1)) == some 'f' then
        { s with functions := s.functions.filter (·.1 != name) }
      else
        withName s name
          (if (s.binding? name).any (·.fixed) then s.abort (name ++ ": is read only".toList)
          else if name == "PATH".toList then s.putVariable name ⟨none, false, false⟩
          else s.restore name none)) (s.finish 0)

/-! ## Options and arguments of the shell -/

private def listOptions (s : State) (on : Bool) : State :=
  let rows := State.optionLetters.map (fun (c, n) => (n, s.has c)) ++
    [("nolog", false), ("debug", false)]
  let line (row : String × Bool) : String :=
    if on then
      row.1 ++ "".pushn ' ' (16 - row.1.length) ++ (if row.2 then "on" else "off") ++ "\n"
    else "set " ++ (if row.2 then "-o " else "+o ") ++ row.1 ++ "\n"
  let first := if on then "Current option settings\n" else ""
  s.print (first ++ String.join (rows.map line)).toList

/-- Sets an option by its name, or lists all options. -/
def nameOption (s : State) (on : Bool) (name? : Option Bytes) : State :=
  match name? with
  | none => listOptions s on
  | some name =>
    match State.optionLetters.find? (·.2.toList == name) with
    | some (c, _) => s.setOption c on
    | none =>
      if name == "nolog".toList || name == "debug".toList then s
      else s.abort ("Illegal option -o ".toList ++ name)

/-- Sets options by their letters. The names of options follow in further arguments. -/
def letterOptions (on : Bool) : State → Bytes → List Bytes → State × List Bytes
  | s, [], args => (s, args)
  | s, c :: r, args =>
    if s.halt.isSome then (s, args)
    else if c == 'o' then letterOptions on (nameOption s on args.head?) r args.tail
    else if State.optionLetters.any (·.1 == c) then letterOptions on (s.setOption c on) r args
    else (s.abort ("Illegal option -".toList ++ [c]), args)

/-- Options and arguments. -/
def setAll : Nat → State → List Bytes → State
  | 0, s, _ => s
  | _, s, [] => s
  | fuel + 1, s, a :: rest =>
    let letters (on : Bool) (r : Bytes) : State :=
      let (s, rest) := letterOptions on s r rest
      if s.halt.isSome then s else setAll fuel s rest
    match a with
    | ['-'] =>
      let s := (s.setOption 'x' false).setOption 'v' false
      if rest.isEmpty then s else { s with arguments := rest }
    | ['-', '-'] => { s with arguments := rest }
    | '-' :: r => letters true r
    | '+' :: r => letters false r
    | _ => { s with arguments := a :: rest }

def set (s : State) (args : List Bytes) : State :=
  if args.isEmpty then listVariables s [] (·.value.isSome)
  else setAll (args.length + 1) (s.finish 0) args

def shift (s : State) (args : List Bytes) : State :=
  withNumber s args 1 fun n =>
    if n > s.arguments.length then s.abort "can't shift that many".toList
    else { s with arguments := s.arguments.drop n }.finish 0

/-! ## Directories -/

private def physical (s : State) : Bytes := .ofText s.here.display

/-- The names of a path as it is written, with `.` left out and `..` taking back the one before. -/
private def written (before : List Bytes) (path : Bytes) : List Bytes :=
  (Bytes.split '/' path).foldl (fun ns n =>
    if n.isEmpty || n == ['.'] then ns
    else if n == ['.', '.'] then ns.dropLast
    else ns ++ [n]) before

/-- The path that a path leads to from the current directory by what is written. -/
def logical (s : State) (path : Bytes) : Bytes :=
  let before := if path.head? == some '/' then [] else written [] s.herePath
  let root : Bytes := match path with
    | '/' :: '/' :: c :: _ => if c == '/' then ['/'] else ['/', '/']
    | '/' :: _ => ['/']
    | _ => if "//".toList.isPrefixOf s.herePath then ['/', '/'] else ['/']
  root ++ Text.join ['/'] (written before path)

/-- Goes to a directory, by what is written or by what is there. -/
private def enter (s : State) (byLinks : Bool) (path : Bytes) : Option State :=
  let target := if byLinks then path else logical s path
  match s.disk.reach s.here (Bytes.toText target) with
  | .error _ => none
  | .ok l =>
    if !s.disk.isDirectory l then none
    else
      let herePath := if byLinks then .ofText l.display else target
      let exported (s : State) (name value : Bytes) : State :=
        let s := s.setVariable name value
        match s.binding? name with
        | some v => s.putVariable name { v with exported := true }
        | none => s
      some (exported (exported { s with here := l, herePath } "OLDPWD".toList s.herePath)
        "PWD".toList herePath)

private def isDotted (path : Bytes) : Bool :=
  match path with
  | ['.'] | ['.', '.'] => true
  | '.' :: '/' :: _ | '.' :: '.' :: '/' :: _ => true
  | _ => false

def cd (s : State) (args : List Bytes) : State :=
  withOptions "LP" s args fun os rest =>
    let byLinks := (os.getLast?.map (·.1)) == some 'P'
    let (target, shown) := match rest with
      | [] => ((s.textOf "HOME").getD [], false)
      | ['-'] :: _ => ((s.textOf "OLDPWD").getD [], true)
      | p :: _ => (p, false)
    let finish (shown : Bool) (s : State) : State :=
      (if shown then s.print (s.herePath ++ ['\n']) else s).finish 0
    let refuse : State := s.abort ("can't cd to ".toList ++ target)
    let plain (p : Bytes) : State := ((enter s byLinks p).map (finish shown)).getD refuse
    if target.head? == some '/' || isDotted target then plain target
    else
      let target := if target.isEmpty then ['.'] else target
      let bases := (s.textOf "CDPATH").elim [] (Bytes.split ':')
      let found := bases.findSome? fun b =>
        let p := if b.isEmpty then target else b ++ '/' :: target
        (enter s byLinks p).map (finish (shown || !b.isEmpty))
      found.getD (plain target)

def pwd (s : State) (args : List Bytes) : State :=
  withOptions "LP" s args fun os _ =>
    let path := if (os.getLast?.map (·.1)) == some 'P' then physical s else s.herePath
    (s.print (path ++ ['\n'])).finish 0

/-! ## Input -/

/-- Takes a line off the input. Gives its pieces, and whether its end was reached. A backslash hides
the character behind it, unless the line is taken as it stands. -/
def linePieces (raw : Bool) : Nat → List Piece → Bytes → Bytes → List Piece × Bool × Nat
  | 0, ps, _, _ => (ps, false, 0)
  | fuel + 1, ps, run, t =>
    let close : List Piece := if run.isEmpty then ps else .bytes run.reverse false true :: ps
    match t with
    | [] => (close.reverse, false, 0)
    | '\n' :: _ => (close.reverse, true, 1)
    | c :: r =>
      let next (ps : List Piece) (run r : Bytes) (count : Nat) : List Piece × Bool × Nat :=
        let (ps, ended, n) := linePieces raw fuel ps run r
        (ps, ended, n + count)
      if c.toNat == 0 then next ps run r 1
      else if c == '\\' && !raw then
        match r with
        | [] => (close.reverse, false, 1)
        | '\n' :: more => next close [] more 2
        | d :: more => next (.bytes [d] true false :: close) [] more 2
      else next ps (c :: run) r 1

/-- Reads a line of the input into variables. -/
def read (s : State) (args : List Bytes) : State :=
  withOptions "p:r" s args fun os vars =>
    if vars.isEmpty then s.abort "arg count".toList
    else
      let (t, cut) := ((s.readable 0).toOption).getD ([], false)
      let raw := os.any (·.1 == 'r')
      let (ps, ended, count) := linePieces raw (t.length + 1) [] [] t
      let s := { s.advance 0 count with starved := s.starved || (cut && !ended) }
      let fields := (Fields.split s.separators (some vars.length) ps).map Glob.text
      let values := vars.zip (fields ++ List.replicate vars.length [])
      let s := values.foldl (fun s (name, value) =>
        if s.halt.isSome then s else assign s name value) s
      if s.halt.isSome then s else s.finish (if ended then 0 else 1)

/-- Finds the next option among arguments. -/
def getopts (s : State) (args : List Bytes) : State :=
  match args with
  | known :: name :: rest =>
    let list := if rest.isEmpty then s.arguments else rest
    -- An index behind the list begins anew.
    let s := if list.length + 1 < s.optionIndex then
        { s with optionIndex := 1, optionOffset := none }
      else s
    let silent := known.head? == some ':'
    let before := list[s.optionIndex - 2]?
    let inside := match s.optionOffset, before with
      | some n, some a => if s.optionIndex ≤ 1 then [] else a.drop n
      | _, _ => []
    let done (s : State) (index : Nat) (offset : Option Nat) (letter : Char) (status : Nat) :
        State :=
      let s := assign (assign s "OPTIND".toList (State.number index)) name [letter]
      if s.halt.isSome then s
      else { s with optionIndex := index, optionOffset := offset }.finish status
    let unsetArgument (s : State) : State := s.restore "OPTARG".toList none
    let found (index : Nat) (word c : Bytes) : State :=
      -- `c` is what is left of the argument before `index`
      match c with
      | [] => done s index none '?' 1
      | c :: r =>
        let offset := if r.isEmpty then some word.length else some (word.length - r.length)
        match (if c == ':' then [] else known.dropWhile (· != c)) with
        | [] =>
          let s := if silent then s.setVariable "OPTARG".toList [c]
            else unsetArgument (s.write 2 ("Illegal option -".toList ++ [c, '\n']))
          done s index offset '?' 0
        | _ :: ':' :: _ =>
          match r, list[index - 1]? with
          | _ :: _, _ => done (s.setVariable "OPTARG".toList r) index none c 0
          | [], some value => done (s.setVariable "OPTARG".toList value) (index + 1) none c 0
          | [], none =>
            if silent then done (s.setVariable "OPTARG".toList [c]) index none ':' 0
            else
              done (unsetArgument (s.write 2 ("No arg for -".toList ++ c :: " option\n".toList)))
                index none '?' 0
        | _ => done (s.setVariable "OPTARG".toList []) index offset c 0
    if !inside.isEmpty then found s.optionIndex (before.getD []) inside
    else
      match list[s.optionIndex - 1]? with
      | some ['-', '-'] => done s (s.optionIndex + 1) none '?' 1
      | some ('-' :: c :: r) => found (s.optionIndex + 1) ('-' :: c :: r) (c :: r)
      | _ => done s s.optionIndex none '?' 1
  | _ => s.abort "Usage: getopts optstring var [arg...]".toList

/-! ## Signals -/

/-- Sends a signal to a process. Says whether there is one. -/
def send (s : State) (signal target : Nat) : Option State :=
  if target == s.self || target == s.shell then
    if Signal.isHarmless signal then some s
    else if target == s.self then
      match (if signal == 9 then none else s.traps.lookup signal) with
      | some [] => some s
      | some _ => some { s with pending := s.pending ++ [(s.self, signal)] }
      | none => some { s with halt := some (.ended (.killed signal)) }
    else some { s with pending := s.pending ++ [(s.shell, signal)] }
  else if s.jobs.any fun j => j.number == target && !(j.ending.isSome && j.isSeen) then
    let struck (j : Job) : Job :=
      if j.number == target && j.ending.isNone && !Signal.isHarmless signal then
        { j with ending := some (.killed signal) }
      else j
    some { s with jobs := s.jobs.map struck }
  else none

private def usage : Bytes :=
  ("Usage: kill [-s sigspec | -signum | -sigspec] [pid | job]... or\n" ++
    "kill -l [exitstatus]").toList

private def sendAll (s : State) (signal : Nat) (targets : List Bytes) : State :=
  targets.foldl (fun s t =>
    if s.halt.isSome then s
    else
      -- A percent sign means a group of processes, but jobs are none.
      let isKnown := t.head? != some '%' ||
        (natural? t.tail).any fun n => s.jobs.any fun j => j.isOf s.self && j.slot == n
      match (if t.head? == some '%' then some 0 else natural? t) with
      | none => badNumber s t
      | some n =>
        if !isKnown then s.abort ("No such job: ".toList ++ t)
        else match send s signal n with
        | some s => s
        | none => s.report 1 "No such process\n".toList) (s.finish 0)

private def listSignals (s : State) (args : List Bytes) : State :=
  match args with
  | [] => (s.print ("0\n" ++ String.join (Signal.names.map (· ++ "\n"))).toList).finish 0
  | a :: _ =>
    match natural? a with
    | none => badNumber s a
    | some n =>
      let n := if n > 128 then n - 128 else n
      match (if n == 0 then none else Signal.name? n) with
      | some name => (s.print (name ++ "\n").toList).finish 0
      | none => s.abort ("invalid signal number or exit status: ".toList ++ a)

def kill (s : State) (args : List Bytes) : State :=
  let sending (signal : Nat) (targets : List Bytes) : State :=
    if targets.isEmpty then s.abort usage else sendAll s signal targets
  match args with
  | [] => s.abort usage
  | ('-' :: r) :: targets =>
    match Signal.find? 1 r with
    | some n => sending n targets
    | none =>
      withOptions "ls:" s args fun os targets =>
        match os.find? (·.1 == 's'), os.any (·.1 == 'l') with
        | some (_, name), false =>
          match Signal.find? 1 name with
          | some n => sending n targets
          | none => s.abort ("invalid signal number or name: ".toList ++ name)
        | _, true => listSignals s targets
        | none, false => sending 15 targets
  | targets => sending 15 targets

/-- Says what is done on signals. -/
def trap (s : State) (args : List Bytes) : State :=
  withOptions "" s args fun _ rest =>
    let list : State :=
      let line (n : Nat) : Bytes := match s.traps.lookup n, Signal.name? n with
        | some action, some name =>
          "trap -- ".toList ++ quote action ++ ' ' :: name.toList ++ ['\n']
        | _, _ => []
      (s.print ((List.range 32).flatMap line)).finish 0
    let change (action : Bytes) (names : List Bytes) : State :=
      names.foldl (fun s name =>
        if s.status != 0 then s
        else
          match Signal.find? 0 name with
          | none => s.complain 1 ("trap: ".toList ++ name ++ ": bad trap".toList)
          | some n =>
            let others := s.traps.filter (·.1 != n)
            { s with traps := if action == ['-'] then others else (n, action) :: others })
        (s.finish 0)
    match rest with
    | [] => list
    | [name] => change ['-'] [name]
    | action :: names =>
      if !action.isEmpty && action.all Char.isDigit && (Signal.find? 0 action).isSome then
        change ['-'] (action :: names)
      else change action names

/-! ## The mask -/

private def octalText (n : Nat) : Bytes :=
  let ds := Nat.toDigits 8 n
  List.replicate (4 - ds.length) '0' ++ ds

private def modeLetters (bits : Nat) : Bytes :=
  (if bits / 4 % 2 == 1 then ['r'] else []) ++ (if bits / 2 % 2 == 1 then ['w'] else []) ++
    (if bits % 2 == 1 then ['x'] else [])

/-- The bits of a letter, some of them taken from those that were there before. -/
private def maskBits (before : Nat) (c : Char) : Nat :=
  match c with
  | 'r' => 4
  | 'w' => 2
  | 'x' => 1
  | 'u' => before / 64 % 8
  | 'g' => before / 8 % 8
  | 'o' => before % 8
  | 'X' => if before &&& 0o111 != 0 then 1 else 0
  | _ => 0

/-- The permissions that remain after clauses with letters. Places stay the same until a comma. -/
private def clauses (before : Nat) : Nat → Nat → Nat → Bytes → Option Nat
  | 0, left, _, _ => some left
  | _, left, _, [] => some left
  | fuel + 1, left, places, t =>
    let who := t.takeWhile fun c => "augo".toList.contains c
    let places := who.foldl (fun n c => n ||| (match c with
      | 'a' => 0o111
      | 'u' => 0o100
      | 'g' => 0o010
      | _ => 0o001)) places
    let places := if places == 0 then 0o111 else places
    match t.drop who.length with
    | [] => some left
    | sign :: r =>
      if !(sign == '=' || sign == '+' || sign == '-') then none
      else
        let letters := r.takeWhile fun c => "rwxugoXs".toList.contains c
        let value := letters.foldl (fun n c => n ||| maskBits before c) 0 * places
        let left := match sign with
          | '-' => left - (left &&& value)
          | '=' => left - (left &&& places * 7) ||| value
          | _ => left ||| value
        match r.drop letters.length with
        | [] => some left
        | ',' :: rest => clauses before fuel left 0 rest
        | c :: rest =>
          if c == '=' || c == '+' || c == '-' then clauses before fuel left places (c :: rest)
          else none

def umask (s : State) (args : List Bytes) : State :=
  withOptions "S" s args fun os rest =>
    match rest with
    | [] =>
      let left := 0o777 - s.mask
      let t := if os.isEmpty then octalText s.mask
        else "u=".toList ++ modeLetters (left / 64) ++ ",g=".toList ++ modeLetters (left / 8 % 8) ++
          ",o=".toList ++ modeLetters (left % 8)
      (s.print (t ++ ['\n'])).finish 0
    | a :: _ =>
      if a.head?.any Char.isDigit then
        if a.all Format.isOctal then
          { s with mask := (Arithmetic.ofDigits 8 a) % 512 }.finish 0
        else badNumber s a
      else
        match clauses (0o777 - s.mask) (a.length + 1) (0o777 - s.mask) 0 a with
        | some left => { s with mask := 0o777 - left }.finish 0
        | none => s.abort ("Illegal mode: ".toList ++ a)

/-! ## Aliases -/

private def bucket (name : Bytes) : Nat :=
  ((name.headD (Char.ofNat 0)).toNat * 16 + (name.map Char.toNat).foldl (· + ·) 0) % 39

private def aliasLine (a : Bytes × Bytes) : Bytes := a.1 ++ '=' :: quote a.2 ++ ['\n']

/-- Sets or shows short names for commands. They are listed by the sums of their characters. -/
def defineAliases (s : State) (args : List Bytes) : State :=
  if args.isEmpty then
    let shown := s.aliases.mergeSort fun a b => bucket a.1 ≤ bucket b.1
    (s.print (shown.flatMap aliasLine)).finish 0
  else
    args.foldl (fun s a =>
      let name := a.takeWhile (· != '=')
      match name, a.dropWhile (· != '=') with
      | _ :: _, _ :: value =>
        if s.aliases.any (·.1 == name) then
          { s with aliases := s.aliases.map fun e => if e.1 == name then (name, value) else e }
        else { s with aliases := s.aliases ++ [(name, value)] }
      | _, _ =>
        match s.aliases.lookup a with
        | some value => s.print (aliasLine (a, value))
        | none => s.complain 1 ("alias: ".toList ++ a ++ " not found".toList)) (s.finish 0)

def unalias (s : State) (args : List Bytes) : State :=
  withOptions "a" s args fun os names =>
    if !os.isEmpty then { s with aliases := [] }.finish 0
    else
      names.foldl (fun s a =>
        if s.aliases.any (·.1 == a) then { s with aliases := s.aliases.filter (·.1 != a) }
        else s.complain 1 ("unalias: ".toList ++ a ++ " not found".toList)) (s.finish 0)

/-! ## Others -/

/-- Leaves loops, or goes on with the next round. -/
private def jump (halt : Nat → Halt) (s : State) (args : List Bytes) : State :=
  withNumber s args 1 fun n =>
    if n == 0 then badNumber s (args.headD [])
    else if s.loops == 0 then s.finish 0
    else { s with halt := some (halt (min n s.loops)), status := 0 }

private def echo (s : State) (args : List Bytes) : State :=
  let t := match s.flavor with
    | .plain => Format.echo true args
    | .bash => Format.echoWith false false args
  (s.print t).finish 0

private def printf (s : State) (args : List Bytes) : State :=
  withOptions "" s args fun _ rest =>
    match rest with
    | [] => s.abort "usage: printf format [arg ...]".toList
    | format :: args =>
      let p := Format.printf format args
      let s := p.flaws.foldl (fun s (arg, f) =>
        s.report 1 (arg ++ (": " ++ f.message).toList)) (s.finish 0)
      match p.failure with
      | some message => ((s.report 2 message.toList).print p.text).finish 2
      | none => s.print p.text

private def exit (s : State) (args : List Bytes) : State :=
  withNumber s args s.status fun n => s.exit n

private def back (s : State) (args : List Bytes) : State :=
  withNumber s args s.status fun n => { s with status := n, halt := some .back }

private def test (s : State) (args : List Bytes) : State :=
  match Condition.holds s args with
  | .ok b => s.finish (if b then 0 else 1)
  | .error f => s.abort f.message

private def bracket (s : State) (args : List Bytes) : State :=
  if (args.getLast?.bind List.head?) == some ']' then test s args.dropLast
  else s.abort "missing ]".toList

/-- The commands of the shell that run no other commands and look for none. -/
def table : List (String × (State → List Bytes → State)) :=
  [(":", fun s _ => s.finish 0), ("true", fun s _ => s.finish 0), ("false", fun s _ => s.finish 1),
    ("echo", echo), ("printf", printf), ("exit", exit), ("return", back),
    ("break", jump .leave), ("continue", jump .again), ("cd", cd), ("chdir", cd), ("pwd", pwd),
    ("set", set), ("shift", shift), ("unset", unset), ("export", exportNames),
    ("readonly", fixNames), ("local", localize), ("read", read), ("getopts", getopts),
    ("kill", kill), ("test", test), ("[", bracket), ("trap", trap), ("umask", umask),
    ("alias", defineAliases), ("unalias", unalias),
    ("times", fun s _ =>
      (s.print "0m0.000000s 0m0.000000s\n0m0.000000s 0m0.000000s\n".toList).finish 0),
    ("ulimit", fun s args =>
      (if args.all (·.head? == some '-') then s.print "unlimited\n".toList else s).finish 0)]

def find? (name : Bytes) : Option (State → List Bytes → State) :=
  table.lookup (String.ofList name)

/-- All commands of the shell. -/
def names : List Bytes :=
  let running := [".", "eval", "exec", "command", "type", "hash", "wait", "jobs", "fg", "bg"]
  (table.map (·.1) ++ running).map String.toList

end Graft.Shell.Builtin
