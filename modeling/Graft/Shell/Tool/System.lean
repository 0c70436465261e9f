import Graft.Shell.Launch
import Graft.Shell.Tool.File

/-!
# Programs around programs

Programs that run others in a changed environment, that wait, and that tell about the system.
-/
namespace Graft.Shell.Tool

/-! ## Running others -/

/-- Why a program cannot be started, or nothing. -/
def obstacle? (s : State) (name : Bytes) : Option Disk.Fault :=
  if name.isEmpty then some .notFound
  else
    match (if name.contains '/' then some name else search? s name) with
    | none => some .notFound
    | some path =>
      match s.disk.reach s.here path.toText with
      | .error f => some f
      | .ok l =>
        match s.disk.get? l with
        | some (.file _ true) => none
        | _ => some .permissionDenied

/-- Runs a command in place of the process, or says why that cannot be done. -/
private def become (launch : Launch) (s : State) (complaint : Bytes → String) (words : List Bytes) :
    State :=
  let name := words.headD []
  match obstacle? s name with
  | none => launch.replace s words
  | some f =>
    s.grumble (if f == .notFound then 127 else 126) (complaint name ++ ": " ++ f.reason)

/-- A split of a text into words under way: the word, if one has begun, and those that are complete,
last first. -/
private structure Splitting where
  word : Option Bytes
  done : List Bytes

namespace Splitting

private def add (w : Splitting) (t : Bytes) : Splitting :=
  { w with word := some (w.word.getD [] ++ t) }

private def close (w : Splitting) : Splitting :=
  ⟨none, w.word.toList ++ w.done⟩

private def words (w : Splitting) : List Bytes := w.close.done.reverse

end Splitting

/-- Splits a text into words; quotes keep words together, a backslash stands before characters that
cannot be written otherwise, and names in braces stand for their values. -/
private def splitText (valueOf : Bytes → Option Bytes) :
    Nat → Option Char → Splitting → Bytes → Except String (List Bytes)
  | 0, _, w, _ => .ok w.words
  | _, none, w, [] => .ok w.words
  | _, some _, _, [] => .error "no terminating quote in -S string"
  | fuel + 1, quoted, w, c :: r =>
    let goOn (t : Bytes) (r : Bytes) : Except String (List Bytes) :=
      splitText valueOf fuel quoted (w.add t) r
    if quoted == some c then splitText valueOf fuel none w r
    else if quoted.isNone && (c == '\'' || c == '"') then
      splitText valueOf fuel (some c) (w.add []) r
    else if quoted.isNone && isSpace c then splitText valueOf fuel none w.close r
    else if quoted.isNone && c == '#' && w.word.isNone then .ok w.words
    else if c == '\\' then
      match r with
      | [] => .error "invalid backslash at end of string in -S"
      | d :: r =>
        if quoted == some '\'' then
          if d == '\'' || d == '\\' then goOn [d] r else goOn ['\\', d] r
        else
          match d with
          | '"' | '#' | '$' | '\'' | '\\' => goOn [d] r
          | '_' => if quoted.isSome then goOn [' '] r else splitText valueOf fuel none w.close r
          | 'c' =>
            if quoted.isSome then .error "'\\c' must not appear in double-quoted -S string"
            else .ok w.words
          | 'f' => goOn [Char.ofNat 12] r
          | 'n' => goOn ['\n'] r
          | 'r' => goOn ['\r'] r
          | 't' => goOn ['\t'] r
          | 'v' => goOn [Char.ofNat 11] r
          | d => .error ("invalid sequence '\\" ++ d.toString ++ "' in -S")
    else if c == '$' && quoted != some '\'' then
      let braced := r.drop 1
      let name := braced.takeWhile fun c => c.isAlphanum || c == '_'
      if r.head? == some '\x7b' && !name.isEmpty && !name.head?.any Char.isDigit &&
          (braced.drop name.length).head? == some '\x7d' then
        let rest := braced.drop (name.length + 1)
        match valueOf name with
        | some v => goOn v rest
        | none => splitText valueOf fuel quoted w rest
      else
        .error ("only $\x7bVARNAME\x7d expansion is supported, error at: " ++
          String.ofList (c :: r))
    else goOn [c] r

/-- Splits a text into words as a line for `env` is split. -/
def splitWords (valueOf : Bytes → Option Bytes) (t : Bytes) : Except String (List Bytes) :=
  splitText valueOf (t.length + 1) none ⟨none, []⟩ t

/-- Letters of options up to one that takes a value: those before it, it, and what stands behind. -/
private def valueLetter (t : Bytes) : Bytes × Option (Char × Bytes) :=
  let front := t.takeWhile fun c => !(c == 'u' || c == 'C' || c == 'S')
  match t.drop front.length with
  | c :: r => (front, some (c, r))
  | [] => (front, none)

/-- Puts the words of texts that have to be split in their places, as far as options reach. Each
split is also told. -/
private def unfoldSplits (split : Bytes → Except String (List Bytes)) :
    Nat → List Bytes → Except String (List Bytes × List (Bytes × List Bytes))
  | 0, args => .ok (args, [])
  | _, [] => .ok ([], [])
  | fuel + 1, a :: rest =>
    let keep (front rest : List Bytes) :
        Except String (List Bytes × List (Bytes × List Bytes)) := do
      let (args, told) ← unfoldSplits split fuel rest
      return (front ++ args, told)
    let insert (front : List Bytes) (t : Bytes) (rest : List Bytes) :
        Except String (List Bytes × List (Bytes × List Bytes)) := do
      let words ← split t
      let (args, told) ← unfoldSplits split fuel (words ++ rest)
      return (front ++ args, (t, words) :: told)
    let long := "--split-string".toList
    match a, rest with
    | ['-', '-'], _ => .ok (a :: rest, [])
    | '-' :: '-' :: _, v :: more =>
      if a == long then insert [] v more
      else if (long ++ ['=']).isPrefixOf a then insert [] (a.drop (long.length + 1)) rest
      else if a == "--unset".toList || a == "--chdir".toList then keep [a, v] more
      else keep [a] rest
    | '-' :: '-' :: _, [] =>
      if (long ++ ['=']).isPrefixOf a then insert [] (a.drop (long.length + 1)) []
      else .ok ([a], [])
    | '-' :: c :: r, _ =>
      match valueLetter (c :: r), rest with
      | (front, some ('S', [])), v :: more =>
        insert (if front.isEmpty then [] else ['-' :: front]) v more
      | (front, some ('S', t)), _ =>
        if t.isEmpty then .ok (a :: rest, [])
        else insert (if front.isEmpty then [] else ['-' :: front]) t rest
      | (_, some (_, [])), v :: more => keep [a, v] more
      | _, _ => keep [a] rest
    | _, _ => .ok (a :: rest, [])

/-- The variables that a process is told, with one of them set. -/
private def withValue (told : List (Bytes × Bytes)) (name value : Bytes) : List (Bytes × Bytes) :=
  if told.any (·.1 == name) then told.map fun v => if v.1 == name then (name, value) else v
  else told ++ [(name, value)]

/-- What is told of a split. -/
private def splitNote (t : Bytes) (words : List Bytes) : String :=
  "split -S:  " ++ quote t ++ "\n" ++ String.join (words.zipIdx.map fun (w, i) =>
    (if i == 0 then " into:    " else "     &    ") ++ quote w ++ "\n")

def env (launch : Launch) (s : State) (args : List Bytes) : State :=
  let valueOf (name : Bytes) : Option Bytes := (environment s).lookup name
  let size := Bytes.room args
  match unfoldSplits (splitWords valueOf) size args with
  | .error message => s.grumble 125 message
  | .ok (args, splits) => withFirstFlags ("i/ignore-environment u=/unset 0/null C=/chdir " ++
      "S=/split-string v/debug /block-signal? /default-signal? /ignore-signal? " ++
      "/list-signal-handling") 125 s args fun o ps =>
    let (fresh, ps) := match ps with
      | ['-'] :: ps => (true, ps)
      | ps => (o.has "i", ps)
    let isSetting (p : Bytes) : Bool := p.contains '='
    let settings := ps.takeWhile isSetting
    let command := ps.dropWhile isSetting
    let unset := if fresh then [] else o.values "u"
    match unset.find? (fun u => u.isEmpty || u.contains '='), command with
    | some u, _ => s.grumble 125 ("cannot unset " ++ quote u ++ ": Invalid argument")
    | none, command =>
    if o.has "0" && !command.isEmpty then
      refuse s 125 "cannot specify --null (-0) with command"
    else
      let told := if fresh then [] else environment s
      let told := told.filter fun v => !unset.contains v.1
      let told := settings.foldl (fun told p =>
        let name := p.takeWhile (· != '=')
        withValue told name (p.drop (name.length + 1))) told
      let mark : Char := if o.has "0" then Char.ofNat 0 else '\n'
      let note (s : State) (text : String) : State :=
        if o.has "v" then { s.write 2 text.toList with lost := s.lost } else s
      let s := splits.foldl (fun s (t, words) => note s (splitNote t words)) s
      let s := if fresh then note s "cleaning environ\n" else s
      let s := unset.foldl (fun s u => note s ("unset:    " ++ String.ofList u ++ "\n")) s
      let s := settings.foldl (fun s p => note s ("setenv:   " ++ String.ofList p ++ "\n")) s
      match command with
      | [] => s.print (told.flatMap fun (n, v) => n ++ '=' :: v ++ [mark])
      | name :: _ =>
        let bindings := told.reverse.map fun (n, v) => (n, (⟨some v, true, false⟩ : Variable))
        let s := (o.value? "C").elim s fun p => note s ("chdir:    " ++ quote p ++ "\n")
        let moved : Except Disk.Fault State := match o.value? "C" with
          | none => .ok s
          | some p => (s.disk.reach s.here p.toText).bind fun l =>
            if s.disk.isDirectory l then .ok { s with here := l, herePath := .ofText l.display }
            else .error .notDirectory
        match moved with
        | .error f =>
          s.grumble 125 ("cannot change directory to " ++ quote ((o.value? "C").getD []) ++ ": " ++
            f.reason)
        | .ok moved =>
          let moved := note moved ("executing: " ++ String.ofList name ++ "\n" ++
            String.join (command.zipIdx.map fun (w, i) =>
              "   arg[" ++ toString i ++ "]= " ++ quote w ++ "\n"))
          let after := become launch { moved with bindings } quote command
          if obstacle? moved name == some .notFound && name.any isSpace then
            after.grumble 127 "use -[v]S to pass options in shebang lines"
          else after

def printenv (s : State) (args : List Bytes) : State :=
  withFlags "0/null" 2 s args fun o ps =>
    let told := environment s
    let mark : Char := if o.has "0" then Char.ofNat 0 else '\n'
    if ps.isEmpty then s.print (told.flatMap fun (n, v) => n ++ '=' :: v ++ [mark])
    else
      ps.foldl (fun s p =>
        match told.lookup p with
        | some v => s.print (v ++ [mark])
        | none => s.finish 1) s

/-- A span of time in milliseconds. -/
def span? (t : Bytes) : Option Nat :=
  match Decimal.leading? t with
  | none => none
  | some (m, e, rest) =>
    let unit : Option Nat := match rest with
      | [] | ['s'] => some 1
      | ['m'] => some 60
      | ['h'] => some 3600
      | ['d'] => some 86400
      | _ => none
    unit.map fun u =>
      if 0 ≤ e then m * Nat.pow 10 e.toNat * 1000 * u else m * 1000 * u / Nat.pow 10 (-e).toNat

/-- Lets time pass. A process with a deadline does not live longer. -/
private def pass (s : State) (time : Nat) : State :=
  match s.deadline with
  | some d =>
    if s.clock + time < d then { s with clock := s.clock + time }
    else { s with clock := max s.clock d, halt := some (.ended (.killed 15)) }
  | none => { s with clock := s.clock + time }

def sleep (s : State) (args : List Bytes) : State :=
  withFlags "" 1 s args fun _ ps =>
    if ps.isEmpty then missing s 1
    else
      let bad := ps.filter fun p => (span? p).isNone
      if bad.isEmpty then pass s ((ps.filterMap span?).foldl (· + ·) 0)
      else
        let messages := bad.map fun p => "invalid time interval " ++ quote p
        let s := messages.dropLast.foldl (fun s m => s.grumble 1 m) s
        refuse s 1 (messages.getLast?.getD "")

def timeout (launch : Launch) (s : State) (args : List Bytes) : State :=
  withFirstFlags "s=/signal k=/kill-after v/verbose /foreground /preserve-status" 125 s args
    fun o ps =>
    match ps with
    | [] | [_] =>
      s.complain 125 ("Try '" ++ String.ofList s.called ++ " --help' for more information.").toList
    | t :: words =>
      match span? t with
      | none => refuse s 125 ("invalid time interval " ++ quote t)
      | some time =>
        let name := words.headD []
        match obstacle? s name with
        | some f =>
          s.grumble (if f == .notFound then 127 else 126)
            ("failed to run command " ++ quote name ++ ": " ++ f.reason)
        | none =>
          let limit := s.clock + time
          let deadline := some ((s.deadline.map (min limit)).getD limit)
          let (after, e) := launch.run { s with deadline := if time == 0 then none else deadline }
            words
          let after := { after with deadline := s.deadline }
          let isLate : Bool := time != 0 && limit ≤ after.clock && e == .killed 15
          if isLate && !o.has "preserve-status" then
            if ["KILL", "9", "SIGKILL"].contains (String.ofList ((o.value? "s").getD [])) then
              { after with halt := some (.ended (.killed 9)) }
            else after.finish 124
          else after.finish e.status

def nice (launch : Launch) (s : State) (args : List Bytes) : State :=
  withFirstFlags "n=/adjustment" 125 s args fun _ ps =>
    if ps.isEmpty then s.print "0\n".toList else become launch s quote ps

def nohup (launch : Launch) (s : State) (args : List Bytes) : State :=
  withFirstFlags "" 125 s args fun _ ps =>
    if ps.isEmpty then missing s 125
    else become launch s (fun name => "failed to run command " ++ quote name) ps

def stdbuf (launch : Launch) (s : State) (args : List Bytes) : State :=
  withFirstFlags "i=/input o=/output e=/error" 125 s args fun _ ps =>
    if ps.isEmpty then missing s 125
    else become launch s (fun name => "failed to run command " ++ quote name) ps

def setsid (launch : Launch) (s : State) (args : List Bytes) : State :=
  withFirstFlags "c/ctty f/fork w/wait" 1 s args fun _ ps =>
    if ps.isEmpty then refuse s 1 "no command specified"
    else become launch s (fun name => "failed to execute " ++ String.ofList name) ps

/-! ## Words -/

def echoWords (s : State) (args : List Bytes) : State :=
  s.print (Format.echoWith false false args)

def printWords (s : State) (args : List Bytes) : State :=
  match (if args.head? == some ['-', '-'] then args.drop 1 else args) with
  | [] => missing s 1
  | format :: args =>
    let p := Format.printf format args
    let text : Format.Flaw → String
      | .noNumber => "expected a numeric value"
      | .incomplete => "value not completely converted"
      | .outOfRange => "Numerical result out of range"
    let s := p.flaws.foldl (fun s (arg, f) => s.grumble 1 (quote arg ++ ": " ++ text f)) s
    let s := s.print p.text
    match p.failure, p.rest with
    | some message, _ => s.grumble 1 message
    | none, extra :: _ =>
      if p.stopped then s
      else s.grumble s.status ("warning: ignoring excess arguments, starting with " ++ quote extra)
    | none, [] => s

def testWords (s : State) (args : List Bytes) : State :=
  match Condition.holds s args with
  | .ok b => s.finish (if b then 0 else 1)
  | .error (.badNumber t) => s.grumble 2 ("invalid integer " ++ quote t)
  | .error f => s.grumble 2 (String.ofList f.message)

def bracketWords (s : State) (args : List Bytes) : State :=
  if args.getLast? == some [']'] then testWords s args.dropLast else s.grumble 2 "missing ']'"

/-- Prints a line again and again. -/
def yes (s : State) (args : List Bytes) : State :=
  let line := Text.join [' '] (if args.isEmpty then [['y']] else args) ++ ['\n']
  let block := (List.replicate (4096 / line.length + 1) line).flatten
  let rec go : Nat → State → State
    | 0, s => s
    | n + 1, s => if s.halt.isSome || s.lost.isSome then s else go n (s.print block)
  go (Nat.pow 2 16) s

def workingDirectory (s : State) (args : List Bytes) : State :=
  withFlags "L/logical P/physical" 1 s args fun o _ =>
    s.print ((if o.last? ["L", "P"] == some "L" then s.herePath else .ofText s.here.display) ++
      ['\n'])

/-! ## The system -/

def which (s : State) (args : List Bytes) : State :=
  withFlags "a s" 2 s args fun o ps =>
    let s := if ps.isEmpty then s.finish 1 else s
    ps.foldl (fun s p =>
      let all := if p.contains '/' then [p] else (searchPath s).map (inDirectory · p)
      let found := all.filter fun path => match s.disk.reach s.here path.toText with
        | .ok l => (s.disk.get? l matches some (.file _ true))
        | .error _ => false
      match found with
      | [] => s.finish 1
      | first :: _ =>
        if o.has "s" then s
        else s.print ((if o.has "a" then found else [first]).flatMap (· ++ ['\n']))) s

def whoami (s : State) (args : List Bytes) : State :=
  withFlags "" 1 s args fun _ _ => s.print "root\n".toList

def groups (s : State) (_ : List Bytes) : State := s.print "root\n".toList

def id (s : State) (args : List Bytes) : State :=
  withFlags "a u/user g/group G/groups n/name r/real z/zero" 1 s args fun o ps =>
    match ps.filter (· != "root".toList) with
    | p :: _ => s.grumble 1 (quote p ++ ": no such user")
    | [] =>
      if o.has "u" || o.has "g" || o.has "G" then
        s.print (if o.has "n" then "root\n" else "0\n").toList
      else s.print "uid=0(root) gid=0(root) groups=0(root)\n".toList

def uname (s : State) (args : List Bytes) : State :=
  withFlags ("a/all s/kernel-name n/nodename r/kernel-release v/kernel-version m/machine " ++
    "p/processor i/hardware-platform o/operating-system") 1 s args fun o _ =>
    let parts := [("s", "Linux"), ("n", "localhost"), ("r", "6.1.0"), ("v", "#1 SMP"),
      ("m", "x86_64"), ("p", "x86_64"), ("i", "x86_64"), ("o", "GNU/Linux")]
    let asked := parts.filter fun (k, _) => o.has k || o.has "a"
    let shown := if asked.isEmpty then ["Linux"] else asked.map (·.2)
    s.print (Text.join [' '] (shown.map String.toList) ++ ['\n'])

def arch (s : State) (_ : List Bytes) : State := s.print "x86_64\n".toList

def nproc (s : State) (_ : List Bytes) : State := s.print "1\n".toList

def hostname (s : State) (_ : List Bytes) : State := s.print "localhost\n".toList

def tty (s : State) (args : List Bytes) : State :=
  withFlags "s/silent/quiet" 2 s args fun o _ =>
    (if o.has "s" then s else s.print "not a tty\n".toList).finish 1

/-- Limits of the system by name. -/
def getconf (s : State) (args : List Bytes) : State :=
  let limits := [("PAGESIZE", "4096"), ("PAGE_SIZE", "4096"), ("ARG_MAX", "2097152"),
    ("LONG_BIT", "64"), ("INT_MAX", "2147483647"), ("CHAR_BIT", "8"), ("_NPROCESSORS_ONLN", "1")]
  let limitsAt := [("PATH_MAX", "4096"), ("NAME_MAX", "255"), ("PIPE_BUF", "4096")]
  let usage : State := s.complain 2 ("Usage: getconf [-v specification] variable_name " ++
    "[pathname]\n       getconf -a [pathname]").toList
  match args.map String.ofList with
  | [name] =>
    match limits.lookup name with
    | some v => s.print (v ++ "\n").toList
    | none =>
      if limitsAt.any (·.1 == name) then usage
      else s.grumble 2 ("Unrecognized variable '" ++ name ++ "'")
  | [name, _] =>
    match limitsAt.lookup name with
    | some v => s.print (v ++ "\n").toList
    | none => s.grumble 2 ("Unrecognized variable '" ++ name ++ "'")
  | _ => usage

def date (s : State) (args : List Bytes) : State :=
  withFlags ("d=/date f=/file I?/iso-8601 R/rfc-email r=/reference s=/set u/utc/universal " ++
    "/rfc-3339=") 1 s args fun o ps =>
    let now := firstMoment + s.clock / 1000
    let moment : Except String Int := match o.value? "d", o.value? "r" with
      | some t, _ =>
        match Calendar.parse? now t with
        | some m => .ok m
        | none => .error ("invalid date " ++ quote t)
      | none, some p =>
        match s.disk.reach s.here p.toText with
        | .ok l => .ok (firstMoment + s.changed l / 1000)
        | .error f => .error (plainly p f.reason)
      | none, none => .ok now
    let format := match ps with
      | ('+' :: f) :: _ => f
      | _ =>
        if o.has "R" then "%a, %d %b %Y %H:%M:%S %z".toList
        else if o.has "I" then
          match (o.value? "I").map String.ofList with
          | some "seconds" => "%Y-%m-%dT%H:%M:%S+00:00".toList
          | some "minutes" => "%Y-%m-%dT%H:%M+00:00".toList
          | some "hours" => "%Y-%m-%dT%H+00:00".toList
          | _ => "%F".toList
        else if o.has "rfc-3339" then
          (if o.value? "rfc-3339" == some "date".toList then "%F" else "%F %T+00:00").toList
        else "%a %b %e %H:%M:%S %Z %Y".toList
    match ps.find? (·.head? != some '+'), moment with
    | some p, _ => s.grumble 1 ("invalid date " ++ quote p)
    | none, .error message => s.grumble 1 message
    | none, .ok m => s.print (Calendar.format m format ++ ['\n'])

/-! ## Who is there -/

def logname (s : State) (args : List Bytes) : State :=
  withFlags "" 1 s args fun _ ps =>
    match ps with
    | [] => s.grumble 1 "no login name"
    | extra :: _ => refuse s 1 ("extra operand " ++ quote extra)

/-- Nobody has logged in. -/
def users (s : State) (args : List Bytes) : State :=
  withFlags "" 1 s args fun _ ps =>
    match ps with
    | _ :: extra :: _ => refuse s 1 ("extra operand " ++ quote extra)
    | _ => s

/-! ## Names of files -/

/-- Characters that every system takes in names. -/
private def isPortable (c : Char) : Bool := c.isAlphanum || c == '.' || c == '_' || c == '-'

/-- What is wrong with a path, if other systems have to take it or this one. -/
private def pathFault? (s : State) (portable strict : Bool) (p : Bytes) : Option String :=
  let parts := (Bytes.split '/' p).filter (!·.isEmpty)
  let odd := if portable then p.find? fun c => !(isPortable c || c == '/') else none
  let long? (limit : Nat) : Option Bytes := parts.find? (·.length > limit)
  if strict && parts.any (·.head? == some '-') then
    some ("leading '-' in a component of file name " ++ quote p)
  else if p.isEmpty && (portable || strict) then some "empty file name"
  else
    match odd with
    | some c => some ("non-portable character " ++ quoteEscaped c ++ " in file name " ++ quote p)
    | none =>
      if portable then
        if p.length > 255 then
          some ("limit 255 exceeded by length " ++ toString p.length ++ " of file name " ++ quote p)
        else
          (long? 14).map fun part => "limit 14 exceeded by length " ++ toString part.length ++
            " of file name component " ++ quote part
      else if p.isEmpty then some (plainly p Disk.Fault.notFound.reason)
      else
        match s.disk.locate false s.here p.toText with
        | .ok _ => none
        | .error f => if f == .notFound then none else some (plainly p f.reason)
where
  quoteEscaped (c : Char) : String :=
    if ' ' ≤ c && c ≤ '~' then "'" ++ c.toString ++ "'" else "'" ++ String.ofList (octalOf c) ++ "'"

def pathchk (s : State) (args : List Bytes) : State :=
  withFlags "p P /portability" 1 s args fun o ps =>
    if ps.isEmpty then missing s 1
    else
      let portable := o.has "p" || o.has "portability"
      let strict := o.has "P" || o.has "portability"
      ps.foldl (fun s p =>
        match pathFault? s portable strict p with
        | some message => s.grumble 1 message
        | none => s) s

end Graft.Shell.Tool
