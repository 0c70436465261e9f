import Graft.Data.Calendar
import Graft.Shell.Launch
import Graft.Shell.Regex.Replace
import Graft.Shell.Tool.Awk.Parse
import Graft.Shell.Tool.Awk.Table

/-!
# The state of a running report program

Variables, the record and its fields, and the files and commands that are read and written. Output
is kept back until there is much of it, or until another program runs.
-/
namespace Graft.Shell.Tool.Awk

/-- Where a variable is: among those of the whole program, or of the call with a number. -/
structure Ref where
  call : Option Nat
  index : Nat

/-- What a variable holds. A parameter may stand for a table of its caller. -/
inductive Slot where
  | unset
  | scalar (v : Value)
  | table (t : Table)
  | through (r : Ref)

/-- Where written text goes in the end. -/
inductive Sink where
  | errors
  | file (index : Nat)
  | command

/-- A file or command that is written. What is kept back comes last piece first. -/
structure Output where
  name : Bytes
  sink : Sink
  pending : List Bytes

/-- A file or command that is read: what is left, and the status of a command. -/
structure Input where
  name : Bytes
  isCommand : Bool
  rest : Bytes
  status : Int

structure Machine where
  state : State
  program : Program
  shared : Array Slot
  calls : Array (Array Slot)
  /-- The record, unless fields were changed since it was built. -/
  record : Bytes
  isStale : Bool
  /-- The fields, if the record was divided. -/
  fields : Option (Array Value)
  /-- The ranges that have begun. -/
  ranges : List Nat
  /-- Standard output that is kept back, last piece first, and its size. -/
  pending : List Bytes
  size : Nat
  outputs : List Output
  inputs : List Input
  /-- What is left of the file that is read, and the number of the next argument. -/
  main : Option Bytes
  nextArgument : Nat
  hasRead : Bool
  /-- More input would come. -/
  isCut : Bool
  regexes : Std.HashMap Bytes Regex.Program
  status : Nat
  /-- The run ends, at once or after the rules for the end. -/
  isEnding : Bool
  hasFailed : Bool
  returned : Value
  seed : Value
  draws : Nat

namespace Machine

/-! ## Variables -/

private def slot (m : Machine) (r : Ref) : Slot :=
  match r.call with
  | none => m.shared.getD r.index .unset
  | some c => (m.calls.getD c #[]).getD r.index .unset

private def setSlot (m : Machine) (r : Ref) (s : Slot) : Machine :=
  match r.call with
  | none => { m with shared := m.shared.setIfInBounds r.index s }
  | some c => { m with calls := m.calls.modify c (·.setIfInBounds r.index s) }

def ref (m : Machine) : Name → Ref
  | .shared i => ⟨none, i⟩
  | .own i => ⟨some (m.calls.size - 1), i⟩

/-- Where the table is that a variable stands for. -/
private def follow (m : Machine) : Nat → Ref → Ref
  | 0, r => r
  | fuel + 1, r =>
    match m.slot r with
    | .through r => m.follow fuel r
    | _ => r

/-- Does something with the table of a variable. -/
def withTable (m : Machine) (n : Name) (f : Table → Table × α) : Machine × α :=
  let r := m.follow (m.calls.size + 1) (m.ref n)
  let t := match m.slot r with
    | .table t => t
    | _ => .empty
  let (t, a) := f t
  (m.setSlot r (.table t), a)

/-- What a function gets for a variable as its argument. -/
def passed (m : Machine) (n : Name) : Slot :=
  let r := m.ref n
  match m.slot r with
  | .scalar v => .scalar v
  | .through q => .through q
  | .table _ | .unset => .through r

private def special (m : Machine) (i : Nat) : Value :=
  match m.shared.getD i .unset with
  | .scalar v => v
  | _ => .unset

def setSpecial (m : Machine) (i : Nat) (v : Value) : Machine :=
  { m with shared := m.shared.setIfInBounds i (.scalar v) }

def keyFormat (m : Machine) : Bytes := (m.special Special.convfmt).toText []

def text (m : Machine) (v : Value) : Bytes :=
  match v with
  | .text b | .given b => b
  | v => v.toText m.keyFormat

def specialText (m : Machine) (i : Nat) : Bytes := m.text (m.special i)

/-! ## Failing -/

def fail (m : Machine) (message : String) : Machine :=
  if m.hasFailed then m
  else
    let state := m.state.grumble 2 message
    { m with state, status := 2, isEnding := true, hasFailed := true }

/-- Fails while the program runs. -/
def failRunning (m : Machine) (message : String) : Machine :=
  let number (i : Nat) : String := String.ofList (m.specialText i)
  m.fail ("run time error: " ++ message ++ "\n\tFILENAME=\"" ++ number Special.filename ++
    "\" FNR=" ++ number Special.fnr ++ " NR=" ++ number Special.nr)

/-! ## Regular expressions -/

/-- The expression that a text stands for. -/
def regex (m : Machine) (b : Bytes) : Machine × Option Regex.Program :=
  match m.regexes[b]? with
  | some p => (m, some p)
  | none =>
    match Regex.compile Reading.regexDialect b with
    | .ok p => ({ m with regexes := m.regexes.insert b p }, some p)
    | .error f => (m.failRunning (Reading.regexMessage f b), none)

/-! ## The record -/

private def isBlankByte (c : Char) : Bool := c == ' ' || c == '\t' || c == '\n'

/-- The words of a text, behind those found before, last first. -/
private def wordsBehind : Nat → List Bytes → Bytes → List Bytes
  | 0, done, _ => done.reverse
  | fuel + 1, done, t =>
    match t.dropWhile isBlankByte with
    | [] => done.reverse
    | t =>
      let (w, rest) := t.span (!isBlankByte ·)
      wordsBehind fuel (w :: done) rest

/-- The parts of a text between matches, last first, from a place on. -/
private def between (p : Regex.Program) (t : Array Char) : Nat → Nat → Nat → List Bytes → List Bytes
  | 0, start, _, done => ((t.extract start t.size).toList :: done).reverse
  | fuel + 1, start, place, done =>
    match (p.search t place false).bind (·.getD 0 none) with
    | some (a, z) =>
      if a == z then
        if t.size ≤ a then ((t.extract start t.size).toList :: done).reverse
        else between p t fuel start (a + 1) done
      else between p t fuel z z ((t.extract start a).toList :: done)
    | none => ((t.extract start t.size).toList :: done).reverse

/-- The parts of a text that a separator divides. -/
def divide (m : Machine) (t separator : Bytes) : Machine × List Bytes :=
  if t.isEmpty then (m, [])
  else
    match separator with
    | [' '] => (m, wordsBehind (t.length + 1) [] t)
    | [] => (m, t.map fun c => [c])
    | [c] => (m, Bytes.split c t)
    | b =>
      match m.regex b with
      | (m, some p) => (m, between p t.toArray (t.length + 1) 0 0 [])
      | (m, none) => (m, [])

/-- The parts of a text between matches of an expression. -/
def divideBy (p : Regex.Program) (t : Bytes) : List Bytes :=
  if t.isEmpty then [] else between p t.toArray (t.length + 1) 0 0 []

/-- Divides the record into fields. -/
def divided (m : Machine) : Machine × Array Value :=
  match m.fields with
  | some fs => (m, fs)
  | none =>
    let (m, parts) := m.divide m.record (m.specialText Special.fs)
    let fs := (parts.map Value.given).toArray
    ({ m with fields := some fs }, fs)

def setRecord (m : Machine) (b : Bytes) : Machine :=
  { m with record := b, isStale := false, fields := none }

/-- Builds the record anew if fields were changed. -/
def built (m : Machine) : Machine :=
  if !m.isStale then m
  else
    let fs := m.fields.getD #[]
    let record := Text.join (m.specialText Special.ofs) (fs.toList.map m.text)
    { m with record, isStale := false }

def field (m : Machine) (i : Nat) : Machine × Value :=
  if i = 0 then
    let m := m.built
    (m, .given m.record)
  else
    let (m, fs) := m.divided
    (m, fs.getD (i - 1) .unset)

/-- Sets the number of fields. -/
def setCount (m : Machine) (n : Nat) : Machine :=
  let (m, fs) := m.divided
  let fs := if n ≤ fs.size then fs.extract 0 n else fs ++ Array.replicate (n - fs.size) (.text [])
  { m with fields := some fs, isStale := true }

def setField (m : Machine) (i : Nat) (v : Value) : Machine :=
  if i = 0 then m.setRecord (m.text v)
  else
    let (m, fs) := m.divided
    let m := if fs.size < i then m.setCount i else m
    { m with fields := m.fields.map (·.setIfInBounds (i - 1) v), isStale := true }

/-- The value of a variable. -/
def valueOf (m : Machine) (n : Name) : Machine × Value :=
  if n == .shared Special.nf then
    let (m, fs) := m.divided
    (m, .number (Float.ofNat fs.size))
  else
    match m.slot (m.ref n) with
    | .scalar v => (m, v)
    | _ => (m, .unset)

def setVariable (m : Machine) (n : Name) (v : Value) : Machine :=
  if n == .shared Special.nf then m.setCount v.toNumber.toUInt64.toNat
  else if n == .shared Special.fs then (m.divided.1).setSlot (m.ref n) (.scalar v)
  else m.setSlot (m.ref n) (.scalar v)

/-! ## Output -/

/-- Writes standard output that was kept back. -/
def flushPrinted (m : Machine) : Machine :=
  if m.pending.isEmpty then m
  else
    let b := m.pending.reverse.flatten
    { m with state := m.state.print b, pending := [], size := 0 }

/-- Writes what was kept back for a file. -/
private def flushOutput (m : Machine) (o : Output) : Machine × Output :=
  match o.sink with
  | .file i =>
    let b := o.pending.reverse.flatten
    let s := { (m.state.setDescriptor 3 i).write 3 b with descriptors := m.state.descriptors }
    ({ m with state := s }, { o with pending := [] })
  | _ => (m, o)

/-- Writes all that was kept back for files and for standard output. -/
def flush (m : Machine) : Machine :=
  let m := m.flushPrinted
  let (m, os) := m.outputs.foldl (fun ((m, os) : Machine × List Output) o =>
    let (m, o) := m.flushOutput o
    (m, o :: os)) (m, [])
  { m with outputs := os.reverse }

/-- How much is kept back. -/
private def bufferSize : Nat := 4096

def print (m : Machine) (b : Bytes) : Machine :=
  let m := { m with pending := b :: m.pending, size := m.size + b.length }
  if bufferSize < m.size then m.flushPrinted else m

private def failOpening (m : Machine) (path : Bytes) (reason : String) : Machine :=
  m.fail ("cannot open \"" ++ String.ofList path ++ "\" for output (" ++ reason ++ ")")

/-- The output of a name, which is opened if it is new. -/
private def openOutput (m : Machine) (r : Redirection) (name : Bytes) : Machine × Option Output :=
  match m.outputs.find? (·.name == name) with
  | some o => (m, some o)
  | none =>
    match r with
    | .pipe => (m.flush, some ⟨name, .command, []⟩)
    | r =>
      if device? name == some .errors then (m, some ⟨name, .errors, []⟩)
      else
        match device? name, m.state.place name with
        | none, .error f => (m.failOpening name f.reason, none)
        | _, _ =>
          match openPath m.state (if r == .append then .append else .write) name with
          | .ok (s, i) => ({ m with state := s }, some ⟨name, .file i, []⟩)
          | .error _ => (m.failOpening name "No such file or directory", none)

/-- Writes text to a file or command. -/
def write (m : Machine) (r : Redirection) (name b : Bytes) : Machine :=
  if r != .pipe && (device? name == some .output || name == ['-']) then m.print b
  else
    match m.openOutput r name with
    | (m, none) => m
    | (m, some o) =>
      let others := m.outputs.filter (·.name != name)
      match o.sink with
      | .errors =>
        let s := { m.state.write 2 b with lost := m.state.lost }
        { m with state := s, outputs := o :: others }
      | _ => { m with outputs := { o with pending := b :: o.pending } :: others }

/-- The words that run a command. -/
def shellWords (command : Bytes) : List Bytes := ["/bin/sh".toList, "-c".toList, command]

/-- The number by which an ending is told. -/
def statusOf : Ending → Int
  | .exited n => n
  | .killed n => 256 + n

/-- Finishes an output. A command runs now on what was written for it. -/
private def closeOutput (launch : Launch) (m : Machine) (o : Output) : Machine × Int :=
  match o.sink with
  | .errors => (m, 0)
  | .file _ =>
    let (m, _) := m.flushOutput { o with pending := o.pending }
    match m.state.lost with
    | some reason =>
      let m := { m with state := { m.state with lost := none } }
      (m.fail ("close failed on file \"" ++ String.ofList o.name ++ "\" (" ++ reason ++ ")"), -1)
    | none => (m, 0)
  | .command =>
    let (piped, i) := m.state.openPipe o.pending.reverse.flatten State.unlimited
    let (after, e) := launch.run (piped.setDescriptor 0 i) (shellWords o.name)
    ({ m with state := { after with descriptors := m.state.descriptors } }, statusOf e)

/-- Closes all files and commands of a name. -/
def close (launch : Launch) (m : Machine) (name : Bytes) : Machine × Int :=
  let outs := m.outputs.filter (·.name == name)
  let ins := m.inputs.filter (·.name == name)
  let m := { m with
    outputs := m.outputs.filter (·.name != name), inputs := m.inputs.filter (·.name != name) }
  let status : Int := match ins with
    | [] => -1
    | i :: _ => i.status
  outs.foldl (fun ((m, _) : Machine × Int) o => closeOutput launch m o) (m, status)

/-- Ends all output. -/
def finish (launch : Launch) (m : Machine) : Machine :=
  let os := m.outputs
  let m := os.foldl (fun m o => (closeOutput launch m o).1) { m with outputs := [] }
  let m := m.flushPrinted
  match m.state.lost with
  | some reason =>
    let m := { m with state := { m.state with lost := none }, hasFailed := false }
    m.fail ("close failed on file \"/dev/stdout\" (" ++ reason ++ ")")
  | none => m

/-! ## Input -/

/-- The first record of a text, and what follows it. -/
def takeRecord (m : Machine) (t : Bytes) : Machine × Option (Bytes × Bytes) :=
  match m.specialText Special.rs with
  | [c] =>
    if t.isEmpty then (m, none)
    else
      let (record, rest) := t.span (· != c)
      (m, some (record, rest.drop 1))
  | [] =>
    match t.dropWhile (· == '\n') with
    | [] => (m, none)
    | t =>
      let rec go : Bytes → Bytes → Bytes × Bytes
        | done, '\n' :: '\n' :: r => (done.reverse, r.dropWhile (· == '\n'))
        | done, ['\n'] => (done.reverse, [])
        | done, c :: r => go (c :: done) r
        | done, [] => (done.reverse, [])
      (m, some (go [] t))
  | b =>
    if t.isEmpty then (m, none)
    else
      match m.regex b with
      | (m, none) => (m, none)
      | (m, some p) =>
        match (p.search t.toArray 0 false).bind (·.getD 0 none) with
        | some (a, z) => (m, some (t.take a, t.drop (max z (a + 1))))
        | none => (m, some (t, []))

/-- The variable that an argument sets, and its value. -/
def assignment? (a : Bytes) : Option (Bytes × Bytes) :=
  let name := a.takeWhile fun c => c.isAlphanum || c == '_'
  match a.drop name.length with
  | '=' :: v =>
    if name.isEmpty || name.head?.any Char.isDigit then none
    else some (name, unescapeText (v.length + 1) [] v)
  | _ => none

/-- Sets a variable by its name, if the program has it. -/
def assignNamed (m : Machine) (name v : Bytes) : Machine :=
  match m.program.names.idxOf? name with
  | some i => m.setVariable (.shared i) (.given v)
  | none => m

/-- Reads a path, or the input. -/
private def openMain (m : Machine) (path : Bytes) : Machine :=
  match content { m.state with starved := false } path with
  | (s, .ok t) =>
    let isCut := s.starved
    let m := { m with
      state := { s with starved := m.state.starved }, main := some t, hasRead := true, isCut }
    (m.setSpecial Special.filename (.text (if path == ['-'] then [] else path))).setSpecial
      Special.fnr (.number 0)
  | (s, .error reason) =>
    { m with state := s }.fail ("cannot open \"" ++ String.ofList path ++ "\" (" ++ reason ++ ")")

/-- Goes to the next file among the arguments. -/
private def openNext : Nat → Machine → Machine
  | 0, m => m
  | fuel + 1, m =>
    let count := (m.special Special.argc).toNumber.toUInt64.toNat
    if m.nextArgument < count then
      let (m, a) := m.withTable (.shared Special.argv) fun t =>
        t.find m.keyFormat (.number (Float.ofNat m.nextArgument))
      let m := { m with nextArgument := m.nextArgument + 1 }
      let a := m.text (a.getD .unset)
      if a.isEmpty then openNext fuel m
      else
        match assignment? a with
        | some (name, v) => openNext fuel (m.assignNamed name v)
        | none => m.openMain a
    else if m.hasRead then m
    else m.openMain ['-']

/-- The next record of the files among the arguments. -/
private def nextFrom : Nat → Machine → Machine × Option Bytes
  | 0, m => (m, none)
  | fuel + 1, m =>
    match m.main with
    | none =>
      let m := openNext (m.nextArgument + Nat.pow 10 6) m
      if m.hasFailed || m.main.isNone then (m, none) else nextFrom fuel m
    | some t =>
      match m.takeRecord t with
      | (m, some (record, rest)) => ({ m with main := some rest }, some record)
      | (m, none) =>
        let s := if m.isCut then { m.state with starved := true } else m.state
        nextFrom fuel { m with main := none, state := s, isCut := false }

/-- The next record; the counts of records go up. -/
def nextRecord (m : Machine) : Machine × Option Bytes :=
  match nextFrom (Nat.pow 10 6) m with
  | (m, none) => (m, none)
  | (m, some record) =>
    let up (i : Nat) (m : Machine) : Machine :=
      m.setSpecial i (.number ((m.special i).toNumber + 1))
    (up Special.fnr (up Special.nr m), some record)

/-- A file or command that is read by name. -/
private def openInput (launch : Launch) (m : Machine) (isCommand : Bool) (name : Bytes) :
    Machine × Option Input :=
  match m.inputs.find? fun i => i.name == name && i.isCommand == isCommand with
  | some i => (m, some i)
  | none =>
    if isCommand then
      let m := m.flush
      let (s, out, e) := launch.capture m.state (shellWords name)
      ({ m with state := s }, some ⟨name, true, out, statusOf e⟩)
    else
      match content m.state name with
      | (s, .ok t) => ({ m with state := s }, some ⟨name, false, t, 0⟩)
      | (s, .error _) => ({ m with state := s }, none)

/-- The next record of a file or command, and how reading went. -/
def readFrom (launch : Launch) (m : Machine) (isCommand : Bool) (name : Bytes) :
    Machine × Option Bytes × Int :=
  match openInput launch m isCommand name with
  | (m, none) => (m, none, -1)
  | (m, some i) =>
    let others := m.inputs.filter fun j => !(j.name == name && j.isCommand == isCommand)
    match m.takeRecord i.rest with
    | (m, some (record, rest)) =>
      ({ m with inputs := { i with rest } :: others }, some record, 1)
    | (m, none) => ({ m with inputs := { i with rest := [] } :: others }, none, 0)

/-! ## Formats -/

/-- An integer for a format that shows it with a sign. -/
private def fillInteger (f : Format.Field) (x : Float) : Bytes :=
  let n : Int := match Decimal.Value.ofFloat x with
    | .finite negative q => if negative then -(q.num / q.den : Nat) else (q.num / q.den : Nat)
    | .infinite true => -Int.pow 2 63 - 1
    | _ => Int.pow 2 64
  if n ≥ Int.pow 2 63 then Format.fillUnsigned f 'u' (min n (Int.pow 2 64 - 1)).toNat
  else Format.fillSigned f (if n < -(Int.pow 2 63) then 1 - Int.pow 2 63 else n)

/-- An integer for a format that shows it without a sign. -/
private def fillNatural (f : Format.Field) (kind : Char) (x : Float) : Bytes :=
  let n : Int := match Decimal.Value.ofFloat x with
    | .finite negative q => if negative then -(q.num / q.den : Nat) else (q.num / q.den : Nat)
    | _ => Int.pow 2 64
  let n := max (1 - Int.pow 2 63) (min n (Int.pow 2 64 - 1))
  Format.fillUnsigned f kind (n % Int.pow 2 64).toNat

private def fillCharacter (f : Format.Field) (v : Value) : Bytes :=
  let byte (x : Float) : Bytes := [Char.ofNat (x.toInt64.toInt % 256).toNat]
  let first (b : Bytes) : Bytes := [b.headD (Char.ofNat 0)]
  let b := match v with
    | .number x => byte x
    | .given b =>
      match wholeNumber? b with
      | some x => byte x
      | none => first b
    | .text b => first b
    | .unset => first []
  Format.fillText { f with precision := none } b

/-- Takes a width or a precision: digits, or a star for the next value. -/
private def amount (t : Bytes) (vs : List Value) : Option (Option Int × Bytes × List Value) :=
  match t, vs with
  | '*' :: _, [] => none
  | '*' :: r, v :: vs => some (some v.toNumber.toInt64.toInt, r, vs)
  | t, vs =>
    let ds := t.takeWhile Char.isDigit
    some (if ds.isEmpty then none else some (ofDigits ds : Nat), t.drop ds.length, vs)

/-- Puts values into a format. Gives the text so far, last piece first, and what is wrong. -/
private def fill (m : Machine) (caller : String) (whole : Bytes) :
    Nat → Nat → List Bytes → Bytes → List Value → List Bytes × Option String
  | 0, _, done, _, _ => (done, none)
  | fuel + 1, number, done, t, vs =>
    let plain := t.takeWhile (· != '%')
    let done := plain :: done
    let shown := caller ++ "(\"" ++ String.ofList whole ++ "\")"
    let few : List Bytes × Option String :=
      (done, some ("not enough arguments passed to " ++ shown))
    match t.drop plain.length with
    | [] => (done, none)
    | '%' :: '%' :: r => fill m caller whole fuel number (['%'] :: done) r vs
    | r =>
      let r := r.drop 1
      let isFlag (c : Char) : Bool := c == '-' || c == '0' || c == '+' || c == ' ' || c == '#'
      let flags := r.takeWhile isFlag
      match amount (r.drop flags.length) vs with
      | none => few
      | some (width, r, vs) =>
        let point : Option (Option Int × Bytes × List Value) := match r with
          | '.' :: r => (amount r vs).map fun (p, r, vs) => (some (p.getD 0), r, vs)
          | r => some (none, r, vs)
        match point with
        | none => few
        | some (precision, r, vs) =>
          let r := r.dropWhile fun c => c == 'l' || c == 'h'
          let w := width.getD 0
          let f : Format.Field := ⟨flags.contains '-' || w < 0, flags.contains '0',
            flags.contains '+', flags.contains ' ', flags.contains '#', w.natAbs,
            precision.bind fun p => if p < 0 then none else some p.toNat⟩
          match vs with
          | [] => few
          | v :: vs =>
            let x := v.toNumber
            let text? : Option Bytes := match r.head? with
              | some 'd' | some 'i' => some (fillInteger f x)
              | some 's' => some (Format.fillText f (m.text v))
              | some 'c' => some (fillCharacter f v)
              | some c =>
                if ['o', 'x', 'X', 'u'].contains c then some (fillNatural f c x)
                else if ['e', 'E', 'f', 'F', 'g', 'G'].contains c then
                  let value := match Decimal.Value.ofFloat x with
                    | .nan _ => .nan true
                    | v => v
                  some (Format.fillFloat f c value)
                else none
              | none => none
            match text? with
            | some b => fill m caller whole fuel (number + 1) (b :: done) (r.drop 1) vs
            | none =>
              (done, some ("improper conversion(number " ++ toString number ++ ") in " ++ shown))

/-- The text of values in a format, and what is wrong with it. -/
def format (m : Machine) (caller : String) (vs : List Value) : Bytes × Option String :=
  match vs with
  | [] => ([], none)
  | v :: vs =>
    let t := m.text v
    let (pieces, wrong) := fill m caller t (t.length + 2) 1 [] t vs
    (pieces.reverse.flatten, wrong)

end Machine

end Graft.Shell.Tool.Awk
