import Graft.Shell.Fields

/-!
# What programs have in common

Programs of the system read options and files in the same way, and complain in the same words. A
program takes a process and its arguments, and leaves the process with what it printed, the input it
did not read, and its status.
-/
namespace Graft.Shell.Tool

/-- How a program runs others: in its own place, or beside itself, waiting for their end. -/
structure Launch where
  replace : State → List Bytes → State
  run : State → List Bytes → State × Ending

/-- Runs a program and takes what it prints. -/
def Launch.capture (launch : Launch) (s : State) (words : List Bytes) : State × Bytes × Ending :=
  let (piped, i) := s.openPipe [] State.unlimited
  let (after, e) := launch.run (piped.setDescriptor 1 i) words
  ({ after with descriptors := s.descriptors }, after.held i, e)

/-! ## Options -/

inductive Takes where
  | nothing
  | value
  | maybe
  deriving DecidableEq, Repr

/-- An option under its letter, if it has one, and its long names. The letter and the names may
differ in whether a value can follow. -/
structure Flag where
  letter : Option Char
  names : List Bytes
  letterTakes : Takes
  takes : Takes

namespace Flag

/-- The key under which an option is kept: its letter or else its first name. -/
def key (f : Flag) : String :=
  match f.letter with
  | some c => c.toString
  | none => String.ofList (f.names.headD [])

/-- An option written as its letter and its long names with slashes between them; a sign of equality
behind one of them asks for a value, a question mark allows one. Behind a name the question mark is
not about the letter. -/
def ofText (t : Bytes) : Flag :=
  let takes : Takes :=
    if t.contains '=' then .value else if t.contains '?' then .maybe else .nothing
  let inLetter := (t.takeWhile (· != '/')).contains '?'
  let letterTakes : Takes := if takes == .maybe && !inLetter then .nothing else takes
  match Bytes.split '/' (t.filter fun c => c != '=' && c != '?') with
  | [] => ⟨none, [], letterTakes, takes⟩
  | first :: names => ⟨first.head?, names, letterTakes, takes⟩

/-- The options that words describe. -/
def all (t : String) : List Flag :=
  ((Bytes.split ' ' t.toList).filter (!·.isEmpty)).map ofText

end Flag

/-- The options that were given, in order, with their values. -/
abbrev Options := List (String × Option Bytes)

namespace Options

def has (o : Options) (key : String) : Bool := o.any (·.1 == key)

/-- The last value of an option. -/
def value? (o : Options) (key : String) : Option Bytes := (o.reverse.lookup key).bind id

/-- All values of an option. -/
def values (o : Options) (key : String) : List Bytes :=
  o.filterMap fun (k, v) => if k == key then v else none

/-- The last of some options that was given. -/
def last? (o : Options) (keys : List String) : Option String :=
  (o.reverse.find? fun (k, _) => keys.contains k).map (·.1)

end Options

/-- An option with a long name, given with or without a value. -/
private def longFlag (flags : List Flag) (name given : Bytes) : Except String (Flag × Bytes) :=
  let shown := "'--" ++ String.ofList given ++ "'"
  let exact := flags.find? (·.names.contains name)
  let close := flags.flatMap fun f => (f.names.filter name.isPrefixOf).map (f, ·)
  match exact, close with
  | some f, _ => .ok (f, name)
  | none, [(f, full)] => .ok (f, full)
  | none, [] => .error ("unrecognized option " ++ shown)
  | none, (f, full) :: more =>
    if more.all fun (g, _) => g.key == f.key then .ok (f, full)
    else
      let names := String.join (close.map fun (_, n) => " '--" ++ String.ofList n ++ "'")
      .error ("option " ++ shown ++ " is ambiguous; possibilities:" ++ names)

/-- Reads options and operands. Options end at the first operand if they come `first`. -/
def parse (flags : List Flag) (first : Bool) :
    Nat → List Bytes → Except String (Options × List Bytes)
  | 0, args => .ok ([], args)
  | _, [] => .ok ([], [])
  | fuel + 1, a :: rest =>
    let goOn (o : Options) (rest : List Bytes) : Except String (Options × List Bytes) := do
      let (os, ps) ← parse flags first fuel rest
      return (o ++ os, ps)
    match a with
    | ['-', '-'] => .ok ([], rest)
    | '-' :: '-' :: t => do
      let name := t.takeWhile (· != '=')
      let given := (t.drop name.length).tail
      let (f, full) ← longFlag flags name t
      let hasValue : Bool := name.length < t.length
      match f.takes, hasValue, rest with
      | .nothing, true, _ =>
        .error ("option '--" ++ String.ofList full ++ "' doesn't allow an argument")
      | .value, false, [] =>
        .error ("option '--" ++ String.ofList full ++ "' requires an argument")
      | .value, false, v :: rest => goOn [(f.key, some v)] rest
      | _, true, _ => goOn [(f.key, some given)] rest
      | _, false, _ => goOn [(f.key, none)] rest
    | '-' :: c :: r =>
      match flags.find? (·.letter == some c), r, rest with
      | none, _, _ => .error ("invalid option -- '" ++ c.toString ++ "'")
      | some f, _, _ =>
        match f.letterTakes, r, rest with
        | .nothing, [], _ => goOn [(f.key, none)] rest
        | .nothing, _, _ => goOn [(f.key, none)] (('-' :: r) :: rest)
        | .maybe, [], _ => goOn [(f.key, none)] rest
        | .value, [], [] =>
          .error ("option requires an argument -- '" ++ c.toString ++ "'")
        | .value, [], v :: rest => goOn [(f.key, some v)] rest
        | _, r, _ => goOn [(f.key, some r)] rest
    | _ =>
      if first then .ok ([], a :: rest)
      else do
        let (os, ps) ← parse flags first fuel rest
        return (os, a :: ps)

/-- Fails and refers to the help of the program. -/
def refuse (s : State) (status : Nat) (message : String) : State :=
  s.grumble status
    (message ++ "\nTry '" ++ String.ofList s.called ++ " --help' for more information.")

/-- Goes on with options and operands, or fails with the given status. -/
def withFlags (flags : String) (status : Nat) (s : State) (args : List Bytes)
    (run : Options → List Bytes → State) : State :=
  match parse (Flag.all flags) false (Bytes.room args) args with
  | .ok (o, operands) => run o operands
  | .error message => refuse s status message

/-- Like `withFlags`, for options that end at the first operand. -/
def withFirstFlags (flags : String) (status : Nat) (s : State) (args : List Bytes)
    (run : Options → List Bytes → State) : State :=
  match parse (Flag.all flags) true (Bytes.room args) args with
  | .ok (o, operands) => run o operands
  | .error message => refuse s status message

/-! ## Names in messages -/

private def isPrintable (c : Char) : Bool := ' ' ≤ c && c ≤ '~'

/-- Characters that mean the same in both kinds of quotes. -/
private def isTame (c : Char) : Bool :=
  c.isAlphanum || "%+,-./:]_ '".toList.contains c

/-- Characters that a shell would not take for themselves. -/
private def isWild (c : Char) : Bool :=
  !isPrintable c || " !\"$&'()*;<=>?[\\^`|".toList.contains c

/-- The escape for a character. -/
def octalOf (c : Char) : Bytes :=
  let n := c.toNat
  match n with
  | 7 => ['\\', 'a']
  | 8 => ['\\', 'b']
  | 9 => ['\\', 't']
  | 10 => ['\\', 'n']
  | 11 => ['\\', 'v']
  | 12 => ['\\', 'f']
  | 13 => ['\\', 'r']
  | _ => '\\' :: [n / 64, n / 8 % 8, n % 8].map fun d => Char.ofNat (d + '0'.toNat)

/-- Goes on inside quotes; `escaped` says whether they are those of an escape. -/
private def quoteOn : Bool → Bytes → Bytes
  | _, [] => ['\'']
  | escaped, c :: r =>
    if !isPrintable c then (if escaped then [] else ['\'', '$', '\'']) ++ octalOf c ++
      quoteOn true r
    else
      (if escaped then ['\'', '\''] else []) ++
        (if c == '\'' then ['\'', '\\', '\'', '\''] else [c]) ++ quoteOn false r

/-- A name in quotes. -/
def quote (t : Bytes) : String :=
  String.ofList <|
    if t.contains '\'' && t.all isTame then '"' :: t ++ ['"'] else '\'' :: quoteOn false t

/-- A name, in quotes if it needs them. -/
def quoteIfWild (t : Bytes) : String :=
  let isOdd := t.isEmpty || t.any isWild || t.contains ':' ||
    t.head? == some '#' || t.head? == some '~' || t == ['\x7b'] || t == ['\x7d']
  if isOdd then quote t else String.ofList t

/-! ## Files -/

/-- What is read when a program opens a path, or why it cannot be read. A dash means the input. -/
def content (s : State) (path : Bytes) : State × Except String Bytes :=
  let descriptor (n : Nat) : State × Except String Bytes :=
    match s.readable n with
    | .ok (b, cut) => ({ s.advance n b.length with starved := s.starved || cut }, .ok b)
    | .error reason => (s, .error reason)
  match path, device? path with
  | ['-'], _ | _, some .input => descriptor 0
  | _, some .output => descriptor 1
  | _, some .errors => descriptor 2
  | _, some .zeros => (s, .ok manyZeros)
  | _, some _ => (s, .ok [])
  | _, none =>
    match s.load path with
    | .ok b => (s, .ok b)
    | .error f => (s, .error f.reason)

/-- Does something with the text of each file, or of the input if there are none. Complains about
those that cannot be read. -/
def forEachFile (s : State) (paths : List Bytes) (status : Nat)
    (complaint : Bytes → String → String) (f : State → Bytes → Bytes → State) : State :=
  (if paths.isEmpty then [['-']] else paths).foldl (fun s p =>
    if s.halt.isSome then s
    else
      match content s p with
      | (s, .ok t) => f s p t
      | (s, .error reason) => s.grumble status (complaint p reason)) s

/-- The text of all files together. -/
def gather (s : State) (paths : List Bytes) (status : Nat)
    (complaint : Bytes → String → String) : State × Bytes :=
  let (s, ts) := (if paths.isEmpty then [['-']] else paths).foldl (fun (s, ts) p =>
    match content s p with
    | (s, .ok t) => (s, t :: ts)
    | (s, .error reason) => (s.grumble status (complaint p reason), ts))
    (s, ([] : List Bytes))
  (s, ts.reverse.flatten)

/-- The reason behind the name of a file. -/
def plainly (p : Bytes) (reason : String) : String := quoteIfWild p ++ ": " ++ reason

/-- Fails for lack of an operand. -/
def missing (s : State) (status : Nat) : State := refuse s status "missing operand"

def isSpace (c : Char) : Bool := c == ' ' || ('\t' ≤ c && c ≤ '\r')

/-- A line with its end. -/
def ended (l : Bytes) : Bytes := if l.getLast? == some '\n' then l else l ++ ['\n']

/-- A line without its end. -/
def bare (l : Bytes) : Bytes := if l.getLast? == some '\n' then l.dropLast else l

def isDigits (t : Bytes) : Bool := !t.isEmpty && t.all Char.isDigit

/-- The number that digits stand for. -/
def ofDigits (t : Bytes) : Nat := t.foldl (fun n c => 10 * n + (c.toNat - '0'.toNat)) 0

/-- A text behind blanks, at least so wide. -/
def padLeft (width : Nat) (t : Bytes) : Bytes := List.replicate (width - t.length) ' ' ++ t

/-- A text before blanks, at least so wide. -/
def padRight (width : Nat) (t : Bytes) : Bytes := t ++ List.replicate (width - t.length) ' '

/-- Factors that a letter behind a number stands for. -/
def factor? (unit : Bytes) : Option Nat :=
  match String.ofList unit with
  | "" => some 1
  | "b" => some 512
  | "c" => some 1
  | "w" => some 2
  | "K" | "k" | "KiB" => some 1024
  | "kB" | "KB" => some 1000
  | "M" | "MiB" => some (Nat.pow 1024 2)
  | "MB" => some (Nat.pow 1000 2)
  | "G" | "GiB" => some (Nat.pow 1024 3)
  | "GB" => some (Nat.pow 1000 3)
  | "T" | "TiB" => some (Nat.pow 1024 4)
  | "P" | "PiB" => some (Nat.pow 1024 5)
  | "E" | "EiB" => some (Nat.pow 1024 6)
  | _ => none

/-- A number with a letter for its factor. -/
def sized? (t : Bytes) : Option Nat :=
  let ds := t.takeWhile Char.isDigit
  match factor? (t.drop ds.length) with
  | some f => if ds.isEmpty then (if f == 1 then none else some f) else some (ofDigits ds * f)
  | none => none

end Graft.Shell.Tool
