import Graft.Shell.Account
import Graft.Shell.Runner

/-!
# Expansion

Words become texts, patterns or fields: variables give their values, commands their output and
arithmetic expressions their results. An expansion that fails ends the shell.
-/
namespace Graft.Shell

private def trimNewlines (t : Bytes) : Bytes := (t.reverse.dropWhile (· == '\n')).reverse

private def withoutNull (t : Bytes) : Bytes := t.filter (·.toNat != 0)

/-- The arguments as they stand in a word. -/
private def argumentPieces (args : List Bytes) : List Piece :=
  match args with
  | [] => []
  | a :: rest => .bytes a true false :: rest.flatMap fun b => [.gap, .bytes b true false]

def arithmeticMessage (t : Bytes) : Arithmetic.Flaw → Bytes
  | .divisionByZero => "arithmetic expression: division by zero: \"".toList ++ t ++ ['"']
  | .expecting what =>
    "arithmetic expression: expecting ".toList ++ what.toList ++ ": \"".toList ++ t ++ ['"']
  | .badNumber t => "Illegal number: ".toList ++ t
  | .readOnly name => name ++ ": is read only".toList

/-- The arguments together as one value, divided by the first separator. -/
private def joined (s : State) : Bytes := Text.join (s.separators.take 1) s.arguments

/-- What the arguments are when they stand in a word. In a word that is split they are divided
wherever they end. -/
private def allArguments (s : State) (name : Bytes) (quoted splits : Bool) : List Piece :=
  if quoted && name == ['@'] && splits then argumentPieces s.arguments
  else if quoted || !splits then
    [.bytes (joined s) quoted false]
  else [.bytes (Text.join [Char.ofNat 0] s.arguments) false true]

/-- The name of the command among the words found so far. -/
def commandName (words : List Bytes) : Option Bytes :=
  let isPassed (w : Bytes) : Bool := w == "command".toList || w.head? == some '-'
  if words.head? == some "command".toList then (words.dropWhile isPassed).head? else words.head?

namespace Runner

/-- The output of commands without the line ends behind it. -/
def capture (r : Runner) (s : State) (body : List Chain) : State × Bytes :=
  let (child, i) := (fork s).openPipe [] State.unlimited
  let child := r.conclude (r.chains { child.setDescriptor 1 i with tested := false } body)
  let after := resume s child
  ({ after with substituted := after.status, status := s.status },
    trimNewlines (withoutNull (child.held i)))

/-- The value of a variable in one of the ways it can be used. -/
def expandVariable (r : Runner) (s : State) (splits : Bool) (name : Bytes) (use : Use)
    (quoted : Bool) : State × List Piece :=
  let isAll := name == ['@'] || name == ['*']
  let value := if isAll then (if s.arguments.isEmpty then none else some (joined s))
    else s.value? name
  let piece (t : Bytes) : List Piece := [.bytes t quoted (splits && !quoted)]
  let whole (t : Bytes) : List Piece :=
    if isAll then allArguments s name quoted splits else piece t
  let isSet (orEmpty : Bool) : Bool := value.any fun v => !(orEmpty && v.isEmpty)
  let unset : State × List Piece :=
    if s.has 'u' && !isAll then (s.abort (name ++ ": parameter not set".toList), [])
    else (s, whole [])
  let fallback (word : Word) : State × List Piece :=
    let (s, ps) := r.word s splits word
    (s, if splits && !quoted then Piece.loosen ps else ps)
  match use with
  | .bad => (s.abort "Bad substitution".toList, [])
  | .value =>
    match value with
    | some v => (s, whole v)
    | none => unset
  | .length =>
    match value with
    | some v => (s, piece (State.number v.length))
    | none => if s.has 'u' && !isAll then unset else (s, piece ['0'])
  | .fallback kind orEmpty word =>
    match kind, isSet orEmpty with
    | .alternative, true => fallback word
    | .alternative, false => (s, piece [])
    | _, true => (s, whole (value.getD []))
    | .default, false => fallback word
    | .assign, false =>
      let (s, ps) := r.word s false word
      if s.halt.isSome then (s, [])
      else if !isName name then (s.abort (name ++ ": bad variable name".toList), [])
      else
        let t := Piece.text ps
        (s.setVariable name t, piece t)
    | .require, false =>
      let (s, ps) := r.word s false word
      if s.halt.isSome then (s, [])
      else
        let why := if !word.isEmpty then Piece.text ps
          else if orEmpty then "parameter not set or null".toList
          else "parameter not set".toList
        (s.abort (name ++ ": ".toList ++ why), [])
  | .trim atEnd longest pattern =>
    match value with
    | none => if s.has 'u' then unset else (s, piece [])
    | some v =>
      let (s, ps) := r.word s false pattern
      let g := Piece.glob ps
      (s, piece (if atEnd then Glob.dropEnd g longest v else Glob.dropStart g longest v))

def expandPart (r : Runner) (s : State) (splits : Bool) : Part → State × List Piece
  | .text t quoted => (s, [.bytes t quoted false])
  | .home user =>
    match (if user.isEmpty then s.textOf "HOME" else (Account.byName? user).map (·.home.toList)) with
    | some home => (s, [.bytes home true false])
    | none => (s, [.bytes ('~' :: user) false false])
  | .output body quoted =>
    let (s, t) := r.capture s body
    (s, [.bytes t quoted (splits && !quoted)])
  | .sum body quoted =>
    let (s, ps) := r.word s false body
    if s.halt.isSome then (s, [])
    else
      let t := Piece.text ps
      match Arithmetic.evaluate State.memory s t with
      | .ok (v, s) => (s, [.bytes (toString v).toList quoted (splits && !quoted)])
      | .error f => (s.abort (arithmeticMessage t f), [])
  | .variable name use quoted => r.expandVariable s splits name use quoted

/-- Expands a word part by part. -/
def expand (r : Runner) (s : State) (splits : Bool) : Word → State × List Piece
  | [] => (s, [])
  | p :: rest =>
    let (s, here) := r.expandPart s splits p
    if s.halt.isSome then (s, [])
    else if rest.isEmpty then (s, here)
    else
      let (s, more) := r.expand s splits rest
      (s, here ++ more)

/-- The text of a word that is not split. -/
def expandText (r : Runner) (s : State) (w : Word) : State × Bytes :=
  let (s, ps) := r.word s false w
  (s, Piece.text ps)

/-- The fields of words, behind those that were found already. An assignment among the arguments of
a command that makes assignments is one field. -/
def expandFields (r : Runner) (s : State) (found : List Bytes) : List Word → State × List Bytes
  | [] => (s, found)
  | w :: rest =>
    let assignment := match commandName found with
      | some n => if Builtin.declares.contains n then Word.assignment? w else none
      | none => none
    match assignment with
    | some (name, value) =>
      let (s, t) := r.expandText s (Word.homes true true value)
      if s.halt.isSome then (s, []) else r.expandFields s (found ++ [name ++ '=' :: t]) rest
    | none =>
      let (s, ps) := r.word s true w
      if s.halt.isSome then (s, [])
      else
        let here := match ps with
          | [.bytes t true false] => [t]
          | ps => (Fields.split s.separators none ps).flatMap (paths s)
        r.expandFields s (found ++ here) rest

/-- Expands the values of assignments and makes them. Gives what was assigned. -/
def assignAll (r : Runner) (s : State) (exported : Bool) (done : List (Bytes × Bytes)) :
    List (Bytes × Word) → State × List (Bytes × Bytes)
  | [] => (s, done)
  | (name, w) :: rest =>
    let (s, value) := r.expandText s w
    if s.halt.isSome then (s, done)
    else
      let s := s.setVariable name value
      if s.halt.isSome then (s, done)
      else
        let s := match (if exported then s.binding? name else none) with
          | some v => s.putVariable name { v with exported := true }
          | none => s
        r.assignAll s exported (done ++ [(name, value)]) rest

/-- Expands the words of redirections. -/
def expandRedirects (r : Runner) (s : State) : List Redirect → State × List (Nat × Opening × Bytes)
  | [] => (s, [])
  | .mk descriptor opening word :: rest =>
    let (s, t) := r.expandText s word
    if s.halt.isSome then (s, [])
    else if opening == .duplicate && !isDescriptor t then
      (s.abort "Syntax error: Bad fd number".toList, [])
    else
      let (s, more) := r.expandRedirects s rest
      (s, (descriptor, opening, t) :: more)

/-- Opens redirections. The flag says whether all could be opened. -/
def redirectAll (r : Runner) (s : State) (rs : List Redirect) : State × Bool :=
  let (s, opened) := r.expandRedirects s rs
  if s.halt.isSome then (s, false)
  else
    opened.foldl (fun (s, ok) (descriptor, opening, word) =>
      if ok then openChannel s descriptor opening word else (s, false)) (s, true)

end Runner
end Graft.Shell
