import Graft.Data.Decimal
import Graft.Shell.Arithmetic

/-!
# Escapes and formats

The escapes that `echo` and `printf` know, and how values are put into fields.
-/
namespace Graft.Shell.Format

/-! ## Escapes -/

def isOctal (c : Char) : Bool := '0' ≤ c && c ≤ '7'

private def octal (ds : Bytes) : Char :=
  Char.ofNat (ds.foldl (fun n c => 8 * n + (c.toNat - '0'.toNat)) 0 % 256)

/-- The character of at most three octal digits, and what follows. -/
def octalEscape (t : Bytes) : Char × Bytes :=
  let ds := (t.take 3).takeWhile isOctal
  (octal ds, t.drop ds.length)

/-- The character that a letter behind a backslash means. -/
def letterEscape? : Char → Option Char
  | 'a' => some (Char.ofNat 7)
  | 'b' => some (Char.ofNat 8)
  | 't' => some '\t'
  | 'n' => some '\n'
  | 'v' => some (Char.ofNat 11)
  | 'f' => some (Char.ofNat 12)
  | 'r' => some '\r'
  | '\\' => some '\\'
  | _ => none

/-- The character that an escape behind its backslash means, and what follows. A backslash that
begins no escape stands for itself. -/
def escape : Bytes → Char × Bytes
  | c :: r =>
    match letterEscape? c with
    | some d => (d, r)
    | none =>
      if isOctal c then octalEscape (c :: r)
      else if c == 'e' then (Char.ofNat 27, r)
      else ('\\', c :: r)
  | [] => ('\\', [])

/-- Replaces the escapes of a text behind what was read so far, last first. Says whether one of them
ends all output. -/
def unescapeBehind : Nat → Bytes → Bytes → Bytes × Bool
  | 0, done, _ => (done.reverse, false)
  | _, done, [] => (done.reverse, false)
  | _, done, '\\' :: 'c' :: _ => (done.reverse, true)
  | fuel + 1, done, '\\' :: '0' :: r =>
    let (c, rest) := octalEscape r
    unescapeBehind fuel (c :: done) rest
  | fuel + 1, done, '\\' :: r =>
    let (c, rest) := escape r
    unescapeBehind fuel (c :: done) rest
  | fuel + 1, done, c :: r => unescapeBehind fuel (c :: done) r

/-- A text with its escapes replaced, and whether one of them ends all output. -/
def unescape (t : Bytes) : Bytes × Bool := unescapeBehind (t.length + 1) [] t

/-- What `echo` prints. With `escapes` it replaces escapes unless told not to. -/
def echo (escapes : Bool) : List Bytes → Bytes
  | ['-', 'n'] :: args =>
    let t := Text.join [' '] args
    if escapes then (unescape t).1 else t
  | args =>
    let t := Text.join [' '] args
    let (t, stopped) := if escapes then unescape t else (t, false)
    if stopped then t else t ++ ['\n']

/-- What `echo` prints when `-e` and `-E` say whether escapes are replaced. -/
def echoWith : Bool → Bool → List Bytes → Bytes
  | quiet, escapes, a :: args =>
    let isFlag (c : Char) : Bool := c == 'n' || c == 'e' || c == 'E'
    match a with
    | '-' :: c :: r =>
      if (c :: r).all isFlag then
        let last := (c :: r).filter (· != 'n') |>.getLast?
        echoWith (quiet || (c :: r).contains 'n') (last.elim escapes (· == 'e')) args
      else echoRest quiet escapes (a :: args)
    | _ => echoRest quiet escapes (a :: args)
  | quiet, escapes, [] => echoRest quiet escapes []
where
  echoRest (quiet escapes : Bool) (args : List Bytes) : Bytes :=
    let t := Text.join [' '] args
    let (t, stopped) := if escapes then unescape t else (t, false)
    if quiet || stopped then t else t ++ ['\n']

/-! ## Fields -/

/-- How a value is put into a field. -/
structure Field where
  left : Bool
  zeros : Bool
  plus : Bool
  space : Bool
  mark : Bool
  width : Nat
  precision : Option Nat
  deriving DecidableEq, Repr

private def naturalOf (t : Bytes) : Nat :=
  t.foldl (fun n c => 10 * n + (c.toNat - '0'.toNat)) 0

private def pad (f : Field) (t : Bytes) : Bytes :=
  let fill := List.replicate (f.width - t.length) ' '
  if f.left then t ++ fill else fill ++ t

/-- A text in its field. -/
def fillText (f : Field) (t : Bytes) : Bytes :=
  pad f (match f.precision with
    | some n => t.take n
    | none => t)

/-- A number in its field, given its sign or mark and its digits. -/
def fillDigits (f : Field) (zeros : Bool) (sign digits : Bytes) : Bytes :=
  let fill := if zeros && !f.left then
      List.replicate (f.width - sign.length - digits.length) '0'
    else []
  pad f (sign ++ fill ++ digits)

private def signOf (f : Field) (negative : Bool) : Bytes :=
  if negative then ['-'] else if f.plus then ['+'] else if f.space then [' '] else []

/-- The digits of an integer, at least as many as the precision asks for. -/
private def integerDigits (f : Field) (base n : Nat) : Bytes :=
  let ds := if n = 0 && f.precision == some 0 then [] else Nat.toDigits base n
  List.replicate (f.precision.getD 1 - ds.length) '0' ++ ds

/-- A signed decimal integer. -/
def fillSigned (f : Field) (v : Int) : Bytes :=
  fillDigits f (f.zeros && f.precision.isNone) (signOf f (v < 0)) (integerDigits f 10 v.natAbs)

/-- An integer without a sign: octal, decimal or hexadecimal. -/
def fillUnsigned (f : Field) (kind : Char) (n : Nat) : Bytes :=
  let zeros := f.zeros && f.precision.isNone
  match kind with
  | 'o' =>
    let ds := integerDigits f 8 n
    fillDigits f zeros [] (if f.mark && ds.head? != some '0' then '0' :: ds else ds)
  | 'x' => fillDigits f zeros (if f.mark && n != 0 then ['0', 'x'] else []) (integerDigits f 16 n)
  | 'X' =>
    fillDigits f zeros (if f.mark && n != 0 then ['0', 'X'] else [])
      ((integerDigits f 16 n).map Char.toUpper)
  | _ => fillDigits f zeros [] (integerDigits f 10 n)

/-- A number with a fraction, in the notation that the letter stands for. -/
def fillFloat (f : Field) (kind : Char) (v : Decimal.Value) : Bytes :=
  let upper := kind.isUpper
  let word (t : String) : Bytes := (if upper then t.toUpper else t).toList
  let places := f.precision.getD 6
  match v with
  | .finite negative q =>
    let t := match kind with
      | 'f' | 'F' => Decimal.showFixed f.mark places q
      | 'e' | 'E' => Decimal.showScientific upper f.mark places q
      | _ => Decimal.showGeneral upper f.mark places q
    fillDigits f f.zeros (signOf f negative) t
  | .infinite negative => fillDigits f false (signOf f negative) (word "inf")
  | .nan negative => fillDigits f false (signOf f negative) (word "nan")

/-! ## Numbers in arguments -/

/-- What is wrong with a number. -/
inductive Flaw where
  | noNumber
  | incomplete
  | outOfRange
  deriving DecidableEq, Repr

def Flaw.message : Flaw → String
  | noNumber => "expected numeric value"
  | incomplete => "not completely converted"
  | outOfRange => "Numerical result out of range"

/-- The integer that an argument stands for. A quote stands for the character behind it. -/
def integer (signed : Bool) (t : Bytes) : Int × Option Flaw :=
  match t with
  | '\'' :: r | '"' :: r => (((r.head?.map Char.toNat).getD 0 : Nat), none)
  | t =>
    match Arithmetic.leading? true t with
    | none => (0, if t.isEmpty then none else some .noNumber)
    | some (v, rest) =>
      let near := if signed then max (-Int.pow 2 63) (min v (Int.pow 2 63 - 1))
        else max (1 - Int.pow 2 64) (min v (Int.pow 2 64 - 1))
      let v' := if signed then near else near % Int.pow 2 64
      if !rest.isEmpty then (v', some .incomplete)
      else (v', if near = v then none else some .outOfRange)

/-- The number with a fraction at the beginning of a text, and what follows. -/
def leadingFloat? (t : Bytes) : Option (Float × Bytes) :=
  let (negative, r) := match t.dropWhile Arithmetic.isSpace with
    | '-' :: r => (true, r)
    | '+' :: r => (false, r)
    | r => (false, r)
  let signed (x : Float) : Float := if negative then -x else x
  let begins (word : String) : Bool := word.toList == (r.take word.length).map Char.toLower
  match r with
  | '0' :: x :: c :: _ =>
    if (x == 'x' || x == 'X') && (Arithmetic.digits 16 [c]).2.isEmpty then
      let (ds, rest) := Arithmetic.digits 16 (r.drop 2)
      some (signed (Decimal.toFloat (Arithmetic.ofDigits 16 ds) 0), rest)
    else decimal signed r
  | r =>
    if begins "infinity" then some (signed (1.0 / 0.0), r.drop 8)
    else if begins "inf" then some (signed (1.0 / 0.0), r.drop 3)
    else if begins "nan" then some (signed (0.0 / 0.0), r.drop 3)
    else decimal signed r
where
  decimal (signed : Float → Float) (r : Bytes) : Option (Float × Bytes) :=
    (Decimal.leading? r).map fun (m, e, rest) => (signed (Decimal.toFloat m e), rest)

/-- The number with a fraction that an argument stands for. -/
def float (t : Bytes) : Float × Option Flaw :=
  match t with
  | '\'' :: r | '"' :: r => (Float.ofNat ((r.head?.map Char.toNat).getD 0), none)
  | t =>
    match leadingFloat? t with
    | none => (0, if t.isEmpty then none else some .noNumber)
    | some (x, rest) => (x, if rest.isEmpty then none else some .incomplete)

/-! ## Formats -/

/-- What a format printed: its text, the arguments it left, what was wrong with those it took, and
whether it ended early. -/
structure Printed where
  text : Bytes
  rest : List Bytes
  flaws : List (Bytes × Flaw)
  stopped : Bool
  /-- What is wrong with the format itself. -/
  failure : Option String

namespace Printed

def put (p : Printed) (b : Bytes) : Printed := { p with text := b ++ p.text }

def blame (p : Printed) (arg : Bytes) (f : Option Flaw) : Printed :=
  match f with
  | some f => { p with flaws := (arg, f) :: p.flaws }
  | none => p

end Printed

/-- A width or a precision: a number, or a star for the next argument. -/
private def amount (t : Bytes) (args : List Bytes) :
    Option Int × Bytes × List Bytes × Option (Bytes × Option Flaw) :=
  match t with
  | '*' :: r =>
    let arg := args.headD []
    let (v, flaw) := integer true arg
    (some v, r, args.tail, some (arg, flaw))
  | t =>
    let ds := t.takeWhile Char.isDigit
    (if ds.isEmpty then none else some (naturalOf ds : Nat), t.drop ds.length, args, none)

/-- The field at the beginning of a text behind its percent sign, what follows, and the arguments
that are left. -/
def field (t : Bytes) (args : List Bytes) :
    Field × Bytes × List Bytes × List (Bytes × Option Flaw) :=
  let isFlag (c : Char) : Bool := c == '-' || c == '0' || c == '+' || c == ' ' || c == '#'
  let flags := t.takeWhile isFlag
  let (width, t, args, first) := amount (t.dropWhile isFlag) args
  let (precision, t, args, second) : Option Int × Bytes × List Bytes × _ := match t with
    | '.' :: r =>
      let (p, r, args, flaw) := amount r args
      (some (p.getD 0), r, args, flaw)
    | _ => (none, t, args, none)
  let width := width.getD 0
  (⟨flags.contains '-' || width < 0, flags.contains '0', flags.contains '+', flags.contains ' ',
    flags.contains '#', width.natAbs, precision.bind fun p => if p < 0 then none else some p.toNat⟩,
    t, args, first.toList ++ second.toList)

/-- One pass over a format. -/
def pass : Nat → Bytes → List Bytes → Printed
  | 0, _, args => ⟨[], args, [], true, none⟩
  | _, [], args => ⟨[], args, [], false, none⟩
  | fuel + 1, '\\' :: r, args =>
    let (c, rest) := escape r
    (pass fuel rest args).put [c]
  | fuel + 1, '%' :: '%' :: r, args => (pass fuel r args).put ['%']
  | fuel + 1, '%' :: r, args =>
    let (f, r', args, flaws) := field r args
    let blamed (p : Printed) : Printed := flaws.foldr (fun (a, f) p => p.blame a f) p
    match r' with
    | [] => ⟨[], args, [], true, some "missing format character"⟩
    | kind :: more =>
      let next := args.tail
      let arg := args.headD []
      match kind with
      | 's' => blamed ((pass fuel more next).put (fillText f arg))
      | 'c' =>
        blamed ((pass fuel more next).put (fillText { f with precision := none }
          [arg.headD (Char.ofNat 0)]))
      | 'b' =>
        let (t, stopped) := unescape arg
        if stopped then ⟨fillText f t, next, [], true, none⟩
        else blamed ((pass fuel more next).put (fillText f t))
      | 'd' | 'i' =>
        let (v, flaw) := integer true arg
        blamed (((pass fuel more next).put (fillSigned f v)).blame arg flaw)
      | 'u' | 'o' | 'x' | 'X' =>
        let (v, flaw) := integer false arg
        blamed (((pass fuel more next).put (fillUnsigned f kind v.toNat)).blame arg flaw)
      | 'e' | 'E' | 'f' | 'F' | 'g' | 'G' =>
        let (x, flaw) := float arg
        blamed (((pass fuel more next).put (fillFloat f kind (.ofFloat x))).blame arg flaw)
      | kind =>
        let directive := '%' :: r.take (r.length - r'.length) ++ [kind]
        ⟨[], args, [], true, some (String.ofList directive ++ ": invalid directive")⟩
  | fuel + 1, c :: r, args => (pass fuel r args).put [c]

/-- Passes over a format again and again until no argument is left. -/
def passes (format : Bytes) : Nat → List Bytes → Printed
  | 0, args => ⟨[], args, [], true, none⟩
  | fuel + 1, args =>
    let p := pass (format.length + 1) format args
    if p.stopped || p.rest.isEmpty || p.rest.length = args.length then p
    else
      let q := passes format fuel p.rest
      { q with text := p.text ++ q.text, flaws := p.flaws ++ q.flaws }

/-- What `printf` prints. -/
def printf (format : Bytes) (args : List Bytes) : Printed := passes format (args.length + 1) args

end Graft.Shell.Format
