import Graft.Shell.Tool.Awk.Machine
import Graft.Shell.Tool.File

/-!
# Running report programs

Expressions give values and may change the state; statements say how the run goes on.
-/
namespace Graft.Shell.Tool.Awk

/-- How a statement leaves the run. -/
inductive Flow where
  | normal
  | leave
  | again
  | next
  | nextFile
  | back
  | stop
  deriving DecidableEq, Repr

namespace Machine

/-! ## Numbers -/

/-- The remainder of a division that is cut off at zero. -/
private def remainder (x y : Float) : Float :=
  match Decimal.Value.ofFloat x, Decimal.Value.ofFloat y with
  | .finite negative p, .finite _ q =>
    if q.num = 0 then 0.0 / 0.0
    else
      let n := (p.num * q.den) % (q.num * p.den)
      let d := p.den * q.den
      let g := Nat.gcd n d
      let r := Float.ofNat (n / g) / Float.ofNat (d / g)
      if negative then -r else r
  | .finite _ _, .infinite _ => x
  | _, _ => 0.0 / 0.0

private def calculated (o : Operation) (x y : Float) : Float :=
  match o with
  | .add => x + y
  | .subtract => x - y
  | .multiply => x * y
  | .divide => x / y
  | .remainder => remainder x y
  | .power => Float.pow x y

private def truncated (x : Float) : Float := if x < 0 then x.ceil else x.floor

private def compared (c : Comparison) (o : Ordering) : Bool :=
  match c with
  | .less => o == .lt
  | .lessOrEqual => o != .gt
  | .equal => o == .eq
  | .different => o != .eq
  | .greater => o == .gt
  | .greaterOrEqual => o != .lt

/-! ## Functions -/

/-- Where a text first stands in another one, from 1 on. -/
private def indexOf (part : Bytes) : Nat → Bytes → Nat
  | n, [] => if part.isEmpty then n else 0
  | n, c :: r => if part.isPrefixOf (c :: r) then n else indexOf part (n + 1) r

/-- A part of a text. A beginning before the text makes the part longer. -/
private def part (t : Bytes) (start : Float) (length : Option Float) : Bytes :=
  let whole (x : Float) : Int := (truncated x).toInt64.toInt
  let b := whole start
  let n := match length with
    | none => (t.length : Int) + b.natAbs + 1
    | some l => whole l
  if b ≤ 0 then t.take (n - b).toNat else (t.drop (b.toNat - 1)).take n.toNat

private def yearOf (fields : List Bytes) : Option Int :=
  match fields.map fun f => (leadingNumber f).toInt64.toInt with
  | y :: mo :: d :: h :: mi :: sec :: _ =>
    let months := y * 12 + (mo - 1)
    let start := Calendar.daysTo (months / 12) ((months % 12).toNat + 1) 1
    some ((start + (d - 1)) * 86400 + h * 3600 + mi * 60 + sec)
  | _ => none

/-- Calls a function that every program has. -/
private def apply (launch : Launch) (m : Machine) (f : Function) (vs : List Value) :
    Machine × Value :=
  let number (g : Float → Float) : Machine × Value :=
    (m, .number (g ((vs.headD .unset).toNumber)))
  let first : Bytes := m.text (vs.headD .unset)
  let now : Int := firstMoment + m.state.clock / 1000
  match f, vs with
  | .length, [] =>
    let (m, v) := m.field 0
    (m, .number (Float.ofNat (m.text v).length))
  | .length, _ => (m, .number (Float.ofNat first.length))
  | .index, [_, b] =>
    let b := m.text b
    (m, .number (Float.ofNat (if b.isEmpty then (if first.isEmpty then 0 else 1)
      else indexOf b 1 first)))
  | .substr, [_, b] => (m, .text (part first b.toNumber none))
  | .substr, [_, b, n] => (m, .text (part first b.toNumber (some n.toNumber)))
  | .sprintf, vs =>
    match m.format "sprintf" vs with
    | (b, none) => (m, .text b)
    | (_, some wrong) => (m.failRunning wrong, .unset)
  | .sin, _ => number Float.sin
  | .cos, _ => number Float.cos
  | .atan2, [y, x] => (m, .number (Float.atan2 y.toNumber x.toNumber))
  | .exp, _ => number Float.exp
  | .log, _ => number Float.log
  | .int, _ => number truncated
  | .sqrt, _ => number Float.sqrt
  | .rand, _ =>
    let n := (m.draws * 6364136223846793005 + 1442695040888963407) % Nat.pow 2 64
    ({ m with draws := n }, .number (Float.ofNat (n / Nat.pow 2 12) / Float.ofNat (Nat.pow 2 52)))
  | .srand, vs =>
    let seed := match vs with
      | v :: _ => v
      | [] => .number (Float.ofInt now)
    ({ m with seed, draws := (m.text seed).foldl (fun n c => 31 * n + c.toNat) 7 }, m.seed)
  | .close, _ =>
    let (m, n) := m.close launch first
    (m, .number (Float.ofInt n))
  | .system, _ =>
    let m := m.flush
    let (s, e) := launch.run m.state (shellWords first)
    ({ m with state := s }, .number (Float.ofInt (statusOf e)))
  | .toupper, _ => (m, .text (first.map Char.toUpper))
  | .tolower, _ => (m, .text (first.map Char.toLower))
  | .fflush, _ => (m.flush, .number 0)
  | .mktime, _ =>
    let fields := (Bytes.split ' ' first).filter (!·.isEmpty)
    (m, .number (Float.ofInt ((yearOf fields).getD (-1))))
  | .strftime, vs =>
    let format := match vs with
      | v :: _ => m.text v
      | [] => "%c".toList
    let t := match vs with
      | _ :: t :: _ => t.toNumber.toInt64.toInt
      | _ => now
    (m, .text (Calendar.format t format))
  | .systime, _ => (m, .number (Float.ofInt now))
  | _, _ => (m, .unset)

/-- The text that replaces a match: an ampersand stands for the match, unless a backslash is before
it. -/
private def replacement (found : Bytes) : Nat → Bytes → Bytes → Bytes
  | 0, done, _ => done.reverse
  | _, done, [] => done.reverse
  | fuel + 1, done, '&' :: r => replacement found fuel (found.reverse ++ done) r
  | fuel + 1, done, '\\' :: r =>
    let more := r.takeWhile (· == '\\')
    let n := more.length + 1
    match r.drop more.length with
    | '&' :: r =>
      let done := List.replicate (n / 2) '\\' ++ done
      replacement found fuel (if n % 2 == 1 then '&' :: done else found.reverse ++ done) r
    | r => replacement found fuel (List.replicate n '\\' ++ done) r
  | fuel + 1, done, c :: r => replacement found fuel (c :: done) r

/-- Replaces what an expression matches. -/
private def substituted (p : Regex.Program) (isGlobal : Bool) (new t : Bytes) : Bytes × Nat :=
  let cs := t.toArray
  let isPlain := !(new.contains '&' || new.contains '\\')
  p.replace t false ⟨1, isGlobal⟩ fun found =>
    if isPlain then new
    else
      match found.getD 0 none with
      | some (a, z) => replacement (cs.extract a z).toList (new.length + 1) [] new
      | none => new

/-- Output of values side by side. -/
private def shownValue (m : Machine) (v : Value) : Bytes :=
  match v with
  | .number x => numberText (m.specialText Special.ofmt) x
  | v => m.text v

/-! ## Expressions and statements -/

mutual

def eval (launch : Launch) (fuel : Nat) (m : Machine) (e : Expression) : Machine × Value :=
  match fuel with
  | 0 => (m, .unset)
  | fuel + 1 =>
    match e with
    | .number x => (m, .number x)
    | .text b => (m, .text b)
    | .regex p =>
      let (m, v) := m.field 0
      (m, .ofBool (p.isIn (m.text v)))
    | .place p => load launch fuel m p
    | .group e => eval launch fuel m e
    | .assign p e => store launch fuel m p none e
    | .update o p e => store launch fuel m p (some o) e
    | .step p amount isNew =>
      match p with
      | .named n =>
        let (m, v) := m.valueOf n
        let x := v.toNumber
        (m.setVariable n (.number (x + amount)), .number (if isNew then x + amount else x))
      | .element n keys =>
        let (m, key) := keyOf launch fuel m keys
        let format := m.keyFormat
        let (m, x) := m.withTable n fun t =>
          let (t, v) := t.get format key
          (t.set format key (.number (v.toNumber + amount)), v.toNumber)
        (m, .number (if isNew then x + amount else x))
      | .field e =>
        let (m, i) := fieldNumber launch fuel m e
        let (m, v) := m.field i
        let x := v.toNumber
        (m.setField i (.number (x + amount)), .number (if isNew then x + amount else x))
    | .calculate o a b =>
      let (m, x) := eval launch fuel m a
      let (m, y) := eval launch fuel m b
      (m, .number (calculated o x.toNumber y.toNumber))
    | .negative a =>
      let (m, x) := eval launch fuel m a
      (m, .number (-x.toNumber))
    | .positive a =>
      let (m, x) := eval launch fuel m a
      (m, .number x.toNumber)
    | .not a =>
      let (m, x) := eval launch fuel m a
      (m, .ofBool (!x.isTrue))
    | .and a b =>
      let (m, x) := eval launch fuel m a
      if x.isTrue then
        let (m, y) := eval launch fuel m b
        (m, .ofBool y.isTrue)
      else (m, .ofBool false)
    | .or a b =>
      let (m, x) := eval launch fuel m a
      if x.isTrue then (m, .ofBool true)
      else
        let (m, y) := eval launch fuel m b
        (m, .ofBool y.isTrue)
    | .compare c a b =>
      let (m, x) := eval launch fuel m a
      let (m, y) := eval launch fuel m b
      match x, y with
      | .number x, .number y =>
        (m, .ofBool (match c with
          | .less => x < y
          | .lessOrEqual => x ≤ y
          | .equal => x == y
          | .different => x != y
          | .greater => y < x
          | .greaterOrEqual => y ≤ x))
      | x, y => (m, .ofBool (compared c (x.compare m.keyFormat y)))
    | .join a b =>
      let (m, x) := eval launch fuel m a
      let (m, y) := eval launch fuel m b
      (m, .text (m.text x ++ m.text y))
    | .choose c a b =>
      let (m, x) := eval launch fuel m c
      eval launch fuel m (if x.isTrue then a else b)
    | .fits negated a r =>
      let (m, x) := eval launch fuel m a
      let t := m.text x
      let (m, p) := regexOf launch fuel m r
      (m, .ofBool (p.any (·.isIn t) != negated))
    | .isKey keys n =>
      let (m, key) := keyOf launch fuel m keys
      let format := m.keyFormat
      let (m, found) := m.withTable n fun t => t.find format key
      (m, .ofBool found.isSome)
    | .call f args => call launch fuel m f args
    | .function f args =>
      let (m, vs) := evalAll launch fuel m [] args
      if m.isEnding then (m, .unset) else apply launch m f vs
    | .sizeOf n =>
      match m.passed n with
      | .scalar v => (m, .number (Float.ofNat (m.text v).length))
      | _ =>
        let (m, size) := m.withTable n fun t => (t, t.size)
        (m, .number (Float.ofNat size))
    | .substitute isGlobal r new p =>
      let (m, p?) := regexOf launch fuel m r
      let (m, new) := eval launch fuel m new
      let new := m.text new
      let change (t : Bytes) : Bytes × Nat := match p? with
        | some p => substituted p isGlobal new t
        | none => (t, 0)
      match p with
      | .named n =>
        let (m, v) := m.valueOf n
        let (t, count) := change (m.text v)
        (if count = 0 then m else m.setVariable n (.text t), .number (Float.ofNat count))
      | .element n keys =>
        let (m, key) := keyOf launch fuel m keys
        let format := m.keyFormat
        let (m, v) := m.withTable n fun t => t.get format key
        let (t, count) := change (m.text v)
        let m := if count = 0 then m
          else (m.withTable n fun table => (table.set format key (.text t), ())).1
        (m, .number (Float.ofNat count))
      | .field e =>
        let (m, i) := fieldNumber launch fuel m e
        let (m, v) := m.field i
        let (t, count) := change (m.text v)
        (if count = 0 then m else m.setField i (.text t), .number (Float.ofNat count))
    | .split a n separator =>
      let (m, v) := eval launch fuel m a
      let t := m.text v
      let (m, parts) : Machine × List Bytes := match separator with
        | none => m.divide t (m.specialText Special.fs)
        | some (.regex p) => (m, divideBy p t)
        | some e =>
          let (m, v) := eval launch fuel m e
          m.divide t (m.text v)
      let (m, _) := m.withTable n fun _ => (Table.ofRow (parts.map .given), ())
      (m, .number (Float.ofNat parts.length))
    | .search a r =>
      let (m, v) := eval launch fuel m a
      let t := m.text v
      let (m, p?) := regexOf launch fuel m r
      let found := (p?.bind fun p => p.search t.toArray 0 false).bind (·.getD 0 none)
      let (start, size) : Float × Float := match found with
        | some (a, z) => (Float.ofNat (a + 1), Float.ofNat (z - a))
        | none => (0, -1)
      let m := m.setSpecial Special.rstart (.number start)
      (m.setSpecial Special.rlength (.number size), .number start)
    | .readNext p =>
      match m.nextRecord with
      | (m, none) => (m, .number 0)
      | (m, some b) => (keep launch fuel m p b, .number 1)
    | .readFile p path =>
      let (m, v) := eval launch fuel m path
      match m.readFrom launch false (m.text v) with
      | (m, some b, n) => (keep launch fuel m p b, .number (Float.ofInt n))
      | (m, none, n) => (m, .number (Float.ofInt n))
    | .readCommand p command =>
      let (m, v) := eval launch fuel m command
      match m.readFrom launch true (m.text v) with
      | (m, some b, n) => (keep launch fuel m p b, .number (Float.ofInt n))
      | (m, none, n) => (m, .number (Float.ofInt n))

/-- Puts a record that was read where it belongs. -/
def keep (launch : Launch) (fuel : Nat) (m : Machine) (p : Option Place) (b : Bytes) : Machine :=
  match fuel with
  | 0 => m
  | fuel + 1 =>
    match p with
    | none => m.setRecord b
    | some (.named n) => m.setVariable n (.given b)
    | some (.element n keys) =>
      let (m, key) := keyOf launch fuel m keys
      let format := m.keyFormat
      (m.withTable n fun t => (t.set format key (.given b), ())).1
    | some (.field e) =>
      let (m, i) := fieldNumber launch fuel m e
      m.setField i (.given b)

/-- The values of expressions, behind those found before, last first. -/
def evalAll (launch : Launch) (fuel : Nat) (m : Machine) (done : List Value) (es : List Expression) :
    Machine × List Value :=
  match fuel with
  | 0 => (m, done.reverse)
  | fuel + 1 =>
    match es with
    | [] => (m, done.reverse)
    | e :: es =>
      let (m, v) := eval launch fuel m e
      evalAll launch fuel m (v :: done) es

/-- The key that expressions make together. -/
def keyOf (launch : Launch) (fuel : Nat) (m : Machine) (keys : List Expression) : Machine × Value :=
  match fuel with
  | 0 => (m, .unset)
  | fuel + 1 =>
    match keys with
    | [e] => eval launch fuel m e
    | keys =>
      let (m, vs) := evalAll launch fuel m [] keys
      (m, .text (Text.join (m.specialText Special.subsep) (vs.map m.text)))

def fieldNumber (launch : Launch) (fuel : Nat) (m : Machine) (e : Expression) : Machine × Nat :=
  match fuel with
  | 0 => (m, 0)
  | fuel + 1 =>
    let (m, v) := eval launch fuel m e
    let x := v.toNumber
    if x < 0 then
      (m.failRunning ("negative field index $" ++ String.ofList (numberText m.keyFormat x)), 0)
    else (m, x.toUInt64.toNat)

/-- The expression that a match is made with. -/
def regexOf (launch : Launch) (fuel : Nat) (m : Machine) (e : Expression) :
    Machine × Option Regex.Program :=
  match fuel with
  | 0 => (m, none)
  | fuel + 1 =>
    match e with
    | .regex p => (m, some p)
    | e =>
      let (m, v) := eval launch fuel m e
      m.regex (m.text v)

def load (launch : Launch) (fuel : Nat) (m : Machine) (p : Place) : Machine × Value :=
  match fuel with
  | 0 => (m, .unset)
  | fuel + 1 =>
    match p with
    | .named n => m.valueOf n
    | .element n keys =>
      let (m, key) := keyOf launch fuel m keys
      let format := m.keyFormat
      m.withTable n fun t => t.get format key
    | .field e =>
      let (m, i) := fieldNumber launch fuel m e
      m.field i

/-- Assigns a value, or what an operation makes of the old one and a value. -/
def store (launch : Launch) (fuel : Nat) (m : Machine) (p : Place) (o : Option Operation)
    (e : Expression) : Machine × Value :=
  match fuel with
  | 0 => (m, .unset)
  | fuel + 1 =>
    let combined (old new : Value) : Value := match o with
      | none => new
      | some o => .number (calculated o old.toNumber new.toNumber)
    match p with
    | .named n =>
      let (m, new) := eval launch fuel m e
      let (m, old) := m.valueOf n
      let v := combined old new
      (m.setVariable n v, v)
    | .element n keys =>
      let (m, key) := keyOf launch fuel m keys
      let (m, new) := eval launch fuel m e
      let format := m.keyFormat
      m.withTable n fun t =>
        match o with
        | none => (t.set format key new, new)
        | some _ =>
          let (t, old) := t.get format key
          let v := combined old new
          (t.set format key v, v)
    | .field i =>
      let (m, i) := fieldNumber launch fuel m i
      let (m, new) := eval launch fuel m e
      let (m, old) : Machine × Value := match o with
        | none => (m, .unset)
        | some _ => m.field i
      let v := combined old new
      (m.setField i v, v)

/-- What a function gets for its arguments, last first. -/
def passAll (launch : Launch) (fuel : Nat) (m : Machine) (done : List Slot) (es : List Expression) :
    Machine × List Slot :=
  match fuel with
  | 0 => (m, done)
  | fuel + 1 =>
    match es with
    | [] => (m, done)
    | .place (.named n) :: es =>
      if n == .shared Special.nf then
        let (m, v) := m.valueOf n
        passAll launch fuel m (.scalar v :: done) es
      else passAll launch fuel m (m.passed n :: done) es
    | e :: es =>
      let (m, v) := eval launch fuel m e
      passAll launch fuel m (.scalar v :: done) es

def call (launch : Launch) (fuel : Nat) (m : Machine) (f : Nat) (args : List Expression) :
    Machine × Value :=
  match fuel with
  | 0 => (m, .unset)
  | fuel + 1 =>
    let (m, slots) := passAll launch fuel m [] args
    match m.program.definitions[f]? with
    | none => (m, .unset)
    | some d =>
      if m.isEnding then (m, .unset)
      else
        let slots := slots.reverse.toArray
        let own := slots ++ Array.replicate (d.parameters - slots.size) Slot.unset
        let m := { m with calls := m.calls.push own, returned := .unset }
        let (m, _) := exec launch fuel m d.body
        let v := m.returned
        ({ m with calls := m.calls.pop, returned := .unset }, v)

def exec (launch : Launch) (fuel : Nat) (m : Machine) (s : Statement) : Machine × Flow :=
  match fuel with
  | 0 => (m, .stop)
  | fuel + 1 =>
    match s with
    | .block ss => execAll launch fuel m ss
    | .compute e =>
      let (m, _) := eval launch fuel m e
      (m, if m.isEnding then .stop else .normal)
    | .print args target =>
      let (m, b) : Machine × Bytes := match args with
        | [] =>
          let (m, v) := m.field 0
          (m, m.text v)
        | args =>
          let (m, vs) := evalAll launch fuel m [] args
          (m, Text.join (m.specialText Special.ofs) (vs.map m.shownValue))
      output launch fuel m target (b ++ m.specialText Special.ors)
    | .printf args target =>
      let (m, vs) := evalAll launch fuel m [] args
      match m.format "printf" vs with
      | (b, none) => output launch fuel m target b
      | (b, some wrong) =>
        let (m, _) := output launch fuel m target b
        (m.failRunning wrong, .stop)
    | .choose c a b =>
      let (m, v) := eval launch fuel m c
      if m.isEnding then (m, .stop)
      else if v.isTrue then exec launch fuel m a
      else
        match b with
        | some b => exec launch fuel m b
        | none => (m, .normal)
    | .loop c body => repeatWhile launch fuel m (some c) none body
    | .doLoop body c =>
      match exec launch fuel m body with
      | (m, .normal) | (m, .again) => repeatWhile launch fuel m (some c) none body
      | (m, .leave) => (m, .normal)
      | r => r
    | .count first c last body =>
      let m := match first with
        | some e => (eval launch fuel m e).1
        | none => m
      repeatWhile launch fuel m c last body
    | .forEach n table body =>
      let (m, keys) := m.withTable table fun t => t.keys
      forKeys launch fuel m n keys body
    | .leave => (m, .leave)
    | .again => (m, .again)
    | .next => (m, .next)
    | .nextFile => (m, .nextFile)
    | .exit e =>
      let m := match e with
        | some e =>
          let (m, v) := eval launch fuel m e
          { m with status := (v.toNumber.toInt64.toInt % 256).toNat }
        | none => m
      ({ m with isEnding := true }, .stop)
    | .back e =>
      match e with
      | some e =>
        let (m, v) := eval launch fuel m e
        ({ m with returned := v }, .back)
      | none => ({ m with returned := .unset }, .back)
    | .delete n keys =>
      match keys with
      | none => ((m.withTable n fun _ => (Table.empty, ())).1, .normal)
      | some keys =>
        let (m, key) := keyOf launch fuel m keys
        let format := m.keyFormat
        ((m.withTable n fun t => (t.erase format key, ())).1, .normal)

def execAll (launch : Launch) (fuel : Nat) (m : Machine) (ss : List Statement) : Machine × Flow :=
  match fuel with
  | 0 => (m, .stop)
  | fuel + 1 =>
    match ss with
    | [] => (m, .normal)
    | s :: ss =>
      match exec launch fuel m s with
      | (m, .normal) => execAll launch fuel m ss
      | r => r

/-- Prints a text to where it belongs. -/
def output (launch : Launch) (fuel : Nat) (m : Machine) (target : Option (Redirection × Expression))
    (b : Bytes) : Machine × Flow :=
  match fuel with
  | 0 => (m, .stop)
  | fuel + 1 =>
    if m.isEnding then (m, .stop)
    else
      let m := match target with
        | none => m.print b
        | some (r, e) =>
          let (m, v) := eval launch fuel m e
          m.write r (m.text v) b
      (m, if m.isEnding || m.state.halt.isSome then .stop else .normal)

/-- Repeats a statement as long as a condition holds. -/
def repeatWhile (launch : Launch) (fuel : Nat) (m : Machine) (c last : Option Expression)
    (body : Statement) : Machine × Flow :=
  match fuel with
  | 0 => (m, .stop)
  | fuel + 1 =>
    let (m, holds) : Machine × Bool := match c with
      | some c =>
        let (m, v) := eval launch fuel m c
        (m, v.isTrue)
      | none => (m, true)
    if m.isEnding then (m, .stop)
    else if !holds then (m, .normal)
    else
      match exec launch fuel m body with
      | (m, .normal) | (m, .again) =>
        let m := match last with
          | some e => (eval launch fuel m e).1
          | none => m
        repeatWhile launch fuel m c last body
      | (m, .leave) => (m, .normal)
      | r => r

/-- Runs a statement for each key. -/
def forKeys (launch : Launch) (fuel : Nat) (m : Machine) (n : Name) (keys : List Bytes)
    (body : Statement) : Machine × Flow :=
  match fuel with
  | 0 => (m, .stop)
  | fuel + 1 =>
    match keys with
    | [] => (m, .normal)
    | k :: keys =>
      match exec launch fuel (m.setVariable n (.text k)) body with
      | (m, .normal) | (m, .again) => forKeys launch fuel m n keys body
      | (m, .leave) => (m, .normal)
      | r => r

end

/-! ## Rules -/

/-- How many steps may be nested or follow each other. -/
private def maxSteps : Nat := Nat.pow 2 50

/-- Whether a rule is for the record. -/
private def applies (launch : Launch) (m : Machine) : Pattern → Machine × Bool
  | .always => (m, true)
  | .test e =>
    let (m, v) := eval launch maxSteps m e
    (m, v.isTrue)
  | .range n a b =>
    let (m, isIn) : Machine × Bool := if m.ranges.contains n then (m, true)
      else
        let (m, v) := eval launch maxSteps m a
        (m, v.isTrue)
    if !isIn then (m, false)
    else
      let (m, v) := eval launch maxSteps m b
      let others := m.ranges.filter (· != n)
      ({ m with ranges := if v.isTrue then others else n :: others }, true)

private def runRules (launch : Launch) : Machine → List Rule → Machine × Flow
  | m, [] => (m, .normal)
  | m, r :: rs =>
    let (m, isMeant) := applies launch m r.pattern
    if m.isEnding || m.state.halt.isSome then (m, .stop)
    else if !isMeant then runRules launch m rs
    else
      match exec launch maxSteps m r.body with
      | (m, .normal) => runRules launch m rs
      | r => r

/-- Runs the rules for one record after the other. -/
private def runRecords (launch : Launch) : Nat → Machine → Machine
  | 0, m => m
  | fuel + 1, m =>
    match m.nextRecord with
    | (m, none) => m
    | (m, some b) =>
      match runRules launch (m.setRecord b) m.program.rules with
      | (m, .stop) => m
      | (m, .nextFile) => runRecords launch fuel { m with main := none }
      | (m, _) => runRecords launch fuel m

/-- Runs statements before or after the records. -/
private def runBlocks (launch : Launch) : Machine → List Statement → Machine
  | m, [] => m
  | m, s :: ss =>
    match exec launch maxSteps m s with
    | (m, .stop) => m
    | (m, _) => runBlocks launch m ss

/-- Runs a whole program. -/
def run (launch : Launch) (m : Machine) : Machine :=
  let m := runBlocks launch m m.program.starts
  let reads := !m.program.rules.isEmpty || !m.program.ends.isEmpty
  let m := if reads && !m.isEnding then runRecords launch maxSteps m else m
  let m := if m.hasFailed || m.state.halt.isSome then m
    else runBlocks launch { m with isEnding := false } m.program.ends
  m.finish launch

end Machine

end Graft.Shell.Tool.Awk
