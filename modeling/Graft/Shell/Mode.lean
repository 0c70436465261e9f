import Graft.Shell.Arithmetic

/-!
# Permissions

The twelve bits that say who may read, write and run a file. A text changes them: in octal digits it
names all of them, in letters it adds, takes away or sets some.
-/
namespace Graft.Shell.Mode

/-- All bits. -/
def whole : Nat := 0o7777

/-- What remains of bits without others. -/
def without (bits others : Nat) : Nat := bits - (bits &&& others)

inductive Operation where
  | add
  | remove
  | set
  deriving DecidableEq, Repr

inductive Value where
  /-- Bits, with the one to run only if `search` does not ask for one that is there. -/
  | bits (n : Nat) (search : Bool)
  /-- What the user, the group or others have. -/
  | existing (shift : Nat)
  deriving DecidableEq, Repr

/-- A step of a change: the bits that it is about, or none where the mask decides, and those that it
names. -/
structure Change where
  operation : Operation
  affected : Nat
  value : Value
  mentioned : Nat
  deriving DecidableEq, Repr

private def operation? : Char → Option Operation
  | '+' => some .add
  | '-' => some .remove
  | '=' => some .set
  | _ => none

private def isOctal (c : Char) : Bool := '0' ≤ c && c ≤ '7'

/-- Whom letters before an operation are about. -/
private def affectedBy (c : Char) : Nat :=
  match c with
  | 'u' => 0o4700
  | 'g' => 0o2070
  | 'o' => 0o1007
  | 'a' => whole
  | _ => 0

/-- The bits of a letter behind an operation. -/
private def bitsOf? (c : Char) : Option Nat :=
  match c with
  | 'r' => some 0o444
  | 'w' => some 0o222
  | 'x' => some 0o111
  | 's' => some 0o6000
  | 't' => some 0o1000
  | 'X' => some 0
  | _ => none

/-- Reads the operations behind the letters of a clause, and the clauses that follow. -/
private def changes : Nat → Option Nat → List Change → Bytes → Option (List Change)
  | 0, _, _, _ => none
  | fuel + 1, none, done, t =>
    let who := t.takeWhile fun c => affectedBy c != 0
    let affected := who.foldl (fun n c => n ||| affectedBy c) 0
    let rest := t.drop who.length
    if (rest.head?.bind operation?).isNone then none else changes fuel (some affected) done rest
  | fuel + 1, some affected, done, t =>
    match t with
    | [] => some done.reverse
    | ',' :: r => changes fuel none done r
    | c :: r =>
      match operation? c with
      | none => none
      | some op =>
        let goOn (value : Value) (named : Nat) (rest : Bytes) : Option (List Change) :=
          let mentioned := if affected == 0 then named else affected &&& named
          changes fuel (some affected) (⟨op, affected, value, mentioned⟩ :: done) rest
        let digits := r.takeWhile isOctal
        if !digits.isEmpty then
          let n := Arithmetic.ofDigits 8 digits
          let rest := r.drop digits.length
          if affected != 0 || n > whole || rest.head?.any (· != ',') then none
          else changes fuel (some affected) (⟨op, whole, .bits n false, whole⟩ :: done) rest
        else
          match r with
          | 'u' :: rest => goOn (.existing 64) 0o700 rest
          | 'g' :: rest => goOn (.existing 8) 0o070 rest
          | 'o' :: rest => goOn (.existing 1) 0o007 rest
          | _ =>
            let letters := r.takeWhile fun c => (bitsOf? c).isSome
            let bits := letters.foldl (fun n c => n ||| (bitsOf? c).getD 0) 0
            goOn (.bits bits (letters.contains 'X')) bits (r.drop letters.length)

/-- The changes that a text describes. Fewer than five digits leave alone what directories have
beyond the nine common bits. -/
def parse? (t : Bytes) : Option (List Change) :=
  let digits := t.takeWhile isOctal
  if digits.isEmpty then changes (t.length + t.length + 2) none [] t
  else
    let n := Arithmetic.ofDigits 8 digits
    if n > whole || digits.length < t.length then none
    else
      let mentioned := if digits.length < 5 then n &&& 0o7000 ||| 0o777 else whole
      some [⟨.set, whole, .bits n false, mentioned⟩]

/-- What a step makes of permissions. -/
def Change.apply (isDirectory : Bool) (mask mode : Nat) (c : Change) : Nat :=
  let kept := if isDirectory then without 0o6000 c.mentioned else 0
  let value := match c.value with
    | .bits n search =>
      if search && (isDirectory || mode &&& 0o111 != 0) then n ||| 0o111 else n
    | .existing shift => (mode / shift % 8) * 0o111
  let reach := if c.affected == 0 then without whole mask else c.affected
  let value := without (value &&& reach) kept
  match c.operation with
  | .add => mode ||| value
  | .remove => without mode value
  | .set =>
    let preserved := (if c.affected == 0 then 0 else without whole c.affected) ||| kept
    (mode &&& preserved) ||| value

/-- What changes make of permissions. -/
def adjust (isDirectory : Bool) (mask : Nat) (cs : List Change) (mode : Nat) : Nat :=
  cs.foldl (Change.apply isDirectory mask) mode

/-- The permissions that a text makes of others. -/
def of? (isDirectory : Bool) (mask : Nat) (t : Bytes) (mode : Nat) : Option Nat :=
  (parse? t).map fun cs => adjust isDirectory mask cs mode

/-- Permissions in letters. -/
def text (mode : Nat) : Bytes :=
  let triple (bits : Nat) (special : Bool) (c : Char) : Bytes :=
    [if bits / 4 % 2 == 1 then 'r' else '-', if bits / 2 % 2 == 1 then 'w' else '-',
      if special then (if bits % 2 == 1 then c else c.toUpper)
      else if bits % 2 == 1 then 'x' else '-']
  triple (mode / 64 % 8) (mode / 2048 % 2 == 1) 's' ++
    triple (mode / 8 % 8) (mode / 1024 % 2 == 1) 's' ++
    triple (mode % 8) (mode / 512 % 2 == 1) 't'

/-- Permissions in four octal digits at least. -/
def octal (mode : Nat) : String :=
  let ds := String.ofList (Nat.toDigits 8 mode)
  "".pushn '0' (4 - ds.length) ++ ds

end Graft.Shell.Mode
