import Graft.Edit.Digest
import Graft.Text
import Graft.Text.Quoted

/-!
# Edits

An edit replaces a range of bytes and says what it expects to find there. A list of edits is applied
all at once: every range refers to the text as it was, and either all edits land or none does. What
makes the digest of a long text is a parameter, which is `Digest.ofText` unless another is given.
-/
namespace Graft

/-- What an edit expects to replace: the text itself, or its digest when it is long. -/
inductive Edit.Expected where
  | exact (text : Text)
  | digest (value : UInt64)
  deriving DecidableEq, Repr

namespace Edit.Expected

/-- Texts longer than this are expected by their digest. -/
def limit : Nat := 1024

def ofText (t : Text) (hash : Text → UInt64 := Digest.ofText) : Expected :=
  if t.size > limit then digest (hash t) else exact t

def holds (e : Expected) (t : Text) (hash : Text → UInt64 := Digest.ofText) : Bool :=
  match e with
  | exact expected => t == expected
  | digest value => hash t == value

theorem holds_ofText (t : Text) (hash : Text → UInt64) : (ofText t hash).holds t hash = true := by
  unfold ofText
  split <;> simp [holds]

end Edit.Expected

/-- Replaces the bytes from `start` up to `stop` by `text`. -/
structure Edit where
  start : Nat
  stop : Nat
  text : Text
  expected : Edit.Expected
  deriving DecidableEq, Repr

namespace Edit

/-- Replaces the bytes from `start` up to `stop`, where `before` stands. -/
def replace (start stop : Nat) (text before : Text) (hash : Text → UInt64 := Digest.ofText) :
    Edit :=
  ⟨start, stop, text, .ofText before hash⟩

/-- Puts a text in and removes nothing. -/
def insertion (offset : Nat) (text : Text) : Edit := replace offset offset text []

/-- Why edits do not land. -/
inductive Failure where
  | unexpected (start : Nat) (found : Text)
  | invalidRange (start stop size : Nat)
  | overlap (first second : Nat × Nat)
  | notBoundary (offset : Nat)
  deriving DecidableEq, Repr

def Failure.message : Failure → String
  | unexpected start found =>
    s!"before-text verification failed at byte {start}: found {String.ofList (Text.quoted found)}"
  | invalidRange start stop size =>
    s!"invalid byte range: [{start}, {stop}) in text of length {size}"
  | overlap first second =>
    s!"overlapping edits at [{first.1}, {first.2}) and [{second.1}, {second.2})"
  | notBoundary offset => s!"edit boundary at byte {offset} splits a UTF-8 character"

/-- Checks an edit against the text it applies to. -/
def check (t : Text) (e : Edit) (hash : Text → UInt64 := Digest.ofText) : Except Failure Unit :=
  let found := t.slice e.start e.stop
  if e.start > e.stop || e.stop > t.size then .error (.invalidRange e.start e.stop t.size)
  else if !t.isBoundary e.start then .error (.notBoundary e.start)
  else if !t.isBoundary e.stop then .error (.notBoundary e.stop)
  else if !e.expected.holds found hash then .error (.unexpected e.start found)
  else .ok ()

/-- Inserts an edit behind the edits that start no later. -/
def insertSorted (e : Edit) : List Edit → List Edit
  | [] => [e]
  | f :: fs => if f.start ≤ e.start then f :: insertSorted e fs else e :: f :: fs

/-- The edits by increasing start; those with the same start keep their order. -/
def sorted (es : List Edit) : List Edit := es.foldl (fun acc e => insertSorted e acc) []

/-- Checks that each edit, given by decreasing start, ends before the one before it begins. -/
def checkApart : List Edit → Except Failure Unit
  | later :: earlier :: es =>
    if earlier.stop > later.start then
      .error (.overlap (earlier.start, earlier.stop) (later.start, later.stop))
    else checkApart (earlier :: es)
  | _ => .ok ()

/-- Replaces one range. -/
def splice (t : Text) (e : Edit) : Text :=
  t.takeBytes e.start ++ e.text ++ t.dropBytes e.stop

/-- Applies edits to a text. The last edit is checked and spliced first, so that those before it
still find their offsets. -/
def apply (t : Text) (es : List Edit) (hash : Text → UInt64 := Digest.ofText) :
    Except Failure Text := do
  let backwards := (sorted es).reverse
  backwards.forM (check t · hash)
  checkApart backwards
  return backwards.foldl splice t

end Edit
end Graft
