import Std.Data.HashMap
import Graft.Shell.Tool.Awk.Value

/-!
# Tables of a report program

A table finds values by texts. Its keys come in the order of buckets; in a bucket the key that was
used last comes first. Keys that are integers are kept in buckets of their own, and get into those
of the texts when a text is looked up or the keys are listed.
-/
namespace Graft.Shell.Tool.Awk

/-- The number by which the bucket of a text is found. -/
def Table.hash (b : Bytes) : UInt32 :=
  b.foldl (fun h c => (h ^^^ c.toNat.toUInt32) * 16777619) 2166136261

instance : Hashable Bytes := ⟨fun b => (Table.hash b).toUInt64⟩

structure Table where
  values : Std.HashMap Bytes Value
  /-- The buckets of the integers and of the texts; they are as many. -/
  integers : Array (List Int)
  texts : Array (List Bytes)
  /-- All keys are in the buckets of texts. -/
  isListed : Bool
  /-- The keys are the integers from one on, and none was looked up but these. -/
  isRow : Bool

namespace Table

private def leastBuckets : Nat := 64

/-- How many keys there may be for each bucket. -/
private def keysPerBucket : Nat := 12

def empty : Table :=
  ⟨∅, Array.replicate leastBuckets [], Array.replicate leastBuckets [], false, false⟩

def size (t : Table) : Nat := t.values.size

private def bucketOfText (t : Table) (b : Bytes) : Nat := (hash b).toNat % t.texts.size

private def bucketOf (t : Table) (n : Int) : Nat := (n % t.integers.size).toNat

/-- Puts a key first in a bucket. -/
private def toFront [BEq α] (buckets : Array (List α)) (i : Nat) (a : α) : Array (List α) :=
  buckets.modify i fun l =>
    match l with
    | b :: _ => if a == b then l else a :: l.erase a
    | [] => [a]

/-- Puts all keys into buckets of texts. -/
private def list (t : Table) : Table :=
  if t.isListed then t
  else
    let texts := t.integers.foldl (fun texts l =>
      l.foldl (fun texts n =>
        let key := (toString n).toList
        texts.modify ((hash key).toNat % texts.size) (key :: ·)) texts) t.texts
    { t with texts, isListed := true, isRow := false }

/-- Doubles the number of buckets. Keys of one bucket stay in order. -/
private def grow (t : Table) : Table :=
  let half := t.texts.size
  let isLow (n : Int) : Bool := (n % (2 * half : Nat)).toNat < half
  let isLowText (b : Bytes) : Bool := (hash b).toNat % (2 * half) < half
  { t with
    integers := t.integers.map (·.filter isLow) ++ t.integers.map (·.filter (!isLow ·))
    texts := t.texts.map (·.filter isLowText) ++ t.texts.map (·.filter (!isLowText ·)) }

/-- Grows the table if one more key would be too many. -/
private def makeRoom (t : Table) : Table :=
  if keysPerBucket * t.texts.size < t.size + 1 then t.grow else t

/-- Notes that a key is looked up. -/
private def useText (t : Table) (b : Bytes) (isNew : Bool) : Table :=
  let t := t.list
  let t := if isNew then t.makeRoom else t
  { t with texts := toFront t.texts (t.bucketOfText b) b }

private def useInteger (t : Table) (n : Int) (b : Bytes) (isNew : Bool) : Table :=
  let isKept := (t.integers.getD (t.bucketOf n) []).contains n
  let t := if isKept then t
    else if t.isListed then t.useText b isNew
    else if isNew then t.makeRoom
    else t
  { t with integers := toFront t.integers (t.bucketOf n) n }

/-- The integer that a value is as a key, and its text. -/
private def keyOf (format : Bytes) : Value → Option Int × Bytes
  | .number x =>
    match integral? x with
    | some n => (if n.natAbs < Nat.pow 2 63 then some n else none, (toString n).toList)
    | none => (none, formatted format x)
  | v => (none, v.toText format)

/-- Looks a key up. -/
def find (t : Table) (format : Bytes) (key : Value) : Table × Option Value :=
  let (n?, b) := keyOf format key
  if t.size = 0 then (t, none)
  else
    match t.values[b]?, n? with
    | some v, some n => (if t.isRow then t else t.useInteger n b false, some v)
    | some v, none => ({ t with isRow := false }.useText b false, some v)
    | none, some _ => (t, none)
    | none, none => (t.list, none)

/-- Looks a key up, which is in the table from then on. -/
def get (t : Table) (format : Bytes) (key : Value) : Table × Value :=
  let (n?, b) := keyOf format key
  match t.values[b]?, n? with
  | some v, some n => (if t.isRow then t else t.useInteger n b false, v)
  | some v, none => ({ t with isRow := false }.useText b false, v)
  | none, some n =>
    let t := { t with isRow := false }.useInteger n b true
    ({ t with values := t.values.insert b .unset }, .unset)
  | none, none =>
    let t := { t with isRow := false }.useText b true
    ({ t with values := t.values.insert b .unset }, .unset)

def set (t : Table) (format : Bytes) (key v : Value) : Table :=
  let (n?, b) := keyOf format key
  let isNew := !t.values.contains b
  let t := match n? with
    | some n => if t.isRow && !isNew then t else { t with isRow := false }.useInteger n b isNew
    | none => { t with isRow := false }.useText b isNew
  { t with values := t.values.insert b v }

/-- Removes a key. -/
def erase (t : Table) (format : Bytes) (key : Value) : Table :=
  let (_, b) := keyOf format key
  if !t.values.contains b then t
  else if t.size = 1 then empty
  else
    let i := t.bucketOfText b
    let integers := match (String.ofList b).toInt? with
      | some n =>
        if (toString n).toList == b then t.integers.modify (t.bucketOf n) (·.erase n)
        else t.integers
      | none => t.integers
    { t with
      values := t.values.erase b, integers, texts := t.texts.modify i (·.erase b), isRow := false }

/-- The keys in order. -/
def keys (t : Table) : Table × List Bytes :=
  let t := t.list
  (t, t.texts.toList.flatten)

/-- The table of texts, under the numbers from one on. -/
def ofRow (ts : List Value) : Table :=
  let t := ts.foldl (fun ((t, n) : Table × Int) v =>
    let b := (toString n).toList
    let t := t.useInteger n b true
    ({ t with values := t.values.insert b v }, n + 1)) (empty, 1)
  { t.1 with isRow := true }

end Table

end Graft.Shell.Tool.Awk
