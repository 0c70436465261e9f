import Graft.Text

/-!
# Changed items

Which items of two sequences have no partner in the other one. A shortest way between the sequences
is found from both ends at once; then each group of changes is moved as far towards the end as it
goes, unless it meets changes on the other side.
-/
namespace Graft.Diff.Changed

/-- For each item of both sequences whether it is changed. -/
structure Marks where
  left : Array Bool
  right : Array Bool

/-! ## The middle of a shortest way -/

/-- The ends that the searches from both sides have reached on the diagonals from `low` on. -/
structure Frontier where
  size : Nat
  forward : Array Int
  backward : Array Int

private def Frontier.get (a : Array Int) (size : Nat) (d : Int) : Int :=
  a.getD (d + size + 1).toNat 0

private def Frontier.put (a : Array Int) (size : Nat) (d x : Int) : Array Int :=
  a.setIfInBounds (d + size + 1).toNat x

private def itemAt (a : Array Nat) (i : Int) : Nat := a.getD i.toNat 0

/-- Goes on along equal items. -/
private def slideDown (xs ys : Array Nat) (xlim ylim : Int) : Nat → Int → Int → Int
  | 0, x, _ => x
  | fuel + 1, x, y =>
    if x < xlim && y < ylim && itemAt xs x == itemAt ys y then
      slideDown xs ys xlim ylim fuel (x + 1) (y + 1)
    else x

/-- Goes back along equal items. -/
private def slideUp (xs ys : Array Nat) (xoff yoff : Int) : Nat → Int → Int → Int
  | 0, x, _ => x
  | fuel + 1, x, y =>
    if xoff < x && yoff < y && itemAt xs (x - 1) == itemAt ys (y - 1) then
      slideUp xs ys xoff yoff fuel (x - 1) (y - 1)
    else x

/-- Every second diagonal from one down to another. -/
private def diagonals (high low : Int) : List Int :=
  (List.range (((high - low) / 2 + 1).toNat)).map fun (k : Nat) => high - 2 * k

/-- A bound above all positions. -/
private def far : Int := Int.pow 2 62

/-- The range of the two sequences in which a middle is looked for. -/
structure Range where
  xoff : Int
  xlim : Int
  yoff : Int
  ylim : Int

/-- Searches one edit further from both sides at a time until the searches meet. -/
private def search (xs ys : Array Nat) (r : Range) (length : Nat) :
    Nat → Frontier → Int → Int → Int → Int → Int × Int
  | 0, _, _, _, _, _ => (r.xoff, r.yoff)
  | fuel + 1, f, fmin, fmax, bmin, bmax =>
    let dmin := r.xoff - r.ylim
    let dmax := r.xlim - r.yoff
    let isOdd := ((r.xoff - r.yoff) - (r.xlim - r.ylim)) % 2 != 0
    let n := f.size
    let (fmin, fd) := if fmin > dmin then (fmin - 1, Frontier.put f.forward n (fmin - 2) (-1))
      else (fmin + 1, f.forward)
    let (fmax, fd) := if fmax < dmax then (fmax + 1, Frontier.put fd n (fmax + 2) (-1))
      else (fmax - 1, fd)
    let (fd, met) := (diagonals fmax fmin).foldl
      (fun ((fd, met) : Array Int × Option (Int × Int)) d =>
        if met.isSome then (fd, met)
        else
          let low := Frontier.get fd n (d - 1)
          let high := Frontier.get fd n (d + 1)
          let x0 := if low < high then high else low + 1
          let x := slideDown xs ys r.xlim r.ylim length x0 (x0 - d)
          let fd := Frontier.put fd n d x
          if isOdd && bmin ≤ d && d ≤ bmax && Frontier.get f.backward n d ≤ x then
            (fd, some (x, x - d))
          else (fd, none)) (fd, none)
    match met with
    | some p => p
    | none =>
      let (bmin, bd) := if bmin > dmin then (bmin - 1, Frontier.put f.backward n (bmin - 2) far)
        else (bmin + 1, f.backward)
      let (bmax, bd) := if bmax < dmax then (bmax + 1, Frontier.put bd n (bmax + 2) far)
        else (bmax - 1, bd)
      let (bd, met) := (diagonals bmax bmin).foldl
        (fun ((bd, met) : Array Int × Option (Int × Int)) d =>
          if met.isSome then (bd, met)
          else
            let low := Frontier.get bd n (d - 1)
            let high := Frontier.get bd n (d + 1)
            let x0 := if low < high then low else high - 1
            let x := slideUp xs ys r.xoff r.yoff length x0 (x0 - d)
            let bd := Frontier.put bd n d x
            if !isOdd && fmin ≤ d && d ≤ fmax && x ≤ Frontier.get fd n d then
              (bd, some (x, x - d))
            else (bd, none)) (bd, none)
      match met with
      | some p => p
      | none => search xs ys r length fuel ⟨n, fd, bd⟩ fmin fmax bmin bmax

/-- A point on a shortest way through a range. -/
def middle (xs ys : Array Nat) (r : Range) : Int × Int :=
  let n := xs.size + ys.size + 2
  let fmid := r.xoff - r.yoff
  let bmid := r.xlim - r.ylim
  let blank : Array Int := Array.replicate (2 * n + 4) 0
  let f : Frontier := ⟨n, Frontier.put blank n fmid r.xoff, Frontier.put blank n bmid r.xlim⟩
  search xs ys r n (2 * n) f fmid fmid bmid bmid

/-! ## Marking -/

/-- Marks the places from one up to another. -/
private def markFrom (c : Array Bool) (first last : Int) : Array Bool :=
  (List.range (last - first).toNat).foldl
    (fun c (k : Nat) => c.setIfInBounds (first.toNat + k) true) c

/-- Marks the changes in a range: equal ends are left out, and the rest is divided in the middle. -/
def mark (xs ys : Array Nat) : Nat → Range → Marks → Marks
  | 0, _, m => m
  | fuel + 1, r, m =>
    let size := xs.size + ys.size
    let xoff := slideDown xs ys r.xlim r.ylim size r.xoff r.yoff
    let yoff := r.yoff + (xoff - r.xoff)
    let xlim := slideUp xs ys xoff yoff size r.xlim r.ylim
    let ylim := r.ylim - (r.xlim - xlim)
    if xoff == xlim then { m with right := markFrom m.right yoff ylim }
    else if yoff == ylim then { m with left := markFrom m.left xoff xlim }
    else
      let (x, y) := middle xs ys ⟨xoff, xlim, yoff, ylim⟩
      mark xs ys fuel ⟨x, xlim, y, ylim⟩ (mark xs ys fuel ⟨xoff, x, yoff, y⟩ m)

/-! ## Moving changes -/

private def isMarked (c : Array Bool) (i : Int) : Bool := 0 ≤ i && c.getD i.toNat false

private def setMark (c : Array Bool) (i : Int) (b : Bool) : Array Bool :=
  c.setIfInBounds i.toNat b

/-- The first place without a mark from one on. -/
private def skipMarks (c : Array Bool) : Nat → Int → Int
  | 0, i => i
  | fuel + 1, i => if isMarked c i then skipMarks c fuel (i + 1) else i

/-- The last place without a mark from one on backwards. -/
private def skipBack (c : Array Bool) : Nat → Int → Int
  | 0, i => i
  | fuel + 1, i => if isMarked c i then skipBack c fuel (i - 1) else i

/-- A group of changes while it is moved: the marks of its side, its ends, and the place on the
other side. -/
structure Group where
  marks : Array Bool
  start : Int
  stop : Int
  other : Int
  /-- Where the end of the group last met changes of the other side. -/
  meeting : Int

/-- Moves a group back while the item before it equals its last one. -/
private def moveBack (xs : Array Nat) (others : Array Bool) : Nat → Group → Group
  | 0, g => g
  | fuel + 1, g =>
    if 0 < g.start && itemAt xs (g.start - 1) == itemAt xs (g.stop - 1) then
      let start := g.start - 1
      let stop := g.stop - 1
      let marks := setMark (setMark g.marks start true) stop false
      let start := skipBack marks xs.size (start - 1) + 1
      let other := skipBack others others.size (g.other - 1)
      moveBack xs others fuel { g with marks, start, stop, other }
    else g

/-- Moves a group on while the item behind it equals its first one. -/
private def moveOn (xs : Array Nat) (others : Array Bool) : Nat → Group → Group
  | 0, g => g
  | fuel + 1, g =>
    if g.stop < xs.size && itemAt xs g.start == itemAt xs g.stop then
      let marks := setMark (setMark g.marks g.start false) g.stop true
      let stop := skipMarks marks xs.size (g.stop + 1)
      let other := skipMarks others others.size (g.other + 1)
      let meeting := if other != g.other + 1 then stop else g.meeting
      moveOn xs others fuel { g with marks, start := g.start + 1, stop, other, meeting }
    else g

/-- Moves a group until it no longer grows. -/
private def settle (xs : Array Nat) (others : Array Bool) : Nat → Group → Group
  | 0, g => g
  | fuel + 1, g =>
    let size := g.stop - g.start
    let g := moveBack xs others (xs.size + 1) g
    let meeting := if isMarked others (g.other - 1) then g.stop else xs.size
    let g := moveOn xs others (xs.size + 1) { g with meeting }
    if g.stop - g.start == size then g else settle xs others fuel g

/-- Moves a group back to where it met changes of the other side. -/
private def moveToMeeting (others : Array Bool) : Nat → Group → Group
  | 0, g => g
  | fuel + 1, g =>
    if g.meeting < g.stop then
      let start := g.start - 1
      let stop := g.stop - 1
      let marks := setMark (setMark g.marks start true) stop false
      moveToMeeting others fuel
        { g with marks, start, stop, other := skipBack others others.size (g.other - 1) }
    else g

/-- Moves all groups of one side. -/
private def shift (xs : Array Nat) (others : Array Bool) :
    Nat → Array Bool → Int → Int → Array Bool
  | 0, marks, _, _ => marks
  | fuel + 1, marks, i, j =>
    if xs.size ≤ i then marks
    else if !isMarked marks i then
      shift xs others fuel marks (i + 1) (skipMarks others others.size j + 1)
    else
      let stop := skipMarks marks xs.size (i + 1)
      let other := skipMarks others others.size j
      let g := settle xs others (xs.size + 1) ⟨marks, i, stop, other, xs.size⟩
      let g := moveToMeeting others (xs.size + 1) g
      shift xs others fuel g.marks g.stop g.other

/-! ## Both sides -/

/-- The items that the other side has too. -/
private def common (xs ys : Array Nat) : List (Nat × Nat) :=
  xs.toList.zipIdx.filter fun (x, _) => ys.contains x

/-- Marks the changed items. Items that the other side does not have at all are put aside first. -/
def ofArrays (xs ys : Array Nat) : Marks :=
  let keptX := common xs ys
  let keptY := common ys xs
  let cx := (keptX.map (·.1)).toArray
  let cy := (keptY.map (·.1)).toArray
  let blank : Marks := ⟨Array.replicate cx.size false, Array.replicate cy.size false⟩
  let inner := mark cx cy (cx.size + cy.size + 1) ⟨0, cx.size, 0, cy.size⟩ blank
  let spread (size : Nat) (kept : List (Nat × Nat)) (marks : Array Bool) : Array Bool :=
    (kept.zip marks.toList).foldl (fun a ((_, i), b) => a.setIfInBounds i b)
      (Array.replicate size true)
  let left := spread xs.size keptX inner.left
  let right := spread ys.size keptY inner.right
  let left := shift xs right (2 * xs.size + 2) left 0 0
  let right := shift ys left (2 * ys.size + 2) right 0 0
  ⟨left, right⟩

/-- A group of changes: items from one index up to another on both sides. -/
structure Hunk where
  first : Nat
  last : Nat
  otherFirst : Nat
  otherLast : Nat
  deriving DecidableEq, Repr

/-- The groups of changes in order. -/
def hunks (m : Marks) : List Hunk :=
  let size := m.left.size + m.right.size
  let rec go : Nat → Nat → Nat → List Hunk → List Hunk
    | 0, _, _, done => done.reverse
    | fuel + 1, i, j, done =>
      if m.left.size ≤ i && m.right.size ≤ j then done.reverse
      else
        let i' := (skipMarks m.left size i).toNat
        let j' := (skipMarks m.right size j).toNat
        if i' == i && j' == j then go fuel (i + 1) (j + 1) done
        else go fuel i' j' (⟨i, i', j, j'⟩ :: done)
  go (2 * size + 2) 0 0 []

end Graft.Diff.Changed
