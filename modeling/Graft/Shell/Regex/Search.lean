import Graft.Shell.Regex

/-!
# Searching with regular expressions

An expression becomes a list of steps. All ways through the steps are tried in order of preference,
and none twice at the same place of the text, so that a search takes time in proportion to the length
of the text. Of the matches at the first place that has any the longest one counts.
-/
namespace Graft.Shell.Regex

/-- A step of a search. -/
inductive Step where
  | byte (s : ByteSet)
  | anchor (a : Anchor)
  /-- Notes the place in the text. -/
  | save (slot : Nat)
  | back (group : Nat)
  /-- Goes on with the next step, or else with another. -/
  | fork (other : Nat)
  | jump (goal : Nat)
  | accept
  deriving Inhabited

/-- The steps of a search, the number of groups, and whether a group is referred to. -/
structure Program where
  steps : Array Step
  groups : Nat
  hasBack : Bool

/-! ## Steps of an expression -/

/-- Adds the same steps several times. -/
private def times (add : Array Step → Array Step) : Nat → Array Step → Array Step
  | 0, code => code
  | n + 1, code => times add n (add code)

/-- Adds steps that may be left out, several times; each fork leads to the end. -/
private def optional (add : Array Step → Array Step) : Nat → Array Step → Array Step
  | 0, code => code
  | n + 1, code =>
    let start := code.size
    let code := optional add n (add (code.push (.fork 0)))
    code.setIfInBounds start (.fork code.size)

/-- Adds the steps of an expression to others. -/
def emit : Regex → Array Step → Array Step
  | empty, code => code
  | byte s, code => code.push (.byte s)
  | anchor a, code => code.push (.anchor a)
  | group n r, code => (emit r (code.push (.save (2 * n)))).push (.save (2 * n + 1))
  | back n, code => code.push (.back n)
  | seq a b, code => emit b (emit a code)
  | alt a b, code =>
    let start := code.size
    let code := (emit a (code.push (.fork 0))).push (.jump 0)
    let middle := code.size
    let code := emit b code
    (code.setIfInBounds start (.fork middle)).setIfInBounds (middle - 1) (.jump code.size)
  | many r least most, code =>
    let code := times (emit r) least code
    match most with
    | some m => optional (emit r) (m - least) code
    | none =>
      let start := code.size
      let code := (emit r (code.push (.fork 0))).push (.jump start)
      code.setIfInBounds start (.fork code.size)

/-- The steps of a search for an expression. -/
def Program.ofRegex (r : Regex) : Program where
  steps := (((emit r #[.save 0]).push (.save 1)).push .accept)
  groups := r.groups
  hasBack := r.hasBack

/-- Reads an expression and makes a search of it. -/
def compile (d : Dialect) (t : Bytes) : Except Flaw Program := (parse d t).map Program.ofRegex

/-! ## Searching -/

abbrev Slots := Array (Option Nat)

/-- A way through the steps: the next step, the place in the text, and the places noted. -/
structure Thread where
  step : Nat
  place : Nat
  slots : Slots

private def wordAt (t : Array Char) (i : Nat) : Bool := t[i]?.any isWord

private def wordBefore (t : Array Char) (i : Nat) : Bool := 0 < i && wordAt t (i - 1)

/-- Whether a condition holds at a place. Lines end at line feeds if there are `lines`. -/
def holdsAt (t : Array Char) (lines : Bool) (i : Nat) : Anchor → Bool
  | .textStart => i == 0
  | .textEnd => i == t.size
  | .lineStart => i == 0 || (lines && t[i - 1]? == some '\n')
  | .lineEnd => i == t.size || (lines && t[i]? == some '\n')
  | .wordStart => !wordBefore t i && wordAt t i
  | .wordEnd => wordBefore t i && !wordAt t i
  | .edge => wordBefore t i != wordAt t i
  | .noEdge => wordBefore t i == wordAt t i
  | .notBehindWord => !wordBefore t i
  | .notBeforeWord => !wordAt t i

/-- What was tried already: steps at places, or whole threads where groups are referred to. -/
structure Tried where
  steps : Array Bool
  threads : List (Nat × Nat × Slots)

/-- Notes a thread, unless it was tried. -/
private def Tried.note (seen : Tried) (p : Program) (size : Nat) (th : Thread) : Option Tried :=
  if p.hasBack then
    let key := (th.step, th.place, th.slots)
    if seen.threads.contains key then none else some { seen with threads := key :: seen.threads }
  else
    let i := th.step * (size + 1) + th.place
    if seen.steps.getD i true then none
    else some { seen with steps := seen.steps.setIfInBounds i true }

/-- The place behind the text of a group if that stands here again. -/
private def behindBack (t : Array Char) (th : Thread) (n : Nat) : Option Nat :=
  match (th.slots.getD (2 * n) none), (th.slots.getD (2 * n + 1) none) with
  | some a, some b =>
    let size := b - a
    if (List.range size).all fun k => t[a + k]? == t[th.place + k]? && th.place + k < t.size then
      some (th.place + size)
    else none
  | _, _ => none

/-- Follows all threads; keeps the longest match. -/
private def follow (p : Program) (t : Array Char) (lines : Bool) :
    Nat → List Thread → Tried → Option (Nat × Slots) → Tried × Option (Nat × Slots)
  | 0, _, seen, best => (seen, best)
  | _, [], seen, best => (seen, best)
  | fuel + 1, th :: rest, seen, best =>
    match p.steps[th.step]? with
    | none => follow p t lines fuel rest seen best
    | some (.byte s) =>
      match t[th.place]? with
      | some c =>
        if s.has c then
          let th := { th with step := th.step + 1, place := th.place + 1 }
          follow p t lines fuel (th :: rest) seen best
        else follow p t lines fuel rest seen best
      | none => follow p t lines fuel rest seen best
    | some (.anchor a) =>
      if holdsAt t lines th.place a then
        follow p t lines fuel ({ th with step := th.step + 1 } :: rest) seen best
      else follow p t lines fuel rest seen best
    | some (.save slot) =>
      let slots := th.slots.setIfInBounds slot (some th.place)
      follow p t lines fuel ({ th with step := th.step + 1, slots } :: rest) seen best
    | some (.back n) =>
      match behindBack t th n with
      | some place =>
          follow p t lines fuel ({ th with step := th.step + 1, place } :: rest) seen best
      | none => follow p t lines fuel rest seen best
    | some (.fork other) =>
      match seen.note p t.size th with
      | none => follow p t lines fuel rest seen best
      | some seen =>
        let next : Thread := { th with step := th.step + 1 }
        follow p t lines fuel (next :: { th with step := other } :: rest) seen best
    | some (.jump goal) => follow p t lines fuel ({ th with step := goal } :: rest) seen best
    | some .accept =>
      let isBetter := match best with
        | some (place, _) => decide (place < th.place)
        | none => true
      if !isBetter then follow p t lines fuel rest seen best
      else if th.place == t.size then (seen, some (th.place, th.slots))
      else follow p t lines fuel rest seen (some (th.place, th.slots))

/-- A match: where it and its groups begin and end. -/
abbrev Match := Array (Option (Nat × Nat))

private def matchOf (p : Program) (slots : Slots) : Match :=
  ((List.range (p.groups + 1)).map fun n =>
    match slots.getD (2 * n) none, slots.getD (2 * n + 1) none with
    | some a, some b => if a ≤ b then some (a, b) else none
    | _, _ => none).toArray

/-- Tries one place of the text after another. -/
private def searchFrom (p : Program) (t : Array Char) (lines : Bool) (first : Option ByteSet)
    (fuel : Nat) : Nat → Nat → Tried → Option Match
  | 0, _, _ => none
  | left + 1, i, seen =>
    if t.size < i then none
    else
      let isHopeless := match first, t[i]? with
        | some s, some c => !s.has c
        | some _, none => true
        | none, _ => false
      if isHopeless then searchFrom p t lines first fuel left (i + 1) seen
      else
        let slots : Slots := Array.replicate (2 * p.groups + 2) none
        match follow p t lines fuel [⟨0, i, slots⟩] seen none with
        | (_, some (_, slots)) => some (matchOf p slots)
        | (seen, none) => searchFrom p t lines first fuel left (i + 1) seen

/-- The first and longest match from a place on. -/
def Program.search (p : Program) (t : Array Char) (start : Nat) (lines : Bool) : Option Match :=
  let first : Option ByteSet := match p.steps[1]? with
    | some (Step.byte s) => some s
    | _ => none
  let fuel := if p.hasBack then Nat.pow 2 20
    else 2 * p.steps.size * p.steps.size * (t.size + 2) + 16
  let size := if p.hasBack then 0 else p.steps.size * (t.size + 1)
  searchFrom p t lines first fuel (t.size + 2 - start) start ⟨Array.replicate size false, []⟩

/-- Whether an expression matches somewhere in a text. -/
def Program.isIn (p : Program) (t : Bytes) : Bool := (p.search t.toArray 0 false).isSome

end Graft.Shell.Regex
