import Graft.Proofs.Injection

/-!
# Margins

The margin of a node is the indentation of the line on which it stands, and whether it begins that
line. The layout of new lines is taken from margins only: their indentation from the nodes of the
scope they go to, and the unit of indentation from the first node that is deeper than its block. A
unit that has been read off a script is read off again after lines that keep to it have been added.
-/
namespace Graft

/-- The indentation of a line, and whether nothing else stands before an offset in it. -/
structure Margin where
  begins : Bool
  indent : Text

/-- The margin behind the beginning of a line, of something that does not indent. -/
def Margin.ofHead (head : Text) : Margin := ⟨head.all Text.isIndent, head.takeWhile Text.isIndent⟩

namespace Text

def margin (t : Text) (offset : Nat) : Margin := ⟨t.startsLine offset, t.lineIndent offset⟩

theorem margin_append (a : Text) {c : Char} (hc : isIndent c = false) (r : Text) :
    margin (a ++ c :: r) (size a) = .ofHead (lastLine a) := by
  have hindent : (lastLine a ++ c :: r).takeWhile isIndent = (lastLine a).takeWhile isIndent := by
    rw [List.takeWhile_append]
    split
    case isTrue hlen => simp [hc, (List.takeWhile_prefix isIndent).eq_of_length hlen]
    case isFalse => rfl
  rw [margin, startsLine_append, lineIndent, lineHead_append, dropBytes_size_append, hindent]
  rfl

theorem lastLine_append {a : Text} (h : lastLine a = []) (b : Text) :
    lastLine (a ++ b) = lastLine b := by
  obtain ⟨u, hu, hor⟩ := exists_lastLine a
  rw [h, List.append_nil] at hu
  obtain rfl | ⟨v, rfl⟩ := hor
  · simp [hu]
  · rw [hu, List.append_assoc]
    exact lastLine_append_lineFeed v b

theorem lastLine_append_of_mem {b : Text} (h : '\n' ∈ b) (a : Text) :
    lastLine (a ++ b) = lastLine b := by
  obtain ⟨u, v, rfl⟩ := List.append_of_mem h
  rw [← List.append_assoc, lastLine_append_lineFeed, lastLine_append_lineFeed]

theorem lastLine_of_isIndent {t : Text} (h : ∀ c ∈ t, isIndent c = true) : lastLine t = t := by
  refine lastLine_of_all fun c hc => ?_
  rintro rfl
  exact absurd (h _ hc) (by decide)

end Text

theorem Margin.ofHead_of_isIndent {t : Text} (h : ∀ c ∈ t, Text.isIndent c = true) :
    ofHead t = ⟨true, t⟩ := by
  rw [ofHead, List.all_eq_true.mpr h, List.takeWhile_eq_self_iff.mpr h]

/-- The function gives the margins of the text when it stands at the offset `p`, where a line
begins. -/
def Text.Marks (g : Nat → Margin) (p : Nat) (t : Text) : Prop :=
  ∀ a c r, t = a ++ c :: r → isIndent c = false → g (p + size a) = .ofHead (lastLine a)

namespace Text

variable {g : Nat → Margin} {p : Nat} {a b : Text}

theorem marks_nil (g : Nat → Margin) (p : Nat) : Marks g p [] := by
  rintro (_ | ⟨x, a⟩) c r hcut _ <;> cases hcut

theorem marks_margin {before : Text} (h : lastLine before = []) (t after : Text) :
    Marks (margin (before ++ (t ++ after))) (size before) t := by
  rintro a c r rfl hc
  have hcut : before ++ (a ++ c :: r ++ after) = (before ++ a) ++ c :: (r ++ after) := by simp
  rw [hcut, ← size_append, margin_append _ hc, lastLine_append h]

theorem Marks.left (h : Marks g p (a ++ b)) : Marks g p a := by
  rintro u c r rfl hc
  exact h u c (r ++ b) (by simp) hc

theorem Marks.right (h : Marks g p (a ++ b)) (ha : lastLine a = []) : Marks g (p + size a) b := by
  rintro u c r rfl hc
  rw [Nat.add_assoc, ← size_append, h (a ++ u) c r (by simp) hc, lastLine_append ha]

end Text

/-! ## What is read off margins -/

namespace Sketch

def label {α : Type} : Sketch α → α
  | statement l => l
  | block l _ => l

/-- The indentations of the nodes that begin a line. -/
def indents (vs : List (Sketch Margin)) : List Text :=
  (vs.filter fun v => v.label.begins).map fun v => v.label.indent

theorem indents_append (vs ws : List (Sketch Margin)) :
    indents (vs ++ ws) = indents vs ++ indents ws := by
  simp [indents]

/-- What the first deeper one of some indentations adds. -/
def added? (own : Text) (is : List Text) : Option Text :=
  (is.find? fun i => decide (i.length > own.length) && own.isPrefixOf i).map (·.drop own.length)

mutual

/-- The unit of indentation that is shown first, outer blocks before inner ones. -/
def shown? : Sketch Margin → Option Text
  | statement _ => none
  | block l cs => (added? l.indent (indents cs)).or (shownIn? cs)

def shownIn? : List (Sketch Margin) → Option Text
  | [] => none
  | v :: vs => v.shown?.or (shownIn? vs)

end

private theorem shownIn?_append (vs ws : List (Sketch Margin)) :
    shownIn? (vs ++ ws) = (shownIn? vs).or (shownIn? ws) := by
  induction vs with
  | nil => simp [shownIn?]
  | cons v vs ih => simp [shownIn?, ih, Option.or_assoc]

private theorem added?_append (own : Text) (is js : List Text) :
    added? own (is ++ js) = (added? own is).or (added? own js) := by
  simp only [added?, List.find?_append]
  cases is.find? _ <;> rfl

theorem added?_ne_nil {own unit : Text} {is : List Text} (h : added? own is = some unit) :
    unit ≠ [] := by
  obtain ⟨i, hi, rfl⟩ := Option.map_eq_some_iff.mp h
  have hdeeper := List.find?_some hi
  simp only [Bool.and_eq_true, decide_eq_true_eq] at hdeeper
  intro hnil
  have := congrArg List.length hnil
  simp only [List.length_drop, List.length_nil] at this
  omega

/-- Lines that are one unit deeper show the unit. -/
theorem added?_deeper {own unit : Text} (hunit : unit ≠ []) {is : List Text} (hne : is ≠ [])
    (h : ∀ i ∈ is, i = own ++ unit) : added? own is = some unit := by
  obtain ⟨i, is, rfl⟩ := List.exists_cons_of_ne_nil hne
  obtain rfl := h i (by simp)
  have hlen := List.length_pos_of_ne_nil hunit
  simp [added?, hlen]

private theorem added?_eq_none {own : Text} {is js : List Text} (h : added? own is = none)
    (hjs : ∀ j ∈ js, j ∈ is ∨ j = []) : added? own js = none := by
  rw [added?, Option.map_eq_none_iff, List.find?_eq_none] at h ⊢
  intro j hj
  obtain hmem | rfl := hjs j hj
  · exact h j hmem
  · simp

end Sketch

open Sketch (indents added? shown? shownIn?)

namespace Node

theorem sketches_eq_map {α : Type} (label : Nat → α) (ns : List Node) :
    sketches label ns = ns.map (sketch label) := by
  induction ns with
  | nil => rfl
  | cons n ns ih => rw [sketches, ih, List.map_cons]

theorem label_sketch {α : Type} (label : Nat → α) (n : Node) :
    (n.sketch label).label = label n.span.start := by
  cases n <;> rfl

end Node

namespace Plan

theorem childIndents_eq (source : Text) (s : Scope) :
    childIndents source s = indents (Node.sketches source.margin s.children) := by
  simp only [childIndents, indents, Node.sketches_eq_map, List.filter_map, List.map_map]
  congr 1
  · funext n
    simp [Node.label_sketch, Text.margin]
  · refine List.filter_congr fun n _ => ?_
    simp [Node.label_sketch, Text.margin]

theorem unitOf?_eq (source : Text) (s : Scope) : unitOf? source s =
    added? (scopeIndent source s) (indents (Node.sketches source.margin s.children)) := by
  rw [← childIndents_eq]
  rfl

mutual

private theorem findSome?_scopes (source : Text) : (n : Node) →
    n.scopes.findSome? (unitOf? source) = shown? (n.sketch source.margin)
  | .statement n s args => rfl
  | .block n s header b cs => by
    rw [Node.scopes, List.findSome?_cons, unitOf?_eq, findSome?_scopesOf source cs, Node.sketch,
      shown?]
    change _ = (added? (scopeIndent source ⟨n, s, some b, cs⟩) _).or _
    cases added? (scopeIndent source ⟨n, s, some b, cs⟩)
        (indents (Node.sketches source.margin cs)) <;> rfl

private theorem findSome?_scopesOf (source : Text) : (ns : List Node) →
    (Node.scopesOf ns).findSome? (unitOf? source) = shownIn? (Node.sketches source.margin ns)
  | [] => rfl
  | n :: ns => by
    rw [Node.scopesOf, List.findSome?_append, findSome?_scopes source n,
      findSome?_scopesOf source ns, Node.sketches, shownIn?]

end

mutual

theorem isDocument_of_mem_scopes {s : Scope} : (n : Node) → s ∈ n.scopes → s.isDocument = false
  | .statement .., h => by cases h
  | .block n span header b cs, h => by
    obtain rfl | h := List.mem_cons.mp h
    · rfl
    · exact isDocument_of_mem_scopesOf cs h

theorem isDocument_of_mem_scopesOf {s : Scope} : (ns : List Node) → s ∈ Node.scopesOf ns →
    s.isDocument = false
  | [], h => by cases h
  | n :: ns, h => by
    rw [Node.scopesOf, List.mem_append] at h
    obtain h | h := h
    · exact isDocument_of_mem_scopes n h
    · exact isDocument_of_mem_scopesOf ns h

end

theorem unit_eq (d : Document) (s : Scope) (fallback : Text) : unit d s fallback =
    ((added? (scopeIndent d.source s) (indents (Node.sketches d.source.margin s.children))).or
      (shownIn? (Node.sketches d.source.margin d.nodes))).getD fallback := by
  have hblocks : d.root.walk.filter (fun s => !s.isDocument) = Node.scopesOf d.nodes := by
    rw [Scope.walk, List.filter_cons_of_neg (by simp [Scope.isDocument, Document.root])]
    refine List.filter_eq_self.mpr fun s hs => ?_
    rw [isDocument_of_mem_scopesOf _ hs, Bool.not_false]
  rw [unit, hblocks, unitOf?_eq, findSome?_scopesOf]
  simp

end Plan

/-! ## Nodes that keep to the unit -/

namespace Sketch

variable {unit : Text}

mutual

/-- In every block, the nodes that begin a line are one unit deeper than the line of the block. -/
def Regular (unit : Text) : Sketch Margin → Prop
  | statement _ => True
  | block l cs => (∀ i ∈ indents cs, i = l.indent ++ unit) ∧ AllRegular unit cs

def AllRegular (unit : Text) : List (Sketch Margin) → Prop
  | [] => True
  | v :: vs => v.Regular unit ∧ AllRegular unit vs

end

theorem allRegular_append {vs ws : List (Sketch Margin)} :
    AllRegular unit (vs ++ ws) ↔ AllRegular unit vs ∧ AllRegular unit ws := by
  induction vs with
  | nil => simp [AllRegular]
  | cons v vs ih => simp [AllRegular, ih, and_assoc]

mutual

private theorem Regular.shown? (hunit : unit ≠ []) : (v : Sketch Margin) → v.Regular unit →
    v.shown? = none ∨ v.shown? = some unit
  | statement _, _ => .inl rfl
  | block l cs, h => by
    by_cases hnil : indents cs = []
    · rw [Sketch.shown?, hnil]
      exact AllRegular.shownIn? hunit cs h.2
    · rw [Sketch.shown?, added?_deeper hunit hnil h.1]
      exact .inr rfl

private theorem AllRegular.shownIn? (hunit : unit ≠ []) : (vs : List (Sketch Margin)) →
    AllRegular unit vs → shownIn? vs = none ∨ shownIn? vs = some unit
  | [], _ => .inl rfl
  | v :: vs, h => by
    rw [Sketch.shownIn?]
    obtain hv | hv := Regular.shown? hunit v h.1
    · rw [hv]
      exact AllRegular.shownIn? hunit vs h.2
    · rw [hv]
      exact .inr rfl

end

private theorem indents_modify {f : Sketch Margin → Sketch Margin} (hf : ∀ v, (f v).label = v.label)
    (i : Nat) (vs : List (Sketch Margin)) : indents (vs.modify i f) = indents vs := by
  have hlabels (vs : List (Sketch Margin)) : indents vs =
      ((vs.map label).filter (·.begins)).map (·.indent) := by
    simp [indents, List.filter_map, Function.comp_def]
  rw [hlabels, hlabels vs]
  congr 2
  refine List.ext_getElem? fun j => ?_
  rw [List.getElem?_map, List.getElem?_map, List.getElem?_modify]
  cases vs[j]? with
  | none => rfl
  | some v =>
    by_cases hij : i = j
    · simp [hij, hf]
    · simp [hij]

private theorem label_within (f : List (Sketch Margin) → List (Sketch Margin)) (v : Sketch Margin) :
    (v.within f).label = v.label := by
  cases v <;> rfl

/-- Regular nodes at the end of a scope that shows nothing do not change what is shown first, if
that is their unit or if nothing is. -/
theorem getD_shownIn?_appendAt (hunit : unit ≠ []) {g : Nat → Margin} {root s : Scope}
    {path : List Nat} (h : root.at? path = some s) {new : List (Sketch Margin)}
    (hnew : AllRegular unit new)
    (hkids : s.isDocument = false → added? (g s.span.start).indent
        (indents (Node.sketches g s.children ++ new)) =
      added? (g s.span.start).indent (indents (Node.sketches g s.children)))
    (fallback : Text) (other : Option Text)
    (hshown : ((shownIn? (Node.sketches g root.children)).or other).getD fallback = unit) :
    ((shownIn? (appendAt new path (Node.sketches g root.children))).or other).getD fallback =
      unit := by
  induction path generalizing root other with
  | nil =>
    rw [appendAt, shownIn?_append]
    cases hvs : shownIn? (Node.sketches g root.children) with
    | some u => simpa [hvs] using hshown
    | none =>
      obtain hnone | hsome := hnew.shownIn? hunit
      · simpa [hvs, hnone] using hshown
      · simp [hsome]
  | cons i path ih =>
    rw [Scope.at?] at h
    generalize root.children = ns at h hshown
    induction i generalizing ns with
    | zero =>
      cases ns with
      | nil => cases h
      | cons n ns =>
        cases n with
        | statement n span args => cases h
        | block n span header b cs =>
          have hpath : (⟨n, span, some b, cs⟩ : Scope).at? path = some s := by
            simpa [Node.scope?] using h
          have hown : added? (g span.start).indent
              (indents (appendAt new path (Node.sketches g cs))) =
              added? (g span.start).indent (indents (Node.sketches g cs)) := by
            cases path with
            | nil =>
              obtain rfl := Option.some.inj hpath
              exact hkids rfl
            | cons j path => rw [appendAt, indents_modify (label_within _)]
          simp only [Node.sketches, Node.sketch, shownIn?, Sketch.shown?, Option.or_assoc] at hshown
          simp only [Node.sketches, Node.sketch, appendAt, List.modify_zero_cons, within, shownIn?,
            Sketch.shown?, hown, Option.or_assoc]
          cases hadded : added? (g span.start).indent (indents (Node.sketches g cs)) with
          | some u => simpa [hadded] using hshown
          | none =>
            rw [hadded, Option.none_or] at hshown
            exact ih hpath _ hshown
    | succ i ihi =>
      cases ns with
      | nil => cases h
      | cons n ns =>
        simp only [Node.sketches, shownIn?, Option.or_assoc] at hshown
        simp only [Node.sketches, appendAt, List.modify_succ_cons, shownIn?, Option.or_assoc]
        cases hn : (n.sketch g).shown? with
        | some u => simpa [hn] using hshown
        | none =>
          rw [hn, Option.none_or] at hshown
          simpa [appendAt] using ihi ns (by simpa using h) hshown

end Sketch

/-- The unit is read off again after lines that keep to it have been added at the end of the scope
it was read for. -/
theorem Plan.unit_stable {d d' : Document} {s s' : Scope} {path : List Nat}
    (hs : d.root.at? path = some s) {fallback : Text} (hunit : unit d s fallback ≠ [])
    {new : List (Sketch Margin)} (hnodes : Node.sketches d'.source.margin d'.nodes =
      Sketch.appendAt new path (Node.sketches d.source.margin d.nodes))
    (hindent : scopeIndent d'.source s' = scopeIndent d.source s)
    (hkids : Node.sketches d'.source.margin s'.children =
      Node.sketches d.source.margin s.children ++ new)
    (hnew : Sketch.AllRegular (unit d s fallback) new) (hne : indents new ≠ [])
    (hor : (∀ i ∈ indents new, i ∈ childIndents d.source s ∨ i = []) ∨
      ∀ i ∈ indents new, i = scopeIndent d.source s ++ unit d s fallback) :
    unit d' s' fallback = unit d s fallback := by
  rw [childIndents_eq] at hor
  rw [unit_eq d', hindent, hkids, hnodes, Sketch.indents_append, Sketch.added?_append]
  have hunit_eq := unit_eq d s fallback
  cases hown : added? (scopeIndent d.source s)
      (indents (Node.sketches d.source.margin s.children)) with
  | some u => simp [hunit_eq, hown]
  | none =>
    obtain hor | hor := hor
    · have hnone := Sketch.added?_eq_none hown hor
      rw [hown, Option.none_or] at hunit_eq
      have hshown := Sketch.getD_shownIn?_appendAt (g := d.source.margin) hunit hs hnew
        (fun hblock => ?_) fallback none (by rw [Option.or_none]; exact hunit_eq.symm)
      · simpa [hnone, Document.root] using hshown
      · have hlabel : (d.source.margin s.span.start).indent = scopeIndent d.source s := by
          simp [scopeIndent, hblock, Text.margin]
        rw [hlabel, Sketch.indents_append, Sketch.added?_append, hown, hnone]
        rfl
    · rw [Sketch.added?_deeper hunit hne hor]
      rfl

end Graft
