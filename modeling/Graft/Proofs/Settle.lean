import Graft.Proofs.Lines
import Graft.Proofs.Seek

/-!
# Settled blocks

After lines have gone into a block, or into blocks that were made for them, the innermost block is
settled: its closing brace stands on a line of its own right below the new lines. Further lines go
above that brace with the indentation of those before them, so that they come to stand where they
would have come to stand at once.
-/
namespace Graft

open Lexeme (IsLineEnd isGap texts)
open Grammar (Body)
open Sketch (indents added?)
open Shape (spine)

private theorem Scope.at?_append (root : Scope) (path rest : List Nat) :
    root.at? (path ++ rest) = (root.at? path).bind (Scope.at? · rest) := by
  induction path generalizing root with
  | nil => rfl
  | cons i path ih =>
    rw [List.cons_append, Scope.at?, Scope.at?]
    cases root.children[i]?.bind Node.scope? with
    | none => rfl
    | some s => exact ih s

theorem Property.renderAll_append (indent unit : Text) (xs ys : List Property) :
    renderAll indent unit (xs ++ ys) = renderAll indent unit xs ++ renderAll indent unit ys := by
  induction xs with
  | nil => rfl
  | cons x xs ih => simp [renderAll, ih]

/-- The first and the last line of nested blocks are those of the outermost one. -/
theorem Property.join_renderAll_nest (eol unit indent n : Text) (ns : List Text)
    (ps : List Property) : Text.join eol (renderAll indent unit (nest (n :: ns) ps)) =
      blockHead eol indent n ++ (Plan.unlines eol (renderAll (indent ++ unit) unit (nest ns ps)) ++
        (indent ++ ['}'])) := by
  have hone : renderAll indent unit (nest (n :: ns) ps) =
      (block n (nest ns ps)).render indent unit := by
    simp [nest, renderAll]
  rw [hone, join_render_block, blockFront]
  simp

private theorem Property.exists_allNodes_nest {n : Text} {ns : List Text}
    (hns : ∀ m ∈ n :: ns, m.IsDotted) {ps : List Property} (hps : AllWellFormed ps)
    (eol unit : Text) (p : Nat) (indent : Text) :
    ∃ name stop header, allNodes eol unit p indent (nest (n :: ns) ps) =
      [.block name ⟨p + Text.size indent, stop⟩ header ⟨p + Text.size indent + Text.size n + 1,
        p + Text.size (blockHead eol indent n ++
          (Plan.unlines eol (renderAll (indent ++ unit) unit (nest ns ps)) ++ indent))⟩
        (allNodes eol unit (p + Text.size (blockHead eol indent n)) (indent ++ unit)
          (nest ns ps))] := by
  obtain ⟨name, stop, header, -, hnodes⟩ :=
    nodes_block (wellFormed_nest hns hps).1 eol unit p indent
  refine ⟨name, stop, header, ?_⟩
  rw [nest, allNodes, hnodes]
  rfl

namespace Plan

/-- The closing brace of a block begins a line, right below the lines of items. -/
structure Settled (out : Text) (s : Scope) (unit eol lead inner close tail : Text)
    (items : List Property) : Prop where
  text : out = lead ++ (unlines eol (Property.renderAll inner unit items) ++ (close ++ '}' :: tail))
  lastLine : Text.lastLine lead = []
  isIndent_inner : ∀ c ∈ inner, Text.isIndent c = true
  isIndent_close : ∀ c ∈ close, Text.isIndent c = true
  braces : ∃ opening < Text.size lead, s.braces = some ⟨opening,
    Text.size (lead ++ (unlines eol (Property.renderAll inner unit items) ++ close))⟩
  children : ∃ old, s.children = old ++ Property.allNodes eol unit (Text.size lead) inner items

section Settled

variable {out : Text} {s : Scope} {unit eol lead inner close tail : Text} {items : List Property}
  (h : Settled out s unit eol lead inner close tail items) (heol : IsLineEnd eol)
  (hunit : ∀ c ∈ unit, Text.isIndent c = true) (hitems : items ≠ [])
  (hwf : Property.AllWellFormed items) (hlines : Property.AllUnbroken items)

include h heol hunit hitems hwf hlines

theorem Settled.lined :
    Sketch.Lined unit inner
        (Node.sketches out.margin (Property.allNodes eol unit (Text.size lead) inner items)) ∧
      indents (Node.sketches out.margin
        (Property.allNodes eol unit (Text.size lead) inner items)) ≠ [] := by
  have hmarks := Text.marks_margin h.lastLine
    (Text.join eol (Property.renderAll inner unit items)) (eol ++ (close ++ '}' :: tail))
  have htext : lead ++ (Text.join eol (Property.renderAll inner unit items) ++
      (eol ++ (close ++ '}' :: tail))) = out := by
    rw [h.text, unlines_eq eol (Property.renderAll_ne_nil hitems inner unit)]
    simp
  rw [htext] at hmarks
  obtain ⟨hlined, hne⟩ := Property.lined_renderAll heol hunit items hwf hlines _ inner
    h.isIndent_inner hmarks
  exact ⟨hlined, hne hitems⟩

private theorem Settled.innerIndent_eq (other : Text) : innerIndent out s other = inner := by
  obtain ⟨hlined, hne⟩ := h.lined heol hunit hitems hwf hlines
  obtain ⟨old, hchildren⟩ := h.children
  rw [innerIndent, childIndents_eq, hchildren, Node.sketches_append, Sketch.indents_append,
    List.getLast?_append_of_ne_nil _ hne]
  cases hlast : (indents (Node.sketches out.margin
      (Property.allNodes eol unit (Text.size lead) inner items))).getLast? with
  | none => exact absurd (List.getLast?_eq_none_iff.mp hlast) hne
  | some i => exact hlined.indent i (List.mem_of_getLast? hlast)

/-- Further lines go right below the lines that are there. -/
theorem Settled.apply_place (ys : List Property) (unit' eol' : Text) (hash : Text → UInt64) :
    Edit.apply out [(place out s ys unit' eol' hash).1] hash =
      .ok (lead ++ (unlines eol (Property.renderAll inner unit items) ++
        (unlines eol' (Property.renderAll inner unit' ys) ++ (close ++ '}' :: tail)))) := by
  obtain ⟨opening, hopening, hbraces⟩ := h.braces
  obtain ⟨front, hfront⟩ : ∃ front, lead ++ unlines eol (Property.renderAll inner unit items) =
      front ++ ['\n'] ∧ Text.size lead ≤ Text.size front := by
    rw [unlines_eq eol (Property.renderAll_ne_nil hitems inner unit)]
    obtain ⟨e, rfl⟩ : ∃ e, eol = e ++ ['\n'] := by
      obtain rfl | rfl := heol
      · exact ⟨[], rfl⟩
      · exact ⟨['\r'], rfl⟩
    refine ⟨lead ++ (Text.join (e ++ ['\n']) (Property.renderAll inner unit items) ++ e),
      by simp, ?_⟩
    rw [Text.size_append]
    exact Nat.le_add_right _ _
  have htext : out = front ++ '\n' :: (close ++ '}' :: tail) := by
    rw [h.text, ← List.append_assoc, hfront.1]
    simp
  have hclosing : Text.size (front ++ '\n' :: close) =
      Text.size (lead ++ (unlines eol (Property.renderAll inner unit items) ++ close)) := by
    rw [← List.append_assoc, hfront.1]
    simp
  have hne : s.children.isEmpty = false := by
    obtain ⟨-, hnone⟩ := h.lined heol hunit hitems hwf hlines
    obtain ⟨old, hchildren⟩ := h.children
    rw [hchildren, List.isEmpty_eq_false_iff]
    intro hnil
    rw [(List.append_eq_nil_iff.mp hnil).2] at hnone
    exact hnone rfl
  have hinline : ¬ s.isEmptyInline out = true := by
    simp [Scope.isEmptyInline, hbraces, hne]
  simp only [place, hbraces, if_neg hinline]
  rw [apply_appendBeforeClose_line s htext h.isIndent_close hclosing (by simp only; omega),
    h.innerIndent_eq heol hunit hitems hwf hlines, ← List.singleton_append, ← List.append_assoc,
    ← hfront.1]
  simp

end Settled

/-! ## Blocks made for lines -/

/-- The lines of blocks that are nested along names: what is inside the innermost block stands
between `lead` and its closing brace, and the block begins behind `head` and its indentation. -/
structure Nested (eol unit indent : Text) (ns : List Text) (head lead close tail : Text) :
    Prop where
  lastLine_head : Text.lastLine head = []
  lastLine : Text.lastLine lead = []
  isIndent : ∀ c ∈ close, Text.isIndent c = true
  start : ∃ c r, lead = head ++ (close ++ c :: r) ∧ Text.isIndent c = false
  text : ∀ ps : List Property,
    Text.join eol (Property.renderAll indent unit (Property.nest ns ps)) =
      lead ++ (unlines eol (Property.renderAll (close ++ unit) unit ps) ++ (close ++ '}' :: tail))
  scope : ∀ (p : Nat) (ps : List Property) (root : Scope), Property.AllWellFormed ps →
    root.children = Property.allNodes eol unit p indent (Property.nest ns ps) →
    ∃ s, root.at? (spine 0 ns) = some s ∧ s.span.start = p + Text.size (head ++ close) ∧
      (∃ opening < p + Text.size lead, s.braces = some ⟨opening, p + Text.size (lead ++
        (unlines eol (Property.renderAll (close ++ unit) unit ps) ++ close))⟩) ∧
      s.children = Property.allNodes eol unit (p + Text.size lead) (close ++ unit) ps

theorem exists_nested {eol unit : Text} (heol : IsLineEnd eol)
    (hunit : ∀ c ∈ unit, Text.isIndent c = true) (n : Text) (ns : List Text)
    (hns : ∀ m ∈ n :: ns, m.IsDotted) {indent : Text}
    (hindent : ∀ c ∈ indent, Text.isIndent c = true) :
    ∃ head lead close tail, Nested eol unit indent (n :: ns) head lead close tail := by
  induction ns generalizing n indent with
  | nil =>
    have hempty : Property.AllWellFormed [] := trivial
    obtain ⟨c, r, hn, hc⟩ := Property.head?_of_wellFormed (Property.wellFormed_nest hns hempty).1
    refine ⟨[], Property.blockHead eol indent n, indent, [], rfl,
      Property.lastLine_blockHead heol indent n, hindent,
      ⟨c, r ++ ([' ', '{'] ++ eol), by simp [Property.blockHead, hn], hc⟩, fun ps => ?_,
      fun p ps root hps hroot => ?_⟩
    · rw [Property.join_renderAll_nest]
      simp [Property.nest]
    · obtain ⟨name, stop, header, hnodes⟩ :=
        Property.exists_allNodes_nest hns hps eol unit p indent
      rw [hnodes] at hroot
      refine ⟨_, by rw [spine, spine, Scope.at?, hroot]; rfl, by simp, ⟨_, ?_, rfl⟩, rfl⟩
      have hmarks : Text.size [' ', '{'] = 2 := rfl
      simp only [Property.blockHead, Text.size_append, hmarks]
      omega
  | cons m ms ih =>
    obtain ⟨head, lead, close, tail, hnested⟩ := ih m (fun k hk => hns k (by simp [hk]))
      (isIndent_append hindent hunit)
    have hfirst := Property.lastLine_blockHead heol indent n
    refine ⟨Property.blockHead eol indent n ++ head, Property.blockHead eol indent n ++ lead, close,
      tail ++ (eol ++ (indent ++ ['}'])), ?_, ?_, hnested.isIndent, ?_, fun ps => ?_,
      fun p ps root hps hroot => ?_⟩
    · rw [Text.lastLine_append hfirst, hnested.lastLine_head]
    · rw [Text.lastLine_append hfirst, hnested.lastLine]
    · obtain ⟨c, r, hlead, hc⟩ := hnested.start
      exact ⟨c, r, by simp [hlead], hc⟩
    · have hne : Property.nest (m :: ms) ps ≠ [] := by simp [Property.nest]
      rw [Property.join_renderAll_nest, unlines_eq eol (Property.renderAll_ne_nil hne _ _),
        hnested.text]
      simp
    · obtain ⟨name, stop, header, hnodes⟩ :=
        Property.exists_allNodes_nest hns hps eol unit p indent
      rw [hnodes] at hroot
      obtain ⟨s, hs, hstart, ⟨opening, hopening, hbraces⟩, hchildren⟩ := hnested.scope
        (p + Text.size (Property.blockHead eol indent n)) ps ⟨name, _, some _, _⟩ hps rfl
      refine ⟨s, ?_, ?_, ⟨opening, ?_, ?_⟩, ?_⟩
      · rw [spine, Scope.at?, hroot]
        exact hs
      · simp [hstart, Nat.add_assoc]
      · rw [Text.size_append]
        omega
      · simp [hbraces, Nat.add_assoc]
      · rw [hchildren, Text.size_append, Nat.add_assoc]

theorem settled_of_nested {d : Document} {s : Scope} {path : List Nat}
    (hpath : d.root.at? path = some s) {unit eol before after inner : Text}
    (hhost : Host d s path unit eol before after inner) (heol : IsLineEnd eol)
    (hunit : ∀ c ∈ unit, Text.isIndent c = true) {n : Text} {ns : List Text}
    (hns : ∀ m ∈ n :: ns, m.IsDotted) {head lead close tail : Text}
    (hnested : Nested eol unit inner (n :: ns) head lead close tail) {items : List Property}
    (hwf : Property.AllWellFormed items) :
    ∃ d' t, Document.parse (filled before after eol inner unit (Property.nest (n :: ns) items)) =
        .ok d' ∧
      Node.shapes d'.nodes = Shape.appendAt (Shape.wrap (n :: ns) (Property.allShapes items)) path
        (Node.shapes d.nodes) ∧
      d'.root.at? (path ++ spine s.children.length (n :: ns)) = some t ∧
      Settled d'.source t unit eol (before ++ lead) (close ++ unit) close (tail ++ after) items ∧
      t.children = Property.allNodes eol unit (Text.size (before ++ lead)) (close ++ unit) items ∧
      scopeIndent d'.source t = close := by
  have hlast := hhost.gate.lastLine heol
  have hall := Property.wellFormed_nest hns hwf
  obtain ⟨a, b, hparse⟩ := hhost.parse_eq _ hall
  generalize hout : filled before after eol inner unit (Property.nest (n :: ns) items) = out
    at hparse ⊢
  have htext : out = (before ++ lead) ++ (unlines eol (Property.renderAll (close ++ unit) unit
      items) ++ (close ++ '}' :: (tail ++ after))) := by
    rw [← hout, filled, hnested.text]
    simp
  have hshapes := Property.shapes_allNodes eol unit _ hall (Text.size before) inner
  generalize hnew : Property.allNodes eol unit (Text.size before) inner
    (Property.nest (n :: ns) items) = new at hparse hshapes
  have hroot : (Document.root ⟨out, Node.refill a b (s.children ++ new) path d.nodes⟩).children =
      Node.refill a b (s.children ++ new) path d.root.children := rfl
  obtain ⟨t', ht', hkids, -⟩ := Node.at?_refill hpath hroot
  obtain ⟨t, ht, hstart, ⟨opening, hopening, hbraces⟩, hchildren⟩ :=
    hnested.scope (Text.size before) items { t' with children := new } hwf hnew.symm
  have hblock : t.isDocument = false := by simp [Scope.isDocument, hbraces]
  refine ⟨_, t, hparse, ?_, ?_, ⟨htext, ?_, isIndent_append hnested.isIndent hunit,
    hnested.isIndent, ⟨opening, ?_, ?_⟩, [], ?_⟩, ?_, ?_⟩
  · rw [← Property.allShapes_nest hns, ← hshapes]
    exact Node.shapes_refill hpath new
  · rw [Scope.at?_append, ht', Option.bind_some, spine, Scope.at?, hkids,
      List.getElem?_append_right (Nat.le_refl _), Nat.sub_self]
    exact ht
  · rw [Text.lastLine_append hlast, hnested.lastLine]
  · rwa [Text.size_append]
  · simp [hbraces]
  · rw [hchildren, Text.size_append, List.nil_append]
  · rw [hchildren, Text.size_append]
  · obtain ⟨c, r, hlead, hc⟩ := hnested.start
    have hcut : out = (before ++ (head ++ close)) ++ c :: (r ++ (unlines eol (Property.renderAll
        (close ++ unit) unit items) ++ (close ++ '}' :: (tail ++ after)))) := by
      rw [htext, hlead]
      simp
    have hmargin := Text.margin_append (before ++ (head ++ close)) hc (r ++ (unlines eol
      (Property.renderAll (close ++ unit) unit items) ++ (close ++ '}' :: (tail ++ after))))
    rw [← hcut, Text.size_append, ← hstart, Text.lastLine_append hlast,
      Text.lastLine_append hnested.lastLine_head, Text.lastLine_of_isIndent hnested.isIndent,
      Margin.ofHead_of_isIndent hnested.isIndent] at hmargin
    rw [scopeIndent, if_neg (by simp [hblock])]
    exact congrArg Margin.indent hmargin

/-! ## Blocks that were there -/

private theorem Slot.exists_common {eol head front first : Text} (h : Slot eol head front first) :
    ∃ u gap r, head = u ++ gap ∧ (∀ c ∈ gap, isGap c = true) ∧ front ++ first = u ++ r := by
  cases h with
  | @gap gap _ hhead hgap => exact ⟨front, gap, first, hhead, hgap, rfl⟩
  | @line gap hfirst hhead hgap =>
    exact ⟨front ++ ['\n'], gap, [], by simp [hhead], hgap, by simp [hfirst]⟩

section Cut

variable {d : Document} {s : Scope} {path : List Nat} {b : Body} {xs : List Token} {o : Token}
  {inside : Body} {c : Token} {rear : List Token} {L M : List Lexeme}
  (hcut : Cut d s path b xs o inside c rear L M) {eol front first : Text}
  (hslot : Slot eol (texts L) front first)

include hcut hslot

private theorem Cut.exists_before {t : Token} (ht : t ∈ xs ++ o :: inside.tokens) :
    ∃ a x v r, front ++ first = a ++ x :: v ∧ d.source = a ++ x :: r ∧ t.start = Text.size a ∧
      Text.isIndent x = false := by
  rw [← hcut.significant_before] at ht
  obtain ⟨a, x, r, htexts, hstart, hx⟩ := hcut.before.exists_solid ht
  obtain ⟨u, gap, k, hhead, hgap, hfirst⟩ := hslot.exists_common
  obtain ⟨v, hu⟩ : ∃ v, u = a ++ x :: v := by
    obtain ⟨v, hu, hv⟩ | ⟨v, -, hv⟩ := List.append_eq_append_iff.mp (htexts.symm.trans hhead)
    · cases v with
      | nil =>
        rw [hgap x (by simp [← show x :: r = gap from hv])] at hx
        cases hx
      | cons y v =>
        obtain ⟨rfl, -⟩ := List.cons.inj hv
        exact ⟨v, hu⟩
    · rw [hgap x (by simp [hv])] at hx
      cases hx
  exact ⟨a, x, v ++ k, r ++ '}' :: texts M, by simp [hfirst, hu], by simp [hcut.source, htexts],
    hstart, Text.isIndent_eq_false hx⟩

private theorem Cut.opening_lt : o.start < Text.size (front ++ first) := by
  obtain ⟨a, x, v, -, hfirst, -, hstart, -⟩ := hcut.exists_before hslot (t := o) (by simp)
  have := x.utf8Size_pos
  rw [hstart, hfirst, Text.size_append, Text.size_cons]
  omega

private theorem Cut.margin_eq (rest : Text) :
    ∀ t ∈ xs ++ o :: inside.tokens,
      Text.margin (front ++ first ++ rest) t.start = d.source.margin t.start := by
  intro t ht
  obtain ⟨a, x, v, r, hfirst, hsource, hstart, hx⟩ := hcut.exists_before hslot ht
  rw [hfirst, List.append_assoc, List.cons_append, hsource, hstart, Text.margin_append a hx,
    Text.margin_append a hx]

private theorem Cut.margin_start (rest : Text) :
    Text.margin (front ++ first ++ rest) s.span.start = d.source.margin s.span.start := by
  obtain ⟨t, ht, hstart⟩ := hcut.start
  rw [← hstart, hcut.margin_eq hslot rest t (by simp [ht])]

private theorem Cut.sketches_children (rest : Text) :
    Node.sketches (Text.margin (front ++ first ++ rest)) s.children =
      Node.sketches d.source.margin s.children := by
  rw [hcut.children]
  exact Body.sketches_congr fun t ht => hcut.margin_eq hslot rest t (by simp [ht])

private theorem Cut.sketches_refill {y rest : Text} (hout : front ++ first ++ rest = y ++ '}' ::
    texts M) (hbelow : ∀ n ∈ Node.families d.nodes, c.start < n.span.start →
      '\n' ∈ d.source.slice c.start n.span.start) (new : List Node) :
    Node.sketches (Text.margin (front ++ first ++ rest))
        (Node.refill c.start (Text.size y) (s.children ++ new) path d.nodes) =
      Sketch.appendAt (Node.sketches (Text.margin (front ++ first ++ rest)) new) path
        (Node.sketches d.source.margin d.nodes) := by
  rw [hcut.children, ← hcut.nodes]
  refine hcut.opens.sketches _ _ _ _ _ (fun t ht => hcut.margin_eq hslot rest t ?_) ?_
  · simp only [List.mem_append] at ht
    obtain ht | ht := ht <;> simp [ht]
  · rintro m hm ⟨t, ht, hstart⟩
    rw [← hcut.significant_after] at ht
    obtain ⟨w, x, r, htexts, hoffset, hx⟩ := Lexeme.exists_solid hcut.after.2 ht
    have hbrace : c.stop = c.start + 1 := by
      rw [Token.stop, Lexeme.toLexeme_of_isSymbol hcut.opens.braced.2]
      rfl
    have hone : ('}').utf8Size = 1 := rfl
    rw [hcut.nodes] at hm
    have hmem := hbelow m hm (by omega)
    have hsource : d.source = texts L ++ (('}' :: w) ++ x :: r) := by
      rw [hcut.source, htexts]
      simp
    have hstop : m.span.start = Text.size (texts L) + Text.size ('}' :: w) := by
      rw [hcut.closing, Text.size_cons]
      omega
    rw [hsource, ← hcut.closing, hstop, Text.slice_append] at hmem
    have hindent := Text.isIndent_eq_false hx
    have hmargin (z : Text) : Text.margin (z ++ (('}' :: w) ++ x :: r))
        (Text.size (z ++ '}' :: w)) = .ofHead (Text.lastLine ('}' :: w)) := by
      rw [← List.append_assoc, Text.margin_append _ hindent, Text.lastLine_append_of_mem hmem]
    have hafter : m.span.start - c.start + Text.size y = Text.size (y ++ '}' :: w) := by
      rw [hstop, hcut.closing, Text.size_append]
      omega
    rw [hout, htexts, hafter]
    rw [hsource, hstop, ← Text.size_append, hmargin]
    exact hmargin y

end Cut

theorem settled_of_cut {d : Document} {s : Scope} {i : Nat} {path : List Nat}
    (hpath : d.root.at? (i :: path) = some s) {b : Body} {xs : List Token} {o : Token}
    {inside : Body} {c : Token} {rear : List Token} {L M : List Lexeme}
    (hcut : Cut d s (i :: path) b xs o inside c rear L M) {eol front first : Text}
    (hslot : Slot eol (texts L) front first) (heol : IsLineEnd eol) {unit inner indent : Text}
    (hunit : ∀ c ∈ unit, Text.isIndent c = true) (hinner : ∀ c ∈ inner, Text.isIndent c = true)
    (hindent : ∀ c ∈ indent, Text.isIndent c = true) {items : List Property} (hitems : items ≠ [])
    (hwf : Property.AllWellFormed items) :
    let new := Property.allNodes eol unit (Text.size (front ++ first)) inner items
    ∃ d' t, Document.parse (filled (front ++ first) (eol ++ (indent ++ '}' :: texts M)) eol inner
        unit items) = .ok d' ∧
      Node.shapes d'.nodes =
        Shape.appendAt (Property.allShapes items) (i :: path) (Node.shapes d.nodes) ∧
      d'.root.at? (i :: path) = some t ∧
      Settled d'.source t unit eol (front ++ first) inner indent (texts M) items ∧
      scopeIndent d'.source t = scopeIndent d.source s ∧
      Node.sketches d'.source.margin t.children =
        Node.sketches d.source.margin s.children ++ Node.sketches d'.source.margin new ∧
      ((∀ n ∈ Node.families d.nodes, c.start < n.span.start →
          '\n' ∈ d.source.slice c.start n.span.start) →
        Node.sketches d'.source.margin d'.nodes = Sketch.appendAt
          (Node.sketches d'.source.margin new) (i :: path)
          (Node.sketches d.source.margin d.nodes)) := by
  intro new
  have hparse := parse_filled hwf hunit heol hcut hslot hinner hindent
  generalize hq : Text.size (filled (front ++ first) (eol ++ indent) eol inner unit items) = q
    at hparse
  have hroot : (Document.root ⟨filled (front ++ first) (eol ++ (indent ++ '}' :: texts M)) eol inner
      unit items, Node.refill c.start q (s.children ++ new) (i :: path) d.nodes⟩).children =
      Node.refill c.start q (s.children ++ new) (i :: path) d.root.children := rfl
  obtain ⟨t, ht, hchildren, hsame⟩ := Node.at?_refill hpath hroot
  obtain ⟨hstart, hbraces⟩ := hsame (by simp)
  rw [hcut.braces, Option.map_some, Nat.sub_self, Nat.zero_add, ← hq, filled] at hbraces
  have hunlines := unlines_eq eol (Property.renderAll_ne_nil hitems inner unit)
  have hfilled : filled (front ++ first) (eol ++ (indent ++ '}' :: texts M)) eol inner unit items =
      front ++ first ++ (unlines eol (Property.renderAll inner unit items) ++
        (indent ++ '}' :: texts M)) := by
    rw [filled, hunlines]
    simp
  refine ⟨_, t, hparse, ?_, ht, ⟨hfilled, (hslot.isLineEnd heol).lastLine_append front, hinner,
    hindent, ⟨o.start, hcut.opening_lt hslot, ?_⟩, s.children, hchildren⟩, ?_, ?_, fun hbelow => ?_⟩
  · rw [← Property.shapes_allNodes eol unit items hwf]
    exact Node.shapes_refill hpath _
  · rw [hbraces, hunlines]
    simp
  · have hdocument : t.isDocument = false ∧ s.isDocument = false := by
      simp [Scope.isDocument, hbraces, hcut.braces]
    simp only [scopeIndent, hdocument, hstart, hfilled]
    exact congrArg Margin.indent (hcut.margin_start hslot _)
  · rw [hchildren, Node.sketches_append, hfilled, hcut.sketches_children hslot]
  · rw [← hq]
    simp only [hfilled]
    refine hcut.sketches_refill hslot ?_ hbelow new
    rw [filled, hunlines]
    simp

/-- Settled blocks show the unit that their lines were rendered with. -/
theorem Settled.unit_of_nested {d : Document} {s : Scope} {unit eol lead close tail : Text}
    {items : List Property}
    (h : Settled d.source s unit eol lead (close ++ unit) close tail items) (heol : IsLineEnd eol)
    (hunit : ∀ c ∈ unit, Text.isIndent c = true) (hne : unit ≠ []) (hitems : items ≠ [])
    (hwf : Property.AllWellFormed items) (hlines : Property.AllUnbroken items)
    (hchildren : s.children =
      Property.allNodes eol unit (Text.size lead) (close ++ unit) items)
    (hindent : scopeIndent d.source s = close) (fallback : Text) :
    Plan.unit d s fallback = unit := by
  obtain ⟨hlined, hsome⟩ := h.lined heol hunit hitems hwf hlines
  rw [unit_eq, hchildren, hindent, Sketch.added?_deeper hne hsome hlined.indent]
  rfl

end Plan
end Graft
