import Graft.Proofs.Margin

/-!
# Margins of rendered lines

The lines that properties are rendered to have the indentation they were given, and what is in a
block is one unit deeper than the block. A line of text has no line end inside, so that only its
first node begins it.
-/
namespace Graft

open Lexeme (IsLineEnd isGap)
open Grammar (Body)
open Plan (unlines)
open Sketch (indents)

/-! ## Nodes on one line -/

namespace Node

private theorem mem_families {c : Node} {ns : List Node} (h : c ∈ ns) : c ∈ families ns := by
  induction ns with
  | nil => cases h
  | cons n ns ih =>
    rw [families, List.mem_append]
    obtain rfl | h := List.mem_cons.mp h
    · exact .inl (by cases c <;> simp [family])
    · exact .inr (ih h)

mutual

private theorem mem_family_of_scopes {s : Scope} {c : Node} :
    (n : Node) → s ∈ n.scopes → c ∈ s.children → c ∈ n.family
  | statement .., hs, _ => by cases hs
  | block n span header b cs, hs, hc => by
    rw [family]
    obtain rfl | hs := List.mem_cons.mp hs
    · exact List.mem_cons_of_mem _ (mem_families hc)
    · exact List.mem_cons_of_mem _ (mem_families_of_scopesOf cs hs hc)

private theorem mem_families_of_scopesOf {s : Scope} {c : Node} :
    (ns : List Node) → s ∈ scopesOf ns → c ∈ s.children → c ∈ families ns
  | [], hs, _ => by cases hs
  | n :: ns, hs, hc => by
    rw [families, List.mem_append]
    rw [scopesOf, List.mem_append] at hs
    obtain hs | hs := hs
    · exact .inl (mem_family_of_scopes n hs hc)
    · exact .inr (mem_families_of_scopesOf ns hs hc)

end

mutual

private theorem regular_of_quiet {g : Nat → Margin} (unit : Text) : (n : Node) →
    (∀ s ∈ n.scopes, ∀ c ∈ s.children, (g c.span.start).begins = false) →
    (n.sketch g).Regular unit
  | statement .., _ => trivial
  | block n span header b cs, h => by
    refine ⟨fun i hi => ?_, allRegular_of_quiet unit cs fun s hs => h s (by simp [scopes, hs])⟩
    have hnone : indents (sketches g cs) = [] := by
      rw [indents, sketches_eq_map, List.map_eq_nil_iff, List.filter_eq_nil_iff]
      intro v hv
      obtain ⟨c, hc, rfl⟩ := List.mem_map.mp hv
      simp [label_sketch, h _ (by rw [scopes]; exact List.mem_cons_self) c hc]
    simp [hnone] at hi

private theorem allRegular_of_quiet {g : Nat → Margin} (unit : Text) : (ns : List Node) →
    (∀ s ∈ scopesOf ns, ∀ c ∈ s.children, (g c.span.start).begins = false) →
    Sketch.AllRegular unit (sketches g ns)
  | [], _ => trivial
  | n :: ns, h => ⟨regular_of_quiet unit n fun s hs => h s (by simp [scopesOf, hs]),
      allRegular_of_quiet unit ns fun s hs => h s (by simp [scopesOf, hs])⟩

end

end Node

namespace Grammar

private theorem Layout.le_start {p q : Nat} {ts : List Token} {ns : List Node}
    (h : Layout p ts q ns) : ∀ m ∈ Node.families ns, p ≤ m.span.start := by
  induction h with
  | nil _ _ => simp [Node.families]
  | @statement p front m name k args e rest q ns hf _ hn _ ha _ ih =>
    have hle := hf.le
    have hle' := hn.le
    have hle'' := ha.le
    intro n hmem
    simp only [Node.families, Node.family, List.cons_append, List.nil_append, List.mem_cons] at hmem
    obtain rfl | hmem := hmem
    · exact hle
    · have := ih n hmem
      omega
  | @block p front m name k header o inside c rest q cs ns hf _ hn _ hh ho hc hi _ ihi ihr =>
    have hle := hf.le
    have hle' := hn.le
    have hle'' := hh.le
    have hopen := Token.stop_of_isSymbol (by decide) ho
    have hclose := Token.stop_of_isSymbol (by decide) hc
    have hbody := hi.tiles.le
    intro n hmem
    simp only [Node.families, Node.family, List.cons_append, List.mem_cons, List.mem_append] at hmem
    obtain rfl | hmem | hmem := hmem
    · exact hle
    · have := ihi n hmem
      omega
    · have := ihr n hmem
      omega

private theorem Layout.lt_start {p q : Nat} {ts : List Token} {ns : List Node}
    (h : Layout p ts q ns) : ∀ s ∈ Node.scopesOf ns, ∀ c ∈ s.children, p < c.span.start := by
  induction h with
  | nil _ _ => simp [Node.scopesOf]
  | @statement p front m name k args e rest q ns hf _ hn _ ha _ ih =>
    have hle := hf.le
    have hle' := hn.le
    have hle'' := ha.le
    intro s hs c hc
    have := ih s (by simpa [Node.scopesOf, Node.scopes] using hs) c hc
    omega
  | @block p front m name k header o inside c rest q cs ns hf _ hn _ hh ho hc hi _ ihi ihr =>
    have hle := hf.le
    have hle' := hn.le
    have hle'' := hh.le
    have hopen := Token.stop_of_isSymbol (by decide) ho
    have hclose := Token.stop_of_isSymbol (by decide) hc
    have hbody := hi.tiles.le
    intro s hs n hn'
    have hinside : o.stop ≤ n.span.start → p < n.span.start := fun h => by omega
    simp only [Node.scopesOf, Node.scopes, List.cons_append, List.mem_cons, List.mem_append] at hs
    obtain rfl | hs | hs := hs
    · exact hinside (hi.le_start n (Node.mem_families hn'))
    · exact hinside (Nat.le_of_lt (ihi s hs n hn'))
    · have := ihr s hs n hn'
      omega

end Grammar

/-! ## Rendered lines -/

namespace Property

mutual

/-- There are no line ends in names and values. -/
def Unbroken : Property → Prop
  | line n value _ => ∀ c ∈ n ++ value, c ≠ '\n' ∧ c ≠ '\r'
  | block n children => (∀ c ∈ n, c ≠ '\n' ∧ c ≠ '\r') ∧ AllUnbroken children

def AllUnbroken : List Property → Prop
  | [] => True
  | p :: ps => p.Unbroken ∧ AllUnbroken ps

end

theorem Unbroken.lineText {n value : Text} {form : Form} (h : (line n value form).Unbroken) :
    ∀ c ∈ lineText n value form, c ≠ '\n' ∧ c ≠ '\r' := by
  have hn : ∀ c ∈ n, c ≠ '\n' ∧ c ≠ '\r' := fun c hc => h c (List.mem_append_left value hc)
  have hvalue : ∀ c ∈ value, c ≠ '\n' ∧ c ≠ '\r' := fun c hc => h c (List.mem_append_right n hc)
  intro c hc
  cases form with
  | statement =>
    rw [Property.lineText] at hc
    split at hc
    · exact hn c hc
    · obtain hc | hc := List.mem_append.mp hc
      · exact hn c hc
      · obtain rfl | hc := List.mem_cons.mp hc
        · decide
        · exact hvalue c hc
  | property =>
    rw [Property.lineText] at hc
    obtain hc | hc := List.mem_append.mp hc
    · exact hn c hc
    · obtain rfl | rfl | hc : c = ':' ∨ c = ' ' ∨ c ∈ value := by simpa using hc
      · decide
      · decide
      · exact hvalue c hc

end Property

/-- The nodes keep to the unit, and those that begin a line have this indentation. -/
structure Sketch.Lined (unit indent : Text) (vs : List (Sketch Margin)) : Prop where
  regular : AllRegular unit vs
  indent : ∀ i ∈ indents vs, i = indent

private theorem Margin.ofHead_append {indent a : Text}
    (hindent : ∀ c ∈ indent, Text.isIndent c = true) {c : Char} (hc : Text.isIndent c = false) :
    ofHead (indent ++ c :: a) = ⟨false, indent⟩ := by
  have htake : (indent ++ c :: a).takeWhile Text.isIndent = indent := by
    rw [List.takeWhile_append_of_pos hindent, List.takeWhile_cons_of_neg (by simp [hc]),
      List.append_nil]
  rw [ofHead, htake]
  simp [hc]

theorem Text.isIndent_eq_false {c : Char} (h : isGap c = false) : isIndent c = false := by
  rw [Bool.eq_false_iff] at h ⊢
  exact fun hc => h (Plan.isGap_of_isIndent hc)

/-- In a line that does not begin with a gap, only what stands first begins it. -/
theorem Text.Marks.line {g : Nat → Margin} {p : Nat} {indent t : Text}
    (h : Marks g p (indent ++ t)) (hindent : ∀ c ∈ indent, isIndent c = true)
    (hline : ∀ c ∈ t, c ≠ '\n') (hhead : ∀ c ∈ t.head?, isIndent c = false) {a : Text} {c : Char}
    {r : Text} (hcut : t = a ++ c :: r) (hc : isIndent c = false) :
    g (p + size indent + size a) = ⟨decide (size a = 0), indent⟩ := by
  have hnone : ∀ x ∈ indent ++ a, x ≠ '\n' := by
    intro x hx
    obtain hx | hx := List.mem_append.mp hx
    · rintro rfl
      exact absurd (hindent _ hx) (by decide)
    · exact hline x (by simp [hcut, hx])
  have hoffset : p + size indent + size a = p + size (indent ++ a) := by
    rw [size_append, Nat.add_assoc]
  rw [hoffset, h (indent ++ a) c r (by simp [hcut]) hc, lastLine_of_all hnone]
  cases a with
  | nil =>
    rw [List.append_nil, Margin.ofHead_of_isIndent hindent]
    rfl
  | cons x a =>
    have hlt := x.utf8Size_pos
    rw [Margin.ofHead_append hindent (hhead x (by simp [hcut])), size_cons, decide_eq_false]
    omega

namespace Property

variable {g : Nat → Margin} {eol unit : Text}

private theorem lined_line {n value : Text} {form : Form} (hwf : (line n value form).WellFormed)
    (hlines : (line n value form).Unbroken) {p : Nat} {indent : Text}
    (hindent : ∀ c ∈ indent, Text.isIndent c = true)
    (hmarks : Text.Marks g p (indent ++ lineText n value form)) :
    Sketch.Lined unit indent (Node.sketches g ((line n value form).nodes eol unit p indent)) ∧
      indents (Node.sketches g ((line n value form).nodes eol unit p indent)) ≠ [] := by
  obtain ⟨d, node, rest, hparse, hnodes, hstart⟩ := hwf
  obtain ⟨ls, b, htexts, hstand, htokens, hb, hbnodes, hhead⟩ :=
    reads_of_parse hparse hnodes hstart (p + Text.size indent)
  have hsame : (line n value form).nodes eol unit p indent = b.nodes := by
    rw [nodes, hparse, hbnodes]
  rw [← lineText_eq_written] at htexts hhead
  have hmargin {t : Token} (ht : t ∈ b.tokens) : g t.start =
      ⟨decide (t.start = p + Text.size indent), indent⟩ := by
    rw [htokens] at ht
    obtain ⟨a, c, r, hcut, hat, hc⟩ := Lexeme.exists_solid hstand ht
    rw [htexts] at hcut
    rw [hat, hmarks.line hindent (fun x hx => (hlines.lineText x hx).1)
      (fun x hx => Text.isIndent_eq_false (by simp [isGap, hhead x hx])) hcut
      (Text.isIndent_eq_false hc)]
    simp
  have hfamily {m : Node} (hm : m ∈ Node.families b.nodes) : g m.span.start =
      ⟨decide (m.span.start = p + Text.size indent), indent⟩ := by
    obtain ⟨t, ht, hstart⟩ := Body.exists_start hm
    rw [← hstart, hmargin ht]
  have hlayout := Grammar.layout_of_valid hb
    (Token.tiles_place hstand.text_ne_nil (p + Text.size indent)) htokens.symm
  have hquiet : ∀ s ∈ Node.scopesOf b.nodes, ∀ c ∈ s.children,
      (g c.span.start).begins = false := by
    intro s hs c hc
    have hlt := hlayout.lt_start s hs c hc
    rw [hfamily (Node.mem_families_of_scopesOf _ hs hc), decide_eq_false]
    omega
  rw [hsame]
  refine ⟨⟨Node.allRegular_of_quiet unit b.nodes hquiet, ?_⟩, ?_⟩
  · intro i hi
    obtain ⟨v, hv, rfl⟩ := List.mem_map.mp hi
    rw [Node.sketches_eq_map] at hv
    obtain ⟨m, hm, rfl⟩ := List.mem_map.mp (List.mem_of_mem_filter hv)
    rw [Node.label_sketch, hfamily (Node.mem_families hm)]
  · have hfirst : b.nodes = node.move 0 (p + Text.size indent) ::
        Node.moveAll 0 (p + Text.size indent) rest := by
      rw [hbnodes, hnodes]
      rfl
    have hlabel := hfamily (m := node.move 0 (p + Text.size indent))
      (Node.mem_families (by simp [hfirst]))
    have hbegin : (node.move 0 (p + Text.size indent)).span.start = p + Text.size indent := by
      cases node <;> simpa [Node.move, Node.span] using hstart
    rw [hfirst, indents, Node.sketches, List.filter_cons_of_pos]
    · simp
    · rw [Node.label_sketch, hlabel, hbegin]
      simp

theorem head?_of_wellFormed {n : Text} {children : List Property}
    (h : (block n children).WellFormed) : ∃ c r, n = c :: r ∧ Text.isIndent c = false := by
  obtain ⟨⟨d, name, span, header, braces, inner, hparse, hnodes, hstart, -⟩, -⟩ := h
  obtain ⟨-, -, -, -, -, -, -, hhead⟩ := reads_of_parse hparse hnodes hstart 0
  cases n with
  | nil => exact absurd (hhead ' ' rfl) (by decide)
  | cons c r => exact ⟨c, r, rfl, Text.isIndent_eq_false (by simp [isGap, hhead c rfl])⟩

theorem lastLine_blockHead (heol : IsLineEnd eol) (indent n : Text) :
    Text.lastLine (blockHead eol indent n) = [] := by
  have hcut : blockHead eol indent n = (indent ++ (n ++ [' ', '{'])) ++ eol := by simp [blockHead]
  rw [hcut, heol.lastLine_append]

private theorem marks_children (heol : IsLineEnd eol) {p : Nat} {indent n : Text}
    {children : List Property}
    (h : Text.Marks g p (Text.join eol ((block n children).render indent unit))) :
    Text.Marks g (p + Text.size (blockHead eol indent n))
      (Text.join eol (renderAll (indent ++ unit) unit children)) := by
  rw [join_render_block, blockFront, List.append_assoc] at h
  have hinside := (h.right (lastLine_blockHead heol indent n)).left.left
  by_cases hnil : renderAll (indent ++ unit) unit children = []
  · rw [hnil]
    exact Text.marks_nil g _
  · rw [Plan.unlines_eq eol hnil] at hinside
    exact hinside.left

mutual

private theorem lined_render (heol : IsLineEnd eol) (hunit : ∀ c ∈ unit, Text.isIndent c = true) :
    (q : Property) → q.WellFormed → q.Unbroken → (p : Nat) → (indent : Text) →
    (∀ c ∈ indent, Text.isIndent c = true) →
    Text.Marks g p (Text.join eol (q.render indent unit)) →
    Sketch.Lined unit indent (Node.sketches g (q.nodes eol unit p indent)) ∧
      indents (Node.sketches g (q.nodes eol unit p indent)) ≠ []
  | .line _ _ _, hq, hlines, _, _, hindent, hmarks => lined_line hq hlines hindent hmarks
  | .block n children, hq, hlines, p, indent, hindent, hmarks => by
    obtain ⟨name, stop, header, -, hnodes⟩ := nodes_block hq eol unit p indent
    have hinside := lined_renderAll heol hunit children hq.2 hlines.2 _ _
      (Plan.isIndent_append hindent hunit) (marks_children heol hmarks)
    have hlabel : g (p + Text.size indent) = ⟨true, indent⟩ := by
      obtain ⟨c, r, hn, hc⟩ := head?_of_wellFormed hq
      rw [hmarks indent c (r ++ ([' ', '{'] ++ eol) ++ (unlines eol
        (renderAll (indent ++ unit) unit children) ++ indent) ++ ['}']) (by
          rw [join_render_block, blockFront, blockHead, hn]; simp) hc,
        Text.lastLine_of_isIndent hindent, Margin.ofHead_of_isIndent hindent]
    have hindents : indents (Node.sketches g ((block n children).nodes eol unit p indent)) =
        [indent] := by
      simp [hnodes, Node.sketches, Node.sketch, indents, Sketch.label, hlabel]
    refine ⟨⟨?_, ?_⟩, ?_⟩
    · rw [hnodes]
      refine ⟨⟨?_, hinside.1.regular⟩, trivial⟩
      intro i hi
      rw [hinside.1.indent i hi]
      change _ = (g (p + Text.size indent)).indent ++ unit
      rw [hlabel]
    · rw [hindents]
      exact fun i hi => List.mem_singleton.mp hi
    · simp [hindents]

/-- The nodes of rendered lines keep to the unit that the lines have been rendered with. -/
theorem lined_renderAll (heol : IsLineEnd eol) (hunit : ∀ c ∈ unit, Text.isIndent c = true) :
    (qs : List Property) → AllWellFormed qs → AllUnbroken qs → (p : Nat) → (indent : Text) →
    (∀ c ∈ indent, Text.isIndent c = true) →
    Text.Marks g p (Text.join eol (renderAll indent unit qs)) →
    Sketch.Lined unit indent (Node.sketches g (allNodes eol unit p indent qs)) ∧
      (qs ≠ [] → indents (Node.sketches g (allNodes eol unit p indent qs)) ≠ [])
  | [], _, _, _, _, _, _ => ⟨⟨trivial, by simp [allNodes, Node.sketches, indents]⟩, by simp⟩
  | q :: qs, hwf, hlines, p, indent, hindent, hmarks => by
    obtain ⟨hq, hqs⟩ : Text.Marks g p (Text.join eol (q.render indent unit)) ∧
        Text.Marks g (p + Text.size (unlines eol (q.render indent unit)))
          (Text.join eol (renderAll indent unit qs)) := by
      cases qs with
      | nil =>
        exact ⟨by simpa [renderAll] using hmarks, Text.marks_nil g _⟩
      | cons q' qs =>
        rw [renderAll, Text.join_append eol (render_ne_nil indent unit q)
          (renderAll_ne_nil (by simp) indent unit)] at hmarks
        refine ⟨hmarks.left, ?_⟩
        rw [Plan.unlines_eq eol (render_ne_nil indent unit q)]
        rw [← List.append_assoc] at hmarks
        exact hmarks.right (heol.lastLine_append _)
    have hfirst := lined_render heol hunit q hwf.1 hlines.1 p indent hindent hq
    have hrest := lined_renderAll heol hunit qs hwf.2 hlines.2 _ indent hindent hqs
    rw [allNodes, Node.sketches_append]
    refine ⟨⟨Sketch.allRegular_append.mpr ⟨hfirst.1.regular, hrest.1.regular⟩, ?_⟩, ?_⟩
    · intro i hi
      rw [Sketch.indents_append, List.mem_append] at hi
      obtain hi | hi := hi
      · exact hfirst.1.indent i hi
      · exact hrest.1.indent i hi
    · intro _
      rw [Sketch.indents_append]
      simp [hfirst.2]

end

end Property

end Graft
