import Graft.Property
import Graft.Proofs.Reading

/-!
# Rendered properties

A property is well formed when its own text, taken alone, is a piece of a script. The lines that it
is rendered to then read as the same nodes, at any indentation and with any line ends, and it is
known where each of the nodes stands.
-/
namespace Graft

open Lexeme (AllStand Begins Reads IsLineEnd lineFeed texts)
open Token (place significant)
open Grammar (Body)
open Plan (unlines)

namespace Property

/-- A line as it is to read: a name alone, a name and its value, or a name with a colon and its
value. -/
def written (name : Text) : Form → Text → Text
  | .statement, [] => name
  | .statement, c :: value => name ++ [' '] ++ c :: value
  | .property, value => name ++ [':', ' '] ++ value

theorem lineText_eq_written (name value : Text) (form : Form) :
    lineText name value form = written name form value := by
  cases form with
  | statement => cases value <;> simp [lineText, written]
  | property => simp [lineText, written]

/-- The text of a block with nothing in it. -/
def blockText (name : Text) : Text := name ++ [' ', '{', '}']

mutual

/-- The text of a line parses on its own, and its first node begins it; a block with nothing in it
parses on its own as one block from the first byte to the last, and what goes into it is well
formed. -/
def WellFormed : Property → Prop
  | line n value form => ∃ d node rest, Document.parse (written n form value) = .ok d ∧
      d.nodes = node :: rest ∧ node.span.start = 0
  | block n children => (∃ d name span header braces inner,
      Document.parse (blockText n) = .ok d ∧ d.nodes = [.block name span header braces inner] ∧
      span.start = 0 ∧ braces.opening + 2 = Text.size (blockText n) ∧
      braces.closing + 1 = Text.size (blockText n)) ∧ AllWellFormed children

def AllWellFormed : List Property → Prop
  | [] => True
  | p :: ps => p.WellFormed ∧ AllWellFormed ps

end

mutual

/-- The nodes that a property stands for, as its own text has them. -/
def shapes : Property → List Shape
  | line n value form =>
    match Document.parse (written n form value) with
    | .ok d => Node.shapes d.nodes
    | .error _ => []
  | block n children =>
    match Document.parse (blockText n) with
    | .ok d => (Node.shapes d.nodes).map (Shape.within fun _ => allShapes children)
    | .error _ => []

def allShapes : List Property → List Shape
  | [] => []
  | p :: ps => p.shapes ++ allShapes ps

end

/-- The beginning of a block up to the line below its opening brace. -/
def blockHead (eol indent name : Text) : Text := indent ++ (name ++ ([' ', '{'] ++ eol))

/-- What stands before the closing brace of a block. -/
def blockFront (eol unit indent name : Text) (children : List Property) : Text :=
  blockHead eol indent name ++ (unlines eol (renderAll (indent ++ unit) unit children) ++ indent)

mutual

/-- The nodes of the lines that a property is rendered to, when they begin at the offset `p`. -/
def nodes (eol unit : Text) (p : Nat) (indent : Text) : Property → List Node
  | line n value form =>
    match Document.parse (written n form value) with
    | .ok d => Node.moveAll 0 (p + Text.size indent) d.nodes
    | .error _ => []
  | block n children =>
    match Document.parse (blockText n) with
    | .ok d => Node.refill (p + Text.size indent + Text.size n + 2)
        (p + Text.size (blockFront eol unit indent n children))
        (allNodes eol unit (p + Text.size (blockHead eol indent n)) (indent ++ unit) children) [0]
        (Node.moveAll 0 (p + Text.size indent) d.nodes)
    | .error _ => []

def allNodes (eol unit : Text) (p : Nat) (indent : Text) : List Property → List Node
  | [] => []
  | q :: qs => q.nodes eol unit p indent ++
      allNodes eol unit (p + Text.size (unlines eol (q.render indent unit))) indent qs

end

end Property

/-! ## Texts that begin with a node -/

namespace Grammar

private theorem Body.exists_first {b : Body} {after : List Token} (hb : b.Valid after) {node : Node}
    {rest : List Node} (h : b.nodes = node :: rest) :
    ∃ xs t ys, b.tokens = xs ++ t :: ys ∧ t.kind = .identifier ∧ t.start = node.span.start := by
  induction hb with
  | nil => cases h
  | @separator _ t _ _ _ ih =>
    obtain ⟨xs, u, ys, htokens, hu⟩ := ih h
    exact ⟨t :: xs, u, ys, by simp [tokens, htokens], hu⟩
  | @statement _ n args rest hn _ _ _ _ _ =>
    obtain ⟨rfl, -⟩ := List.cons.inj h
    exact ⟨[], n.first, _, by simp only [tokens, Name.tokens, List.cons_append]; rfl, hn.identifier,
      rfl⟩
  | @block _ n header breaks o inside c rest hn _ _ _ _ _ _ _ _ =>
    obtain ⟨rfl, -⟩ := List.cons.inj h
    exact ⟨[], n.first, _, by simp only [tokens, Name.tokens, List.cons_append]; rfl, hn.identifier,
      rfl⟩

end Grammar

private theorem Lexeme.isNameStart_of_stands {l : Lexeme} {rest : Text} (h : l.Stands rest)
    (hk : l.kind = .identifier) : ∀ c ∈ l.text.head?, isNameStart c = true := by
  obtain ⟨x, a, htext, hext⟩ := h
  rw [hk] at hext
  intro c hc
  obtain rfl : x = c := by simpa [htext] using hc
  generalize a.length = n at hext
  have hrule := rule_of_extent hext
  cases hrule with
  | identifier hx => exact hx

/-- A text that parses to nodes of which the first begins it can be put anywhere. -/
theorem reads_of_parse {t : Text} {d : Document} (h : Document.parse t = .ok d) {node : Node}
    {rest : List Node} (hnodes : d.nodes = node :: rest) (hstart : node.span.start = 0) (q : Nat) :
    ∃ (ls : List Lexeme) (b : Body), texts ls = t ∧ AllStand ls [] ∧
      b.tokens = significant (place q ls) ∧ b.Valid [] ∧ b.nodes = Node.moveAll 0 q d.nodes ∧
      ∀ c ∈ t.head?, Text.isBlank c = false := by
  obtain ⟨ls, b, hls, hb, rfl⟩ := Grammar.exists_derivation_of_parse h
  obtain ⟨rfl, hbegins⟩ := Lexeme.ofSource_eq_ok_iff.mp hls
  obtain ⟨-, hne⟩ := Lexeme.ofSource_texts hls
  obtain ⟨xs, u, ys, htokens, hkind, hu⟩ := Grammar.Body.exists_first hb.2 hnodes
  obtain ⟨ks, ms, rfl, hsize, -, -⟩ := Lexeme.exists_split (hb.1.symm.trans htokens)
  obtain rfl : ks = [] :=
    Lexeme.eq_nil_of_texts (fun l hl => hne l (by simp [hl])) (Text.size_eq_zero (by omega))
  obtain ⟨-, hstand⟩ := hbegins.split (by simp [hkind])
  refine ⟨_, b.move 0 q, rfl, hstand, ?_, hb.2.move fun t _ => Nat.zero_le t.start,
    Body.nodes_move fun t _ => Nat.zero_le t.start, ?_⟩
  · rw [Body.tokens_move, hb.1, ← Token.significant_move, Token.place_move (Nat.le_refl 0)]
    simp
  · intro c hc
    obtain ⟨x, a, hx⟩ := List.exists_cons_of_ne_nil hstand.1.text_ne_nil
    obtain rfl : x = c := by simpa [hx] using hc
    have hname := Lexeme.isNameStart_of_stands hstand.1 hkind x (by simp [hx])
    exact Lexeme.isBlank_of_isNamePart (Lexeme.isNamePart_of_isNameStart hname)

/-! ## Texts with their nodes -/

/-- The text reads as a derivation of these nodes when it stands at the offset `p`. -/
def Yields (p : Nat) (t : Text) (ns : List Node) : Prop :=
  ∃ b : Body, b.Valid [] ∧ Reads AllStand p t b.tokens ∧ b.nodes = ns

private theorem isSeparator_lineFeed (p : Nat) : Grammar.IsSeparator (lineFeed p) := .inl rfl

theorem valid_append_lineFeed {b : Body} {after : List Token} (h : b.Valid after) (p : Nat)
    (after' : List Token) : (b.append (.separator (lineFeed p) .nil)).Valid after' := by
  refine Body.Valid.append ?_ (.separator (isSeparator_lineFeed p) .nil)
  exact h.congr (.inl (Grammar.ended_cons (.inl (isSeparator_lineFeed p)) _))

private theorem yields_nil (p : Nat) : Yields p [] [] :=
  ⟨.nil, .nil, Lexeme.reads_nil p, rfl⟩

private theorem Yields.line {p : Nat} {a b : Text} {ms ns : List Node} (ha : Yields p a ms)
    {eol : Text} (heol : IsLineEnd eol) (hb : Yields (p + Text.size (a ++ eol)) b ns) :
    Yields p (a ++ (eol ++ b)) (ms ++ ns) := by
  obtain ⟨ba, hva, hra, rfl⟩ := ha
  obtain ⟨bb, hvb, hrb, rfl⟩ := hb
  refine ⟨(ba.append (.separator (lineFeed (p + Text.size (a ++ eol) - 1)) .nil)).append bb,
    (valid_append_lineFeed hva _ _).append hvb, ?_, ?_⟩
  · rw [Body.tokens_append, Body.tokens_append, List.append_assoc]
    exact hra.line Lexeme.continues_allStand heol hrb
  · simp [Body.nodes_append, Body.nodes]

theorem Text.join_append (separator : Text) {xs ys : List Text} (hxs : xs ≠ []) (hys : ys ≠ []) :
    Text.join separator (xs ++ ys) =
      Text.join separator xs ++ (separator ++ Text.join separator ys) := by
  induction xs with
  | nil => exact absurd rfl hxs
  | cons x xs ih =>
    cases xs with
    | nil =>
      obtain ⟨y, ys, rfl⟩ := List.exists_cons_of_ne_nil hys
      simp [Text.join]
    | cons x' xs =>
      have := ih (by simp)
      simp only [List.cons_append, Text.join] at this ⊢
      rw [this]
      simp

theorem Plan.unlines_append (eol : Text) (xs ys : List Text) :
    unlines eol (xs ++ ys) = unlines eol xs ++ unlines eol ys :=
  List.flatMap_append

theorem Plan.unlines_eq (eol : Text) {ls : List Text} (h : ls ≠ []) :
    unlines eol ls = Text.join eol ls ++ eol := by
  induction ls with
  | nil => exact absurd rfl h
  | cons l ls ih =>
    cases ls with
    | nil => simp [unlines, Text.join]
    | cons k ls =>
      have := ih (by simp)
      simp only [unlines, List.flatMap_cons, Text.join] at this ⊢
      rw [this]
      simp

namespace Property

theorem render_ne_nil (indent unit : Text) (p : Property) : p.render indent unit ≠ [] := by
  cases p <;> simp [render]

theorem renderAll_ne_nil {ps : List Property} (h : ps ≠ []) (indent unit : Text) :
    renderAll indent unit ps ≠ [] := by
  obtain ⟨p, ps, rfl⟩ := List.exists_cons_of_ne_nil h
  simp [renderAll, render_ne_nil]

theorem join_render_block (eol unit indent n : Text) (children : List Property) :
    Text.join eol ((block n children).render indent unit) =
      blockFront eol unit indent n children ++ ['}'] := by
  have hclose : Text.join eol (renderAll (indent ++ unit) unit children ++ [indent ++ ['}']]) =
      unlines eol (renderAll (indent ++ unit) unit children) ++ (indent ++ ['}']) := by
    by_cases h : renderAll (indent ++ unit) unit children = []
    · simp [h, Text.join, unlines]
    · rw [Text.join_append eol h (by simp), Plan.unlines_eq eol h]
      simp [Text.join]
  rw [render, List.cons_append, ← List.singleton_append, Text.join_append eol (by simp) (by simp),
    hclose, blockFront, blockHead]
  simp [Text.join]

private theorem yields_lineText {n value : Text} {form : Form} (h : (line n value form).WellFormed)
    (eol unit : Text) (p : Nat) {indent : Text} (hindent : ∀ c ∈ indent, Text.isIndent c = true) :
    Yields p (indent ++ lineText n value form) ((line n value form).nodes eol unit p indent) := by
  rw [lineText_eq_written]
  obtain ⟨d, node, rest, hparse, hnodes, hstart⟩ := h
  obtain ⟨ls, b, htexts, hstand, htokens, hb, hbnodes, hhead⟩ :=
    reads_of_parse hparse hnodes hstart (p + Text.size indent)
  refine ⟨b, hb, Lexeme.Reads.indent ?_ hindent hhead, ?_⟩
  · rw [htokens, ← htexts]
    exact Lexeme.reads_of_lexemes hstand _
  · rw [nodes, hparse, hbnodes]

/-- The text of a block comes apart before its closing brace, and whatever is valid there can stand
in between. -/
theorem exists_frame {n name : Text} {d : Document} {span : Span} {header : List Token}
    {braces : Braces} {inner : List Node} (hparse : Document.parse (blockText n) = .ok d)
    (hnodes : d.nodes = [.block name span header braces inner]) (hstart : span.start = 0)
    (hopen : braces.opening + 2 = Text.size (blockText n)) (q : Nat) :
    ∃ front o, Reads AllStand q (n ++ [' ', '{']) (front ++ [o]) ∧
      (∀ x ∈ (n ++ [' ', '{']).head?, Text.isBlank x = false) ∧
      ∀ (r : Nat) (inside : Body), inside.Valid [⟨⟨.symbol, ['}']⟩, r⟩] → ∃ b : Body, b.Valid [] ∧
        b.tokens = front ++ o :: (inside.tokens ++ [⟨⟨.symbol, ['}']⟩, r⟩]) ∧
        b.nodes =
          Node.refill (q + Text.size n + 2) r inside.nodes [0] (Node.moveAll 0 q d.nodes) := by
  obtain ⟨ls, b, htexts, hstand, htokens, hb, hbnodes, hhead⟩ :=
    reads_of_parse hparse hnodes hstart q
  have hscope : (b.nodes[0]?.bind Node.scope?).bind (Scope.at? · []) =
      some ⟨name, ⟨span.start - 0 + q, span.stop - 0 + q⟩,
        some ⟨braces.opening - 0 + q, braces.closing - 0 + q⟩, Node.moveAll 0 q inner⟩ := by
    simp [hbnodes, hnodes, Node.scope?, Scope.at?, Node.moveAll, Node.move]
  obtain ⟨front, o, inside, c, rear, hopens, hbraces, -⟩ := Body.exists_opens hb hscope
  obtain ⟨L, ms, rfl, ho, hfront, hms⟩ :=
    Lexeme.exists_split (htokens.symm.trans hopens.tokens)
  obtain ⟨K, M, rfl, hcstart, hK, hM⟩ := Lexeme.exists_split hms
  have hoText := Lexeme.toLexeme_of_isSymbol hopens.braced.1
  have hcText := Lexeme.toLexeme_of_isSymbol hopens.braced.2
  have hostart : braces.opening - 0 + q = o.start :=
    congrArg Braces.opening (Option.some.inj hbraces)
  have hcut : texts L ++ '{' :: (texts K ++ '}' :: texts M) = (n ++ [' ']) ++ ['{', '}'] := by
    simpa [hoText, hcText, blockText] using htexts
  have hsize : Text.size (texts L) = Text.size (n ++ [' ']) := by
    have hmarks : Text.size [' ', '{', '}'] = 3 ∧ Text.size [' '] = 1 := ⟨rfl, rfl⟩
    rw [blockText, Text.size_append, hmarks.1] at hopen
    rw [Text.size_append, hmarks.2]
    omega
  obtain ⟨hL, htail⟩ := Text.append_inj_of_size hcut hsize
  obtain ⟨hKtext, hMtext⟩ : texts K = [] ∧ texts M = [] := by
    have hlen := congrArg List.length htail
    simp only [List.length_cons, List.length_append, List.length_nil] at hlen
    exact ⟨List.length_eq_zero_iff.mp (by omega), List.length_eq_zero_iff.mp (by omega)⟩
  have hne := hstand.text_ne_nil
  obtain rfl : K = [] := Lexeme.eq_nil_of_texts (fun l hl => hne l (by simp [hl])) hKtext
  obtain rfl : M = [] := Lexeme.eq_nil_of_texts (fun l hl => hne l (by simp [hl])) hMtext
  obtain rfl : [] = rear := hM
  have hcstart' : c.start = q + Text.size n + 2 := by
    have hspace : Text.size [' '] = 1 := rfl
    rw [Text.size_append, hspace] at hsize
    have hbrace : Text.size o.text = 1 := by rw [hoText]; rfl
    rw [hcstart, Token.stop, hbrace, ho, hKtext, hsize, Text.size_nil]
    omega
  rw [List.append_cons, Lexeme.allStand_append] at hstand
  refine ⟨front, o, ?_, ?_, ?_⟩
  · have hreads := Lexeme.reads_of_lexemes (hstand.1.congr (Lexeme.replaces_nil _)) q
    rw [Lexeme.significant_place_append, hfront, ← ho,
      Lexeme.significant_place_token (by rw [hoText]; rfl)] at hreads
    simpa [hL, hoText] using hreads
  · intro x hx
    refine hhead x ?_
    cases n with
    | nil => simpa [blockText] using hx
    | cons y n => simpa [blockText] using hx
  · intro r inside' hvalid
    have hmove : c.move c.start r = ⟨⟨.symbol, ['}']⟩, r⟩ := by
      rw [← hcText, Token.move, Nat.sub_self, Nat.zero_add]
    obtain ⟨b', hb', htokens', hnodes'⟩ := hopens.refill c.start r inside' (by simp)
      (by simpa [hmove] using hvalid)
    exact ⟨b', hb', by simpa [hmove] using htokens', by rw [hnodes', hcstart', hbnodes]⟩

private theorem reads_brace (p : Nat) : Reads AllStand p ['}'] [⟨⟨.symbol, ['}']⟩, p⟩] := by
  have hstand : AllStand [⟨.symbol, ['}']⟩] [] :=
    ⟨⟨'}', [], rfl, Lexeme.extent_of_rule (.symbol (by decide) (by simp))⟩, trivial⟩
  exact Lexeme.reads_of_lexemes hstand p

private theorem yields_block {eol unit : Text} (heol : IsLineEnd eol) {n : Text}
    {children : List Property} (h : (block n children).WellFormed) (p : Nat) {indent : Text}
    (hindent : ∀ c ∈ indent, Text.isIndent c = true)
    (hinside : Yields (p + Text.size (blockHead eol indent n))
      (Text.join eol (renderAll (indent ++ unit) unit children))
      (allNodes eol unit (p + Text.size (blockHead eol indent n)) (indent ++ unit) children)) :
    Yields p (Text.join eol ((block n children).render indent unit))
      ((block n children).nodes eol unit p indent) := by
  obtain ⟨⟨d, name, span, header, braces, inner, hparse, hnodes, hstart, hopen, -⟩, -⟩ := h
  obtain ⟨front, o, hfirst, hhead, hframe⟩ :=
    exists_frame hparse hnodes hstart hopen (p + Text.size indent)
  have hclose (r : Nat) : Reads AllStand r (indent ++ ['}'])
      [⟨⟨.symbol, ['}']⟩, r + Text.size indent⟩] :=
    (reads_brace _).indent hindent fun x hx => by
      obtain rfl : '}' = x := by simpa using hx
      decide
  -- the lines behind the first one: those inside, if any, and the closing brace
  obtain ⟨b, hb, htail, hbnodes⟩ : ∃ b : Body,
      b.Valid [⟨⟨.symbol, ['}']⟩, p + Text.size (blockFront eol unit indent n children)⟩] ∧
      Reads AllStand (p + Text.size (blockHead eol indent n))
        (unlines eol (renderAll (indent ++ unit) unit children) ++ (indent ++ ['}']))
        (b.tokens ++
          [⟨⟨.symbol, ['}']⟩, p + Text.size (blockFront eol unit indent n children)⟩]) ∧
      b.nodes =
        allNodes eol unit (p + Text.size (blockHead eol indent n)) (indent ++ unit) children := by
    cases children with
    | nil =>
      refine ⟨.nil, .nil, ?_, rfl⟩
      have hlast := hclose (p + Text.size (blockHead eol indent n))
      simpa [renderAll, unlines, blockFront, Body.tokens, Nat.add_assoc] using hlast
    | cons q qs =>
      obtain ⟨b, hb, hreads, hbnodes⟩ := hinside
      have hne : renderAll (indent ++ unit) unit (q :: qs) ≠ [] := renderAll_ne_nil (by simp) _ _
      have htail := hreads.line Lexeme.continues_allStand heol (hclose _)
      generalize _ - 1 = m at htail
      refine ⟨b.append (.separator (lineFeed m) .nil), valid_append_lineFeed hb _ _, ?_, ?_⟩
      · rw [Plan.unlines_eq eol hne, Body.tokens_append, blockFront, Plan.unlines_eq eol hne]
        simpa [Body.tokens, Nat.add_assoc] using htail
      · simp [Body.nodes_append, Body.nodes, hbnodes]
  have hlines := (hfirst.indent hindent hhead).line Lexeme.continues_allStand heol
    (b := unlines eol (renderAll (indent ++ unit) unit children) ++ (indent ++ ['}']))
    (by simpa [blockHead] using htail)
  generalize _ - 1 = m at hlines
  obtain ⟨b', hb', htokens, hnodes'⟩ := hframe _ (.separator (lineFeed m) b)
    (.separator (isSeparator_lineFeed m) hb)
  have htext : Text.join eol ((block n children).render indent unit) =
      (indent ++ (n ++ [' ', '{'])) ++ (eol ++
        (unlines eol (renderAll (indent ++ unit) unit children) ++ (indent ++ ['}']))) := by
    rw [join_render_block, blockFront, blockHead]
    simp
  refine ⟨b', hb', ?_, ?_⟩
  · rw [htokens, htext]
    simpa [Body.tokens] using hlines
  · rw [hnodes', nodes, hparse, Body.nodes, hbnodes]

mutual

private theorem yields_render {eol unit : Text} (heol : IsLineEnd eol)
    (hunit : ∀ c ∈ unit, Text.isIndent c = true) : (q : Property) → q.WellFormed →
    (p : Nat) → (indent : Text) → (∀ c ∈ indent, Text.isIndent c = true) →
    Yields p (Text.join eol (q.render indent unit)) (q.nodes eol unit p indent)
  | .line _ _ _, hq, p, _, hindent => yields_lineText hq eol unit p hindent
  | .block n children, hq, p, indent, hindent => by
    have hdeeper : ∀ c ∈ indent ++ unit, Text.isIndent c = true := by
      intro c hc
      obtain hc | hc := List.mem_append.mp hc
      · exact hindent c hc
      · exact hunit c hc
    exact yields_block heol hq p hindent (yields_renderAll heol hunit children hq.2 _ _ hdeeper)

/-- The lines of well-formed properties read as the nodes that they stand for. -/
theorem yields_renderAll {eol unit : Text} (heol : IsLineEnd eol)
    (hunit : ∀ c ∈ unit, Text.isIndent c = true) : (qs : List Property) → AllWellFormed qs →
    (p : Nat) → (indent : Text) → (∀ c ∈ indent, Text.isIndent c = true) →
    Yields p (Text.join eol (renderAll indent unit qs)) (allNodes eol unit p indent qs)
  | [], _, p, _, _ => yields_nil p
  | q :: qs, hqs, p, indent, hindent => by
    have hfirst := yields_render heol hunit q hqs.1 p indent hindent
    have hrest := yields_renderAll heol hunit qs hqs.2
      (p + Text.size (unlines eol (q.render indent unit))) indent hindent
    cases qs with
    | nil => simpa [renderAll, allNodes] using hfirst
    | cons r rs =>
      have hne : renderAll indent unit (r :: rs) ≠ [] := renderAll_ne_nil (by simp) _ _
      rw [renderAll, Text.join_append eol (render_ne_nil indent unit q) hne, allNodes]
      refine hfirst.line heol ?_
      rwa [Plan.unlines_eq eol (render_ne_nil indent unit q)] at hrest ⊢

end

/-- The lines of a block are one node, with its braces on the first and the last line. -/
theorem nodes_block {n : Text} {children : List Property} (h : (block n children).WellFormed)
    (eol unit : Text) (p : Nat) (indent : Text) :
    ∃ name stop header, (block n children).shapes =
        [.block name (header.map Token.toLexeme) (allShapes children)] ∧
      (block n children).nodes eol unit p indent = [.block name ⟨p + Text.size indent, stop⟩ header
        ⟨p + Text.size indent + Text.size n + 1,
          p + Text.size (blockFront eol unit indent n children)⟩
        (allNodes eol unit (p + Text.size (blockHead eol indent n)) (indent ++ unit)
          children)] := by
  obtain ⟨⟨d, name, span, header, braces, inner, hparse, hnodes, hstart, hopen, hclose⟩, -⟩ := h
  have hsize : Text.size (blockText n) = Text.size n + 3 := by
    rw [blockText, Text.size_append]
    rfl
  have hopening : braces.opening - 0 + (p + Text.size indent) =
      p + Text.size indent + Text.size n + 1 := by omega
  have hclosing : braces.closing - 0 + (p + Text.size indent) -
      (p + Text.size indent + Text.size n + 2) +
      (p + Text.size (blockFront eol unit indent n children)) =
      p + Text.size (blockFront eol unit indent n children) := by omega
  refine ⟨name, span.stop - 0 + (p + Text.size indent) -
    (p + Text.size indent + Text.size n + 2) +
    (p + Text.size (blockFront eol unit indent n children)),
    header.map (Token.move 0 (p + Text.size indent)), ?_, ?_⟩
  · simp [shapes, hparse, hnodes, Node.shapes, Node.shape, Shape.within]
  · rw [nodes, hparse]
    simp only [hnodes, Node.moveAll, Node.move, Node.refill_zero, Node.stretch, Node.refill_nil,
      hstart, hopening, hclosing, Nat.sub_self, Nat.zero_add]

mutual

private theorem shapes_nodes (eol unit : Text) : (q : Property) → q.WellFormed → (p : Nat) →
    (indent : Text) → Node.shapes (q.nodes eol unit p indent) = q.shapes
  | .line n value form, hq, p, indent => by
    obtain ⟨d, -, -, hparse, -⟩ := hq
    rw [nodes, shapes, hparse, Node.shapes_moveAll]
  | .block n children, hq, p, indent => by
    obtain ⟨name, stop, header, hshapes, hnodes⟩ := nodes_block hq eol unit p indent
    rw [hnodes, hshapes, Node.shapes, Node.shape, shapes_allNodes eol unit children hq.2]
    rfl

theorem shapes_allNodes (eol unit : Text) : (qs : List Property) → AllWellFormed qs → (p : Nat) →
    (indent : Text) → Node.shapes (allNodes eol unit p indent qs) = allShapes qs
  | [], _, _, _ => rfl
  | q :: qs, hqs, p, indent => by
    rw [allNodes, allShapes, Node.shapes_append, shapes_nodes eol unit q hqs.1,
      shapes_allNodes eol unit qs hqs.2]

end

end Property

/-! ## Dotted names -/

/-- A text that is read as one identifier. -/
def Lexeme.IsIdentifier (t : Text) : Prop :=
  ∃ c r, t = c :: r ∧ isNameStart c = true ∧ ∀ x ∈ r, isNamePart x = true

/-- Identifiers joined by points. -/
def Text.IsDotted (t : Text) : Prop :=
  ∃ (first : Text) (rest : List Text), t = first ++ rest.flatMap ('.' :: ·) ∧
    Lexeme.IsIdentifier first ∧ ∀ i ∈ rest, Lexeme.IsIdentifier i

private theorem Lexeme.IsIdentifier.isBlank {t : Text} (h : IsIdentifier t) :
    t ≠ [] ∧ ∀ c ∈ t, Text.isBlank c = false := by
  obtain ⟨c, r, rfl, hc, hr⟩ := h
  refine ⟨by simp, fun x hx => isBlank_of_isNamePart ?_⟩
  obtain rfl | hx := List.mem_cons.mp hx
  · exact isNamePart_of_isNameStart hc
  · exact hr x hx

theorem Text.IsDotted.isBlank {t : Text} (h : t.IsDotted) :
    t ≠ [] ∧ ∀ c ∈ t, Text.isBlank c = false := by
  obtain ⟨first, rest, rfl, hfirst, hrest⟩ := h
  refine ⟨by simp [hfirst.isBlank.1], fun c hc => ?_⟩
  obtain hc | hc := List.mem_append.mp hc
  · exact hfirst.isBlank.2 c hc
  · obtain ⟨i, hi, hc⟩ := List.mem_flatMap.mp hc
    obtain rfl | hc := List.mem_cons.mp hc
    · decide
    · exact (hrest i hi).isBlank.2 c hc

namespace Lexeme

/-- The points and identifiers of a dotted name behind the first one. -/
def links (rest : List Text) : List Lexeme :=
  rest.flatMap fun i => [⟨.symbol, ['.']⟩, ⟨.identifier, i⟩]

private theorem texts_links (rest : List Text) : texts (links rest) = rest.flatMap ('.' :: ·) := by
  induction rest with
  | nil => rfl
  | cons i rest ih => simpa [links] using ih

private theorem stands_identifier {t rest : Text} (h : IsIdentifier t)
    (hrest : ∀ c ∈ rest.head?, isNamePart c = false) : Stands ⟨.identifier, t⟩ rest := by
  obtain ⟨c, r, rfl, hc, hr⟩ := h
  refine ⟨c, r, rfl, ?_⟩
  rw [← length_takeWhile_append.mpr ⟨hr, hrest⟩]
  exact extent_of_rule (.identifier hc)

private theorem stands_mark {c : Char} (rest : Text) (hc : isMark c = true) (hslash : c ≠ '/') :
    Stands ⟨.symbol, [c]⟩ rest :=
  ⟨c, [], rfl, extent_of_rule (.symbol hc fun h => absurd h hslash)⟩

private theorem allStand_links {first : Text} {rest : List Text} (hfirst : IsIdentifier first)
    (hrest : ∀ i ∈ rest, IsIdentifier i) {c : Char} (hc : isNamePart c = false) (r : Text) :
    AllStand (⟨.identifier, first⟩ :: links rest) (c :: r) := by
  induction rest generalizing first with
  | nil =>
    refine ⟨stands_identifier hfirst fun x hx => ?_, trivial⟩
    obtain rfl : c = x := by simpa [links] using hx
    exact hc
  | cons i rest ih =>
    refine ⟨stands_identifier hfirst fun x hx => ?_, stands_mark _ (by decide) (by decide),
      ih (hrest i (by simp)) fun j hj => hrest j (by simp [hj])⟩
    obtain rfl : '.' = x := by simpa [links] using hx
    decide

private theorem exists_linked_place (rest : List Text) (p : Nat) : ∃ ps : List (Token × Token),
    (ps.flatMap fun q => [q.1, q.2]) = place p (links rest) ∧ Grammar.Name.Linked p ps ∧
      Grammar.Name.stopFrom p ps = p + Text.size (texts (links rest)) ∧
      (ps.flatMap fun q => '.' :: q.2.text) = rest.flatMap ('.' :: ·) := by
  induction rest generalizing p with
  | nil => exact ⟨[], rfl, trivial, rfl, rfl⟩
  | cons i rest ih =>
    obtain ⟨ps, htokens, hlinked, hstop, htext⟩ := ih (p + 1 + Text.size i)
    refine ⟨(⟨⟨.symbol, ['.']⟩, p⟩, ⟨⟨.identifier, i⟩, p + 1⟩) :: ps, ?_, ?_, ?_, ?_⟩
    · rw [List.flatMap_cons, htokens]
      rfl
    · exact ⟨⟨rfl, rfl⟩, ⟨rfl, beq_iff_eq.mpr rfl⟩, hlinked⟩
    · have hsize : Text.size (texts (links (i :: rest))) =
          1 + (Text.size i + Text.size (texts (links rest))) := by
        rw [texts_links, List.flatMap_cons, List.cons_append, Text.size_cons, Text.size_append,
          ← texts_links]
        rfl
      rw [hsize, Grammar.Name.stopFrom]
      refine hstop.trans ?_
      omega
    · rw [List.flatMap_cons, htext, List.flatMap_cons]

private theorem significant_place_of_solid {ls : List Lexeme}
    (h : ∀ l ∈ ls, l.kind.isTrivia = false) (p : Nat) : significant (place p ls) = place p ls := by
  induction ls generalizing p with
  | nil => rfl
  | cons l ls ih =>
    rw [significant_place_solid (h l (by simp)), ih fun k hk => h k (by simp [hk]), place]

private theorem isTrivia_of_mem_links {rest : List Text} {l : Lexeme} (h : l ∈ links rest) :
    l.kind.isTrivia = false := by
  obtain ⟨i, -, hl⟩ := List.mem_flatMap.mp h
  obtain rfl | rfl : l = _ ∨ l = _ := by simpa using hl
  · rfl
  · rfl

end Lexeme

private theorem parse_blockText {n : Text} (h : n.IsDotted) :
    Document.parse (Property.blockText n) = .ok ⟨Property.blockText n,
      [.block n ⟨0, Text.size n + 3⟩ [] ⟨Text.size n + 1, Text.size n + 2⟩ []]⟩ := by
  obtain ⟨first, rest, hn, hfirst, hrest⟩ := h
  obtain ⟨ps, htokens, hlinked, -, htext⟩ := Lexeme.exists_linked_place rest (0 + Text.size first)
  have htexts : texts (⟨.identifier, first⟩ :: Lexeme.links rest) = n := by
    simp [hn, Lexeme.texts_links]
  let marks : List Lexeme := [⟨.whitespace, [' ']⟩, ⟨.symbol, ['{']⟩, ⟨.symbol, ['}']⟩]
  have hstand : AllStand (⟨.identifier, first⟩ :: Lexeme.links rest ++ marks) [] := by
    refine Lexeme.allStand_append.mpr ⟨Lexeme.allStand_links hfirst hrest (by decide) _, ?_,
      Lexeme.stands_mark _ (by decide) (by decide), Lexeme.stands_mark _ (by decide) (by decide),
      trivial⟩
    refine Lexeme.stands_iff.mpr ⟨Lexeme.stands_whitespace (by simp)
      (List.forall_mem_singleton.mpr (by decide)), ?_⟩
    intro c hc
    obtain rfl : '{' = c := by simpa using hc
    decide
  have hscan : Token.scan (Property.blockText n) =
      .ok (place 0 (⟨.identifier, first⟩ :: Lexeme.links rest ++ marks)) := by
    have hsource : Lexeme.ofSource (Property.blockText n) =
        .ok (⟨.identifier, first⟩ :: Lexeme.links rest ++ marks) := by
      refine Lexeme.ofSource_eq_ok_iff.mpr
        ⟨by rw [Lexeme.texts_append, htexts]; rfl, .plain ?_ hstand⟩
      obtain ⟨c, r, rfl, hc, -⟩ := hfirst
      rintro ⟨t, ht⟩
      obtain ⟨rfl, -⟩ := List.cons.inj ht
      exact absurd hc (by decide)
    rw [Token.scan, hsource]
  have hsig : significant (place 0 (⟨.identifier, first⟩ :: Lexeme.links rest ++ marks)) =
      place 0 (⟨.identifier, first⟩ :: Lexeme.links rest) ++
        [⟨⟨.symbol, ['{']⟩, Text.size n + 1⟩, ⟨⟨.symbol, ['}']⟩, Text.size n + 2⟩] := by
    have hsolid : ∀ l ∈ (⟨.identifier, first⟩ : Lexeme) :: Lexeme.links rest,
        l.kind.isTrivia = false := by
      intro l hl
      obtain rfl | hl := List.mem_cons.mp hl
      · rfl
      · exact Lexeme.isTrivia_of_mem_links hl
    rw [Lexeme.significant_place_append, Lexeme.significant_place_of_solid hsolid, htexts,
      Nat.zero_add]
    rfl
  have hbuild : Tree.build
      (significant (place 0 (⟨.identifier, first⟩ :: Lexeme.links rest ++ marks))) =
      .ok [.block n ⟨0, Text.size n + 3⟩ [] ⟨Text.size n + 1, Text.size n + 2⟩ []] := by
    refine Tree.build_eq_ok_iff.mpr ⟨.block ⟨⟨⟨.identifier, first⟩, 0⟩, ps⟩ .nil []
      ⟨⟨.symbol, ['{']⟩, Text.size n + 1⟩ .nil ⟨⟨.symbol, ['}']⟩, Text.size n + 2⟩ .nil,
      ⟨?_, ?_⟩, ?_⟩
    · rw [hsig]
      simp [Body.tokens, Grammar.Name.tokens, Grammar.Pieces.tokens, htokens, place]
    · refine .block ⟨rfl, hlinked, ?_⟩ .nil (by simp) (.inl rfl) ⟨rfl, rfl⟩ .nil .nil
      rintro ⟨p, i, r, hcut, ⟨hp, -⟩, -⟩
      obtain ⟨rfl, -⟩ := List.cons.inj hcut
      simp [Token.isSymbol] at hp
    · simp only [Body.nodes, Grammar.Name.text, htext, ← hn]
      rfl
  rw [Grammar.parse_of_scan hscan, hbuild]

namespace Property

theorem wellFormed_nest {ns : List Text} {ps : List Property} (hns : ∀ n ∈ ns, n.IsDotted)
    (hps : AllWellFormed ps) : AllWellFormed (nest ns ps) := by
  induction ns with
  | nil => exact hps
  | cons n ns ih =>
    have hsize : Text.size (blockText n) = Text.size n + 3 := by
      rw [blockText, Text.size_append]
      rfl
    have hparse := parse_blockText (hns n (by simp))
    exact ⟨⟨⟨_, _, _, _, _, _, hparse, rfl, rfl, hsize.symm, hsize.symm⟩,
      ih fun m hm => hns m (by simp [hm])⟩, trivial⟩

theorem allShapes_nest {ns : List Text} (hns : ∀ n ∈ ns, n.IsDotted) (ps : List Property) :
    allShapes (nest ns ps) = Shape.wrap ns (allShapes ps) := by
  induction ns with
  | nil => rfl
  | cons n ns ih =>
    rw [nest, allShapes, shapes, parse_blockText (hns n (by simp)), allShapes,
      ih fun m hm => hns m (by simp [hm])]
    rfl

end Property

end Graft
