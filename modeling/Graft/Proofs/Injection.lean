import Graft.Proofs.Landing
import Graft.Proofs.Rendering

/-!
# Injection appends

The text that an edit leaves is the text before it, a line end, the new lines, a line end and the
text behind it, whichever way they are set into their scope. So the parts are read one by one, and
the tree of the outcome is the old tree with the new nodes at the end of the target and with all
that follows moved.
-/
namespace Graft.Plan

open Lexeme (AllStand Begins Reads IsLineEnd isGap lineFeed texts)
open Token (significant)
open Grammar (Body)

/-! ## Line ends and indentation -/

theorem isLineEnd_lineEnd (source : Text) : IsLineEnd (lineEnd source) := by
  rw [lineEnd]
  split
  · split
    · exact .inr rfl
    · exact .inl rfl
  · exact .inl rfl

private theorem isIndent_of_childIndents {source : Text} {s : Scope} {indent : Text}
    (h : indent ∈ childIndents source s) : ∀ c ∈ indent, Text.isIndent c = true := by
  obtain ⟨n, -, rfl⟩ := List.mem_map.mp h
  exact fun c hc => Text.isIndent_of_mem_lineIndent hc

private theorem isIndent_of_unitOf? {source : Text} {s : Scope} {unit : Text}
    (h : unitOf? source s = some unit) : ∀ c ∈ unit, Text.isIndent c = true := by
  rw [unitOf?] at h
  obtain ⟨indent, hindent, rfl⟩ := Option.map_eq_some_iff.mp h
  intro c hc
  exact isIndent_of_childIndents (List.mem_of_find?_eq_some hindent) c (List.mem_of_mem_drop hc)

/-- The unit is what some scope shows, or the fallback. -/
theorem unit_cases (d : Document) (s : Scope) (fallback : Text) :
    unit d s fallback = fallback ∨ ∃ s', unitOf? d.source s' = some (unit d s fallback) := by
  rw [unit]
  cases hown : unitOf? d.source s with
  | some u => exact .inr ⟨s, by simpa using hown⟩
  | none =>
    cases hother : (d.root.walk.filter fun s => !s.isDocument).findSome? (unitOf? d.source) with
    | some u =>
      obtain ⟨s', -, hs'⟩ := List.exists_of_findSome?_eq_some hother
      exact .inr ⟨s', by simpa [hother] using hs'⟩
    | none => exact .inl (by simp)

theorem isIndent_unit {d : Document} {s : Scope} {fallback : Text}
    (h : ∀ c ∈ fallback, Text.isIndent c = true) :
    ∀ c ∈ unit d s fallback, Text.isIndent c = true := by
  obtain heq | ⟨s', hs'⟩ := unit_cases d s fallback
  · rwa [heq]
  · exact isIndent_of_unitOf? hs'

theorem isIndent_append {a b : Text} (ha : ∀ c ∈ a, Text.isIndent c = true)
    (hb : ∀ c ∈ b, Text.isIndent c = true) : ∀ c ∈ a ++ b, Text.isIndent c = true := by
  intro c hc
  obtain hc | hc := List.mem_append.mp hc
  · exact ha c hc
  · exact hb c hc

/-! ## The text of the outcome -/

private theorem Lands.apply_eq {source : Text} {s : Scope} {hash : Text → UInt64} {e : Edit}
    (h : Lands source s hash e) {a m b : Text} (hsource : source = a ++ (m ++ b))
    (hstart : e.start = Text.size a) (hstop : e.stop = Text.size a + Text.size m) :
    Edit.apply source [e] hash = .ok (a ++ (e.text ++ b)) := by
  obtain ⟨before, removed, after, hcut, hbefore, hafter, -, happly⟩ := h.apply_eq_ok
  obtain ⟨rfl, htail⟩ := Text.append_inj_of_size (hsource.symm.trans hcut) (by omega)
  obtain ⟨rfl, rfl⟩ := Text.append_inj_of_size htail (by omega)
  exact happly

theorem isGap_of_isIndent {c : Char} (h : Text.isIndent c = true) : isGap c = true := by
  have : c = ' ' ∨ c = '\t' := by simpa [Text.isIndent] using h
  obtain rfl | rfl := this <;> decide

/-- The indentation of new lines in a block. -/
def innerIndent (source : Text) (s : Scope) (unit : Text) : Text :=
  (childIndents source s).getLast?.getD (source.lineIndent s.span.start ++ unit)

theorem isIndent_innerIndent {source unit : Text} {s : Scope}
    (hunit : ∀ c ∈ unit, Text.isIndent c = true) :
    ∀ c ∈ innerIndent source s unit, Text.isIndent c = true := by
  rw [innerIndent]
  cases hlast : (childIndents source s).getLast? with
  | none => exact isIndent_append (fun c hc => Text.isIndent_of_mem_lineIndent hc) hunit
  | some i => exact isIndent_of_childIndents (List.mem_of_getLast? hlast)

/-- The lines of items between two texts. -/
def filled (before after eol inner unit : Text) (items : List Property) : Text :=
  before ++ (Text.join eol (Property.renderAll inner unit items) ++ after)

/-- Lines can be set behind `head`, in the line of a closing brace: behind the gap before it, which
goes, or behind the line end before that gap. -/
inductive Slot (eol head front first : Text) : Prop where
  | gap {gap} : first = eol → head = front ++ gap → (∀ c ∈ gap, isGap c = true) →
      Slot eol head front first
  | line {gap} : first = ['\n'] → head = front ++ '\n' :: gap → (∀ c ∈ gap, isGap c = true) →
      Slot eol head front first

theorem Slot.isLineEnd {eol head front first : Text} (h : Slot eol head front first)
    (heol : IsLineEnd eol) : IsLineEnd first := by
  cases h with
  | gap hfirst _ _ => exact hfirst ▸ heol
  | line hfirst _ _ => exact .inl hfirst

/-- What edits into a block leave: the new lines in their slot, and the closing brace below them. -/
structure Seat (source : Text) (s : Scope) (unit eol head post front first indent : Text) :
    Prop where
  slot : Slot eol head front first
  isIndent : ∀ c ∈ indent, Text.isIndent c = true
  apply_eq : ∀ (items : List Property) (hash : Text → UInt64), items ≠ [] →
    Edit.apply source [(place source s items unit eol hash).1] hash =
      .ok (filled (front ++ first) (eol ++ (indent ++ '}' :: post)) eol
        (innerIndent source s unit) unit items)

theorem apply_appendBeforeClose_line {source front gap post : Text} (s : Scope) {b : Braces}
    (hsource : source = front ++ '\n' :: (gap ++ '}' :: post))
    (hgap : ∀ c ∈ gap, Text.isIndent c = true)
    (hclose : Text.size (front ++ '\n' :: gap) = b.closing) (hopen : b.opening ≤ Text.size front)
    (items : List Property) (unit eol : Text) (hash : Text → UInt64) :
    Edit.apply source [appendBeforeClose source s b items unit eol hash] hash =
      .ok (front ++ '\n' :: (unlines eol
        (Property.renderAll (innerIndent source s unit) unit items) ++ (gap ++ '}' :: post))) := by
  have hlast : Text.lastLine (front ++ '\n' :: gap) = gap := by
    rw [Text.lastLine_append_lineFeed]
    refine Text.lastLine_of_all fun c hc => ?_
    rintro rfl
    exact absurd (hgap _ hc) (by decide)
  have hcut : source = (front ++ '\n' :: gap) ++ '}' :: post := by simp [hsource]
  have hsize : Text.size (front ++ ['\n']) = Text.size front + 1 := by
    rw [Text.size_append]
    rfl
  have hstart : source.lineStart b.closing = Text.size (front ++ ['\n']) := by
    rw [← hclose, hcut, Text.lineStart_append]
    simp [hlast]
  have hbegins : source.startsLine b.closing = true := by
    rw [← hclose, hcut, Text.startsLine_append, hlast]
    exact List.all_eq_true.mpr hgap
  have hline : (decide (source.lineStart b.closing > b.opening) &&
      source.startsLine b.closing) = true := by
    rw [hbegins, Bool.and_true, decide_eq_true_eq]
    omega
  have happly := Edit.apply_replace (front ++ ['\n']) [] (gap ++ '}' :: post)
    (unlines eol (Property.renderAll (innerIndent source s unit) unit items)) hash
  simp only [List.nil_append, List.append_assoc, List.singleton_append, ← hsource] at happly
  simp only [appendBeforeClose, if_pos hline]
  rw [hstart]
  exact happly

section Braces

variable {source head post : Text} {s : Scope} {b : Braces} (unit eol : Text)
  (hs : s.Braced source) (hb : s.braces = some b) (hsource : source = head ++ '}' :: post)
  (hsize : Text.size head = b.closing)

include hs hb hsource hsize

private theorem exists_seat_expandInline (hempty : s.isEmptyInline source = true) :
    ∃ front first indent, Seat source s unit eol head post front first indent := by
  obtain ⟨a, inner, c, hcut, hopen, hclose⟩ := hs b hb
  have hmarks : ('{').utf8Size = 1 ∧ ('}').utf8Size = 1 := ⟨rfl, rfl⟩
  obtain ⟨rfl, hpost⟩ : head = a ++ '{' :: inner ∧ '}' :: post = '}' :: c := by
    refine Text.append_inj_of_size (by rw [← hsource, hcut]; simp) ?_
    rw [Text.size_append, Text.size_cons]
    omega
  obtain ⟨-, rfl⟩ := List.cons.inj hpost
  have hlands := lands_place hs
  simp only [place, hb, if_pos hempty] at hlands
  have hparts := hempty
  simp only [Scope.isEmptyInline, hb, slice_inside hcut hopen hclose, Bool.and_eq_true,
    Bool.not_eq_true'] at hparts
  obtain ⟨⟨hnone, hline⟩, hblank⟩ := hparts
  have hgap : ∀ c ∈ inner, isGap c = true := by
    intro c hc
    have hne : c ≠ '\n' := by
      rintro rfl
      simp [hc] at hline
    simp [isGap, List.all_eq_true.mp hblank c hc, hne]
  have hinner : innerIndent source s unit = source.lineIndent s.span.start ++ unit := by
    rw [innerIndent, childIndents, List.isEmpty_iff.mp hnone]
    rfl
  refine ⟨a ++ ['{'], eol, source.lineIndent s.span.start,
    .gap rfl (by simp : a ++ '{' :: inner = (a ++ ['{']) ++ inner) hgap,
    fun c hc => Text.isIndent_of_mem_lineIndent hc, fun items hash hitems => ?_⟩
  have happly := (hlands hash items unit eol).apply_eq (a := a) (m := '{' :: (inner ++ ['}']))
    (b := post) (by simp [hcut]) hopen.symm (by
      change b.closing + 1 = _
      rw [Text.size_cons, Text.size_append, Text.size_cons, Text.size_nil]
      omega)
  simp only [place, hb, if_pos hempty]
  rw [happly, text_expandInline, unlines_eq eol (Property.renderAll_ne_nil hitems _ _), hinner,
    filled]
  simp

private theorem exists_seat_appendBeforeClose (hempty : ¬ s.isEmptyInline source = true) :
    ∃ front first indent, Seat source s unit eol head post front first indent := by
  by_cases hline : (decide (source.lineStart b.closing > b.opening) &&
    source.startsLine b.closing) = true
  · have hbegins := hline
    rw [Bool.and_eq_true, decide_eq_true_eq, ← hsize, hsource, Text.startsLine_append] at hbegins
    obtain ⟨u, hu, hor⟩ := Text.exists_lastLine head
    rw [Text.lineStart_append _ hu] at hbegins
    obtain ⟨v, rfl⟩ : ∃ v, u = v ++ ['\n'] := by
      obtain rfl | hv := hor
      · simp at hbegins
      · exact hv
    have hlast : ∀ c ∈ Text.lastLine head, Text.isIndent c = true :=
      List.all_eq_true.mp hbegins.2
    have hhead : head = v ++ '\n' :: Text.lastLine head := by simpa using hu
    have hopen : b.opening ≤ Text.size v := by
      have := hbegins.1
      rw [Text.size_append] at this
      have hone : Text.size ['\n'] = 1 := rfl
      omega
    refine ⟨v, ['\n'], Text.lastLine head,
      .line rfl hhead fun c hc => isGap_of_isIndent (hlast c hc), hlast,
      fun items hash hitems => ?_⟩
    have hsource' : source = v ++ '\n' :: (Text.lastLine head ++ '}' :: post) := by
      rw [hsource, ← List.cons_append, ← List.append_assoc, ← hhead]
    simp only [place, hb, if_neg hempty]
    rw [apply_appendBeforeClose_line s hsource' hlast (by rw [← hhead, hsize]) hopen,
      unlines_eq eol (Property.renderAll_ne_nil hitems _ _), filled]
    simp
  · -- the brace shares its line with what stands before it
    have htake : source.takeBytes b.closing = head := by
      rw [← hsize, hsource, Text.takeBytes_size_append]
    obtain ⟨u, hu, -⟩ := Text.exists_trailing Text.isIndent head
    have hgap : ∀ c ∈ (head.reverse.takeWhile Text.isIndent).reverse, Text.isIndent c = true :=
      fun c hc => Text.of_mem_trailing hc
    have hlands := lands_place hs
    simp only [place, hb, if_neg hempty, appendBeforeClose, if_neg hline, htake] at hlands
    refine ⟨u, eol, source.lineIndent s.span.start,
      .gap rfl hu fun c hc => isGap_of_isIndent (hgap c hc),
      fun c hc => Text.isIndent_of_mem_lineIndent hc, fun items hash _ => ?_⟩
    simp only [place, hb, if_neg hempty, appendBeforeClose, if_neg hline, htake]
    generalize (head.reverse.takeWhile Text.isIndent).reverse = gap at hu hlands ⊢
    have hstop : b.closing = Text.size u + Text.size gap := by
      rw [← hsize, hu, Text.size_append]
    rw [(hlands hash items unit eol).apply_eq (a := u) (m := gap) (b := '}' :: post)
      (by rw [hsource, hu, List.append_assoc])
      (by change b.closing - Text.size gap = Text.size u; omega) hstop]
    simp [Edit.replace, innerIndent, filled]

theorem exists_seat :
    ∃ front first indent, Seat source s unit eol head post front first indent := by
  by_cases hempty : s.isEmptyInline source = true
  · exact exists_seat_expandInline unit eol hs hb hsource hsize hempty
  · exact exists_seat_appendBeforeClose unit eol hs hb hsource hsize hempty

end Braces

/-- Lines can be set behind a document: right there if it ends with a line end, else behind one. -/
inductive Ending (eol source before after : Text) : Prop where
  | line : (source = [] ∨ ∃ front, source = front ++ ['\n']) → before = source → after = eol →
      Ending eol source before after
  | bare {front c} : source = front ++ [c] → c ≠ '\n' → before = source ++ eol → after = [] →
      Ending eol source before after

theorem Ending.lastLine {eol source before after : Text} (h : Ending eol source before after)
    (heol : IsLineEnd eol) : Text.lastLine before = [] := by
  cases h with
  | line hlast hbefore _ =>
    obtain hnil | ⟨front, hfront⟩ := hlast
    · rw [hbefore, hnil]
      rfl
    · rw [hbefore, hfront]
      exact Text.lastLine_append_lineFeed front []
  | bare _ _ hbefore _ => rw [hbefore, heol.lastLine_append]

/-- What edits at the end of the document leave. -/
theorem exists_ending (source : Text) (unit eol : Text) :
    ∃ before after, Ending eol source before after ∧
      ∀ (items : List Property) (hash : Text → UInt64),
        Edit.apply source [appendToDocument source items unit eol] hash =
          .ok (filled before after eol [] unit items) := by
  have happly (text : Text) (hash : Text → UInt64) :
      Edit.apply source [Edit.insertion source.size text] hash = .ok (source ++ text) := by
    have h := Edit.apply_replace source [] [] text hash
    simp only [List.append_nil] at h
    exact h
  cases hlast : source.getLast? with
  | none =>
    refine ⟨source, eol, .line (.inl (List.getLast?_eq_none_iff.mp hlast)) rfl rfl,
      fun items hash => ?_⟩
    simp only [appendToDocument, hlast, happly, filled]
  | some c =>
    obtain ⟨front, hfront⟩ := List.getLast?_eq_some_iff.mp hlast
    by_cases hc : c = '\n'
    · subst hc
      refine ⟨source, eol, .line (.inr ⟨front, hfront⟩) rfl rfl, fun items hash => ?_⟩
      simp only [appendToDocument, hlast, happly, filled]
    · refine ⟨source ++ eol, [], .bare hfront hc rfl rfl, fun items hash => ?_⟩
      simp only [appendToDocument, hlast, happly, filled]
      simp

/-! ## The tree of the outcome -/

/-- In front of its slot a block reads as a body that ends with a line end. -/
theorem Slot.reads {ls : List Lexeme} {eol head front first post rest : Text}
    {us : List Token} (h : Slot eol head front first) (heol : IsLineEnd eol)
    (hls : Begins ls ('}' :: post)) (htexts : texts ls = head) {xs : List Token} {o : Token}
    {inside : Body} {after : List Token} (ho : o.isSymbol '{') (hinside : inside.Valid after)
    (hsig : significant (Token.place 0 ls) = xs ++ o :: inside.tokens)
    (hrest : Reads AllStand (Text.size (front ++ first)) rest us) :
    ∃ b : Body, Reads Begins 0 (front ++ (first ++ rest)) (xs ++ o :: (b.tokens ++ us)) ∧
      (∀ after', b.Valid after') ∧ b.nodes = inside.nodes := by
  rw [← Nat.zero_add (Text.size (front ++ first))] at hrest
  cases h with
  | gap hfirst hhead hgap =>
    obtain ⟨ks, rfl, hks, hsame⟩ := hls.trimmed (by decide) (htexts.trans hhead) hgap
    have hreads := (Lexeme.reads_of_lexemes hks 0).line Lexeme.continues_begins (hfirst ▸ heol)
      hrest
    generalize _ - 1 = m at hreads
    refine ⟨inside.append (.separator (lineFeed m) .nil), ?_, valid_append_lineFeed hinside m, ?_⟩
    · rw [hsame, hsig] at hreads
      simpa [Body.tokens_append, Body.tokens] using hreads
    · simp [Body.nodes_append, Body.nodes]
  | line hfirst hhead hgap =>
    obtain ⟨ts, hreads, hts⟩ := Lexeme.reads_before_line hls (htexts.trans hhead) hgap
    have hcut : xs ++ o :: inside.tokens = ts ++ [lineFeed (Text.size front)] := hsig.symm.trans hts
    have hsize : 0 + Text.size (front ++ first) - 1 = Text.size front := by
      have hone : Text.size ['\n'] = 1 := rfl
      rw [hfirst, Text.size_append, hone]
      omega
    have hlines := hreads.line Lexeme.continues_begins (.inl hfirst) hrest
    rw [hsize] at hlines
    refine ⟨inside, ?_, fun after' => hinside.congr (.inr ⟨lineFeed (Text.size front), ?_, rfl⟩),
      rfl⟩
    · have htokens : xs ++ o :: (inside.tokens ++ us) =
          ts ++ lineFeed (Text.size front) :: us := by
        simpa using congrArg (· ++ us) hcut
      rwa [htokens]
    · have hlast : ((xs ++ [o]) ++ inside.tokens).getLast? = some (lineFeed (Text.size front)) := by
        rw [List.append_assoc, List.singleton_append, hcut, List.getLast?_concat]
      by_cases hnil : inside.tokens = []
      · rw [hnil, List.append_nil, List.getLast?_concat] at hlast
        obtain rfl := Option.some.inj hlast
        simp [Token.isSymbol, lineFeed] at ho
      · rwa [List.getLast?_append_of_ne_nil _ hnil] at hlast

/-- A script cut before the closing brace of the block that a path leads to. -/
structure Cut (d : Document) (s : Scope) (path : List Nat) (b : Body) (front : List Token)
    (o : Token) (inside : Body) (c : Token) (rear : List Token) (L M : List Lexeme) : Prop where
  opens : Body.Opens [] b path front o inside c rear
  nodes : b.nodes = d.nodes
  braces : s.braces = some ⟨o.start, c.start⟩
  children : s.children = inside.nodes
  start : ∃ t ∈ front, t.start = s.span.start
  source : d.source = texts L ++ '}' :: texts M
  closing : Text.size (texts L) = c.start
  before : Begins L ('}' :: texts M)
  after : AllStand (c.toLexeme :: M) []
  significant_before : significant (Token.place 0 L) = front ++ o :: inside.tokens
  significant_after : significant (Token.place c.stop M) = rear

theorem exists_cut {source : Text} {d : Document} (hparse : Document.parse source = .ok d)
    {s : Scope} {i : Nat} {path : List Nat} (hpath : d.root.at? (i :: path) = some s) :
    ∃ b front o inside c rear L M, Cut d s (i :: path) b front o inside c rear L M := by
  obtain ⟨ls, b, hls, hb, rfl⟩ := Grammar.exists_derivation_of_parse hparse
  obtain ⟨rfl, hbegins⟩ := Lexeme.ofSource_eq_ok_iff.mp hls
  obtain ⟨front, o, inside, c, rear, hopens, hbraces, hinside, hstart⟩ :=
    Body.exists_opens hb.2 hpath
  have hcut : significant (Token.place 0 ls) = (front ++ o :: inside.tokens) ++ c :: rear := by
    rw [← hb.1, hopens.tokens]
    simp
  obtain ⟨L, M, rfl, hclosing, hL, hM⟩ := Lexeme.exists_split hcut
  have hc := Lexeme.toLexeme_of_isSymbol hopens.braced.2
  have htext : c.text = ['}'] := by rw [hc]
  obtain ⟨hbefore, hafter⟩ := hbegins.split (by simp [hc])
  rw [List.append_nil, htext] at hbefore
  exact ⟨b, front, o, inside, c, rear, L, M, hopens, rfl, hbraces, hinside, hstart,
    by simp [htext], (hclosing.trans (Nat.zero_add _)).symm, hbefore, hafter, hL, hM⟩

/-- New lines are set into the line of a closing brace, or behind the document. -/
inductive Gate (eol source before after : Text) : Prop where
  | slot {head post front first} : source = head ++ '}' :: post → Slot eol head front first →
      before = front ++ first → Gate eol source before after
  | ending : Ending eol source before after → Gate eol source before after

theorem Gate.lastLine {eol source before after : Text} (h : Gate eol source before after)
    (heol : IsLineEnd eol) : Text.lastLine before = [] := by
  cases h with
  | slot _ hslot hbefore => rw [hbefore, (hslot.isLineEnd heol).lastLine_append]
  | ending hending => exact hending.lastLine heol

/-- New lines go between `before` and `after`, and are new nodes at the end of the scope. -/
structure Host (d : Document) (s : Scope) (path : List Nat) (unit eol before after inner : Text) :
    Prop where
  gate : Gate eol d.source before after
  isIndent : ∀ c ∈ inner, Text.isIndent c = true
  apply_eq : ∀ (items : List Property) (hash : Text → UInt64), items ≠ [] →
    Edit.apply d.source [(place d.source s items unit eol hash).1] hash =
      .ok (filled before after eol inner unit items)
  parse_eq : ∀ items : List Property, Property.AllWellFormed items →
    ∃ a b, Document.parse (filled before after eol inner unit items) =
      .ok ⟨filled before after eol inner unit items, Node.refill a b
        (s.children ++ Property.allNodes eol unit (Text.size before) inner items) path d.nodes⟩

section Outcome

variable {source : Text} {d : Document} {items : List Property} {unit eol : Text}
  (hparse : Document.parse source = .ok d) (hitems : items ≠ [])
  (hwf : Property.AllWellFormed items) (hunit : ∀ c ∈ unit, Text.isIndent c = true)
  (heol : IsLineEnd eol)

include hwf hunit heol

/-- New lines in their slot are new nodes at the end of the block. -/
theorem parse_filled {s : Scope} {path : List Nat} {b : Body} {xs : List Token} {o : Token}
    {inside : Body} {c : Token} {rear : List Token} {L M : List Lexeme}
    (hcut : Cut d s path b xs o inside c rear L M) {front first inner indent : Text}
    (hslot : Slot eol (texts L) front first) (hinner : ∀ c ∈ inner, Text.isIndent c = true)
    (hindent : ∀ c ∈ indent, Text.isIndent c = true) :
    Document.parse (filled (front ++ first) (eol ++ (indent ++ '}' :: texts M)) eol inner unit
        items) = .ok ⟨filled (front ++ first) (eol ++ (indent ++ '}' :: texts M)) eol inner unit
        items, Node.refill c.start
          (Text.size (filled (front ++ first) (eol ++ indent) eol inner unit items))
          (s.children ++ Property.allNodes eol unit (Text.size (front ++ first)) inner items) path
          d.nodes⟩ := by
  generalize hq : Text.size (filled (front ++ first) (eol ++ indent) eol inner unit items) = q
  have hc := Lexeme.toLexeme_of_isSymbol hcut.opens.braced.2
  have htext : c.text = ['}'] := by rw [hc]
  have hle : ∀ t ∈ c :: (rear ++ []), c.start ≤ t.start := by
    intro t ht
    rw [List.append_nil] at ht
    obtain rfl | ht := List.mem_cons.mp ht
    · exact Nat.le_refl _
    · rw [← hcut.significant_after] at ht
      have hstop := Token.start_of_mem_place (List.mem_of_mem_filter ht)
      rw [Token.stop] at hstop
      omega
  obtain ⟨b₂, hvalid₂, hreads₂, hnodes₂⟩ := Property.yields_renderAll heol hunit items hwf
    (Text.size (front ++ first)) inner hinner
  have hreads₃ : Reads AllStand q ('}' :: texts M) ((c :: rear).map (Token.move c.start q)) := by
    have hreads := Lexeme.reads_of_lexemes hcut.after q
    have hplace := Token.place_move (b := q) (Nat.le_refl c.start) (c.toLexeme :: M)
    rw [Nat.sub_self, Nat.zero_add] at hplace
    rw [← hplace, Token.significant_move, Lexeme.significant_place_solid (by rw [hc]; rfl),
      Lexeme.texts_cons, htext] at hreads
    have hrear := hcut.significant_after
    rw [Token.stop, htext] at hrear
    rw [hrear] at hreads
    exact hreads
  have hoffset : Text.size (front ++ first) + Text.size (Text.join eol
      (Property.renderAll inner unit items) ++ eol) + Text.size indent = q := by
    simp [← hq, filled, Nat.add_assoc]
  have hreads₄ := hreads₂.line Lexeme.continues_allStand heol (b := indent ++ '}' :: texts M)
    (Lexeme.Reads.indent (by rwa [hoffset]) hindent fun x hx => by
      obtain rfl : '}' = x := by simpa using hx
      decide)
  generalize _ - 1 = m at hreads₄
  obtain ⟨b₁, hreads, hvalid₁, hnodes₁⟩ := hslot.reads heol hcut.before rfl hcut.opens.braced.1
    hcut.opens.valid hcut.significant_before hreads₄
  obtain ⟨b', hb', htokens, hnodes⟩ := hcut.opens.refill c.start q
    (b₁.append (b₂.append (.separator (lineFeed m) .nil))) hle
    (Body.Valid.append (hvalid₁ _) (valid_append_lineFeed hvalid₂ m _))
  have hsame : b'.nodes = Node.refill c.start q (s.children ++
      Property.allNodes eol unit (Text.size (front ++ first)) inner items) path d.nodes := by
    rw [hnodes, hcut.nodes, hcut.children, Body.nodes_append, Body.nodes_append, hnodes₁, hnodes₂]
    simp [Body.nodes]
  rw [← hsame]
  refine Lexeme.parse_of_reads ?_ hb'
  rw [htokens, filled]
  simpa [Body.tokens_append, Body.tokens] using hreads

theorem parse_filled_document (hparse : Document.parse source = .ok d) {before after : Text}
    (h : Ending eol source before after) :
    Document.parse (filled before after eol [] unit items) =
      .ok ⟨filled before after eol [] unit items,
        d.nodes ++ Property.allNodes eol unit (Text.size before) [] items⟩ := by
  obtain ⟨ls, b, hls, hb, rfl⟩ := Grammar.exists_derivation_of_parse hparse
  obtain ⟨rfl, hbegins⟩ := Lexeme.ofSource_eq_ok_iff.mp hls
  obtain ⟨b₂, hvalid₂, hreads₂, hnodes₂⟩ := Property.yields_renderAll heol hunit items hwf
    (Text.size before) [] (by simp)
  simp only [← hnodes₂]
  cases h with
  | line hlast hbefore hafter =>
    subst hbefore hafter
    have hreads₃ := hreads₂.line Lexeme.continues_allStand heol (Lexeme.reads_nil _)
    generalize _ - 1 = m at hreads₃
    have hvalid₃ := valid_append_lineFeed hvalid₂ m []
    have hnodes : (b.append (b₂.append (.separator (lineFeed m) .nil))).nodes =
        b.nodes ++ b₂.nodes := by
      simp [Body.nodes_append, Body.nodes]
    have htokens₃ : (b₂.append (.separator (lineFeed m) .nil)).tokens =
        b₂.tokens ++ [lineFeed m] := by
      simp [Body.tokens_append, Body.tokens]
    rw [← htokens₃, List.append_nil] at hreads₃
    rw [← hnodes]
    obtain hnil | ⟨front, hfront⟩ := hlast
    · have hempty : ls = [] := Lexeme.eq_nil_of_texts (Lexeme.ofSource_texts hls).2 hnil
      obtain rfl : b = .nil := Body.eq_nil_of_tokens (by rw [hb.1, hempty]; rfl)
      rw [hnil] at hreads₃ ⊢
      exact Lexeme.parse_of_reads (hreads₃.begins hvalid₃) hvalid₃
    · obtain ⟨ts, hreads₁, hts⟩ := Lexeme.reads_before_line hbegins hfront (by simp)
      have htokens : b.tokens = ts ++ [lineFeed (Text.size front)] := hb.1.trans hts
      have hsize : 0 + Text.size (front ++ ['\n']) - 1 = Text.size front := by
        have hone : Text.size ['\n'] = 1 := rfl
        rw [Text.size_append, hone]
        omega
      have hreads := hreads₁.line Lexeme.continues_begins (.inl rfl)
        (by rwa [Nat.zero_add, ← hfront])
      have hvalid : b.Valid ((b₂.append (.separator (lineFeed m) .nil)).tokens ++ []) :=
        hb.2.congr (.inr ⟨_, by rw [htokens, List.getLast?_concat], rfl⟩)
      refine Lexeme.parse_of_reads ?_ (hvalid.append hvalid₃)
      rw [hsize] at hreads
      rw [Body.tokens_append, htokens, filled, hfront]
      simpa using hreads
  | bare hlast hc hbefore hafter =>
    subst hbefore hafter
    have hreads := (Lexeme.reads_of_lexemes hbegins 0).line Lexeme.continues_begins heol
      (by rwa [Nat.zero_add])
    generalize _ - 1 = m at hreads
    have hnodes : ((b.append (.separator (lineFeed m) .nil)).append b₂).nodes =
        b.nodes ++ b₂.nodes := by
      simp [Body.nodes_append, Body.nodes]
    rw [← hnodes]
    refine Lexeme.parse_of_reads ?_ (Body.Valid.append (valid_append_lineFeed hb.2 m _) hvalid₂)
    rw [Body.tokens_append, Body.tokens_append, hb.1, filled]
    simpa [Body.tokens] using hreads

omit hwf in
include hparse in
/-- Every scope has a place for new lines. -/
theorem exists_host {s : Scope} (hs : s ∈ d.root.walk) {path : List Nat}
    (hpath : d.root.at? path = some s) :
    ∃ before after inner, Host d s path unit eol before after inner := by
  have hbraced := Document.braced_of_parse hparse s hs
  obtain rfl := Document.source_of_parse hparse
  cases path with
  | nil =>
    obtain rfl : d.root = s := Option.some.inj hpath
    obtain ⟨before, after, hending, happly⟩ := exists_ending d.source unit eol
    exact ⟨before, after, [], .ending hending, by simp, fun items hash _ => happly items hash,
      fun items hwf => ⟨0, 0, parse_filled_document hwf hunit heol hparse hending⟩⟩
  | cons i path =>
    obtain ⟨b, front, o, inside, c, rear, L, M, hcut⟩ := exists_cut hparse hpath
    obtain ⟨before, first, indent, hseat⟩ := exists_seat unit eol hbraced hcut.braces hcut.source
      hcut.closing
    exact ⟨before ++ first, _, _, .slot hcut.source hseat.slot rfl, isIndent_innerIndent hunit,
      hseat.apply_eq, fun items hwf => ⟨_, _, parse_filled hwf hunit heol hcut hseat.slot
        (isIndent_innerIndent hunit) hseat.isIndent⟩⟩

include hparse hitems

theorem parse_into_scope (hash : Text → UInt64) {s : Scope} (hs : s ∈ d.root.walk)
    {path : List Nat} (hpath : d.root.at? path = some s) :
    ∃ out d', Edit.apply source [(place source s items unit eol hash).1] hash = .ok out ∧
      Document.parse out = .ok d' ∧ Node.shapes d'.nodes =
        Shape.appendAt (Property.allShapes items) path (Node.shapes d.nodes) := by
  obtain rfl := Document.source_of_parse hparse
  obtain ⟨before, after, inner, hhost⟩ := exists_host hparse hunit heol hs hpath
  obtain ⟨a, b, hparse'⟩ := hhost.parse_eq items hwf
  refine ⟨_, _, hhost.apply_eq items hash hitems, hparse', ?_⟩
  rw [← Property.shapes_allNodes eol unit items hwf]
  exact Node.shapes_refill hpath _

end Outcome

/-! ## Plans -/

theorem validate_ofPath {names : List Text} (h : ∀ n ∈ names, n.IsDotted) :
    (Pattern.ofPath names).validate = .ok () := by
  induction names with
  | nil => rfl
  | cons n names ih =>
    obtain ⟨hne, hblank⟩ := (h n (by simp)).isBlank
    have hcheck : Pattern.checkName n = .ok () := by
      obtain ⟨c, r, rfl⟩ := List.exists_cons_of_ne_nil hne
      have hany : (c :: r).any Text.isBlank = false := by
        rw [List.any_eq_false]
        intro x hx
        simp [hblank x hx]
      have hall : Text.isBlankText (c :: r) = false := by
        simp [Text.isBlankText, hblank c (by simp)]
      rw [Pattern.checkName, hall, hany]
      rfl
    rw [Pattern.ofPath, Pattern.validate, hcheck]
    change ((Pattern.ofPath names).validate >>= fun _ => Pattern.leaf.validate) = _
    rw [ih fun m hm => h m (by simp [hm])]
    rfl

theorem exists_make {d : Document} {pattern : Pattern} {names : List Text}
    {properties : List Property} (hvalid : pattern.validate = .ok ())
    (hchain : pattern.chain = .ok names) (hproperties : Property.validateAll properties = .ok ())
    (fallback : Text) (hash : Text → UInt64) :
    ∃ plan, make d pattern properties fallback hash = .ok plan ∧
      plan.created = (target d names).2 ∧
      let items := Property.nest plan.created properties
      (items = [] ∧ plan.edits = []) ∨ (items ≠ [] ∧ plan.edits =
        [(place d.source (target d names).1 items (unit d (target d names).1 fallback)
          (lineEnd d.source) hash).1]) := by
  obtain ⟨plan, hmake⟩ : ∃ plan, make d pattern properties fallback hash = .ok plan := by
    rw [make, hvalid, hchain, hproperties]
    simp only [Except.mapError, bind, Except.bind, pure, Except.pure]
    split <;> exact ⟨_, rfl⟩
  obtain ⟨chain, hchain', hcreated, hedits⟩ := make_eq_ok hmake
  obtain rfl := Except.ok.inj (hchain.symm.trans hchain')
  exact ⟨plan, hmake, hcreated, hcreated ▸ hedits⟩

/-- Injection appends to the tree. Let a script parse, let a pattern have one path of dotted names,
let properties be valid and well formed, and let the fallback indent. Then there is a plan, its
edits land, and the outcome parses. With `target` the first scope that the longest possible
beginning of the path leads to, the plan creates a block for each name that is left, and the tree
of the outcome has the shape of the tree before, with the properties, in these blocks, at the end
of the target. -/
theorem injection_appends {source : Text} {d : Document} (hparse : Document.parse source = .ok d)
    {pattern : Pattern} {names : List Text} (hchain : pattern.chain = .ok names)
    (hnames : ∀ n ∈ names, n.IsDotted) {properties : List Property}
    (hvalid : Property.validateAll properties = .ok ())
    (hwf : Property.AllWellFormed properties) {fallback : Text}
    (hfallback : ∀ c ∈ fallback, Text.isIndent c = true) (hash : Text → UInt64) :
    ∃ plan out d', make d pattern properties fallback hash = .ok plan ∧
      Edit.apply source plan.edits hash = .ok out ∧ Document.parse out = .ok d' ∧
      ∃ k target path, k ≤ names.length ∧
        (d.find (.ofPath (names.take k))).head? = some target ∧
        (∀ j, k < j → j ≤ names.length → d.find (.ofPath (names.take j)) = []) ∧
        plan.created = names.drop k ∧ d.root.at? path = some target ∧
        Node.shapes d'.nodes = Shape.appendAt
          (Shape.wrap plan.created (Property.allShapes properties)) path (Node.shapes d.nodes) := by
  have hpattern : pattern.validate = .ok () := by
    rw [Pattern.eq_ofPath_of_chain hchain]
    exact validate_ofPath hnames
  have hsource : d.source = source := by
    obtain ⟨ls, b, -, -, rfl⟩ := Grammar.exists_derivation_of_parse hparse
    rfl
  obtain ⟨plan, hmake, hcreated, hedits⟩ :=
    exists_make (d := d) hpattern hchain hvalid fallback hash
  obtain ⟨k, hk, hmissing, hhead, hnone⟩ := exists_deepest d names names.length
  have htarget := target_mem_walk d names
  obtain ⟨path, hpath⟩ := Scope.exists_path htarget
  have hcreated' : plan.created = names.drop k := hcreated.trans hmissing
  have hdotted : ∀ n ∈ plan.created, n.IsDotted := fun n hn =>
    hnames n (List.mem_of_mem_drop (hcreated' ▸ hn))
  obtain ⟨out, d', happly, hparse', hshapes⟩ : ∃ out d',
      Edit.apply source plan.edits hash = .ok out ∧ Document.parse out = .ok d' ∧
      Node.shapes d'.nodes = Shape.appendAt
        (Shape.wrap plan.created (Property.allShapes properties)) path (Node.shapes d.nodes) := by
    rw [← Property.allShapes_nest hdotted]
    obtain ⟨hnil, hedits⟩ | ⟨hne, hedits⟩ := hedits
    · refine ⟨source, d, by rw [hedits, Edit.apply_nil], hparse, ?_⟩
      rw [hnil, Property.allShapes, Shape.appendAt_nil]
    · rw [hedits, hsource]
      exact parse_into_scope hparse hne (Property.wellFormed_nest hdotted hwf)
        (isIndent_unit hfallback) (isLineEnd_lineEnd source) hash htarget hpath
  exact ⟨plan, out, d', hmake, happly, hparse', k, _, path, hk, hhead, hnone, hcreated', hpath,
    hshapes⟩

/-- A first line of its own, a block that shares its line, and names that are not there yet. -/
theorem injection_appends_nested :
    ∃ d plan out d', Document.parse "#!x\na \x7b b 1 \x7d // c".toList = .ok d ∧
      make d (.ofPath ["a".toList, "c.d".toList])
        [.block "e(1)".toList [.line "f".toList "2".toList .property]] ['\t'] (fun _ => 0) =
          .ok plan ∧
      Edit.apply "#!x\na \x7b b 1 \x7d // c".toList plan.edits (fun _ => 0) = .ok out ∧
      Document.parse out = .ok d' ∧ ∃ path, Node.shapes d'.nodes = Shape.appendAt
        (Shape.wrap plan.created
          (Property.allShapes [.block "e(1)".toList [.line "f".toList "2".toList .property]]))
        path (Node.shapes d.nodes) := by
  have hparse : ∃ d, Document.parse "#!x\na \x7b b 1 \x7d // c".toList = .ok d := ⟨_, by cbv⟩
  have hchain : (Pattern.ofPath ["a".toList, "c.d".toList]).chain =
      .ok ["a".toList, "c.d".toList] := rfl
  have hnames : ∀ n ∈ ["a".toList, "c.d".toList], Text.IsDotted n := by
    intro n hn
    have : n = "a".toList ∨ n = "c.d".toList := by simpa using hn
    obtain rfl | rfl := this
    · exact ⟨['a'], [], rfl, ⟨'a', [], rfl, by decide, by simp⟩, by simp⟩
    · refine ⟨['c'], [['d']], rfl, ⟨'c', [], rfl, by decide, by simp⟩, ?_⟩
      intro i hi
      obtain rfl := List.mem_singleton.mp hi
      exact ⟨'d', [], rfl, by decide, by simp⟩
  have hwf : Property.AllWellFormed
      [.block "e(1)".toList [.line "f".toList "2".toList .property]] :=
    ⟨⟨⟨_, _, _, _, _, _, by cbv, rfl, rfl, rfl, rfl⟩, ⟨_, _, _, by cbv, rfl, rfl⟩, trivial⟩,
      trivial⟩
  have hfallback : ∀ c ∈ ['\t'], Text.isIndent c = true :=
    List.forall_mem_singleton.mpr (by decide)
  obtain ⟨d, hd⟩ := hparse
  obtain ⟨plan, out, d', hmake, happly, hout, -, -, path, -, -, -, -, -, hshapes⟩ :=
    injection_appends hd hchain hnames rfl hwf hfallback fun _ => 0
  exact ⟨d, plan, out, d', hd, hmake, happly, hout, path, hshapes⟩

end Graft.Plan
