import Graft.Proofs.Spans
import Graft.Proofs.Target
import Graft.Script
import Mathlib

/-!
# Edits that land

The one edit of a plan always finds what it expects, and all it takes away is blank: the indentation
before a brace, or what stands between two braces on one line. So an injection never fails for its
edit, and nothing of the script is lost.
-/
namespace Graft

/-! ## One edit -/

namespace Edit

theorem apply_nil (t : Text) (hash : Text → UInt64) : apply t [] hash = .ok t := rfl

private theorem check_replace (a m b text : Text) (hash : Text → UInt64) :
    check (a ++ (m ++ b)) (replace a.size (a.size + m.size) text m hash) hash = .ok () := by
  have hstart := Text.isBoundary_size_append a (m ++ b)
  have hstop : Text.isBoundary (a.size + m.size) (a ++ (m ++ b)) = true := by
    rw [← Text.size_append, ← List.append_assoc]
    exact Text.isBoundary_size_append (a ++ m) b
  have hfound := Text.slice_append a m b
  simp [check, replace, hstart, hstop, hfound, Expected.holds_ofText]

theorem apply_replace (a m b text : Text) (hash : Text → UInt64) :
    apply (a ++ (m ++ b)) [replace a.size (a.size + m.size) text m hash] hash =
      .ok (a ++ (text ++ b)) := by
  have hsplice : splice (a ++ (m ++ b)) (replace a.size (a.size + m.size) text m hash) =
      a ++ (text ++ b) := by
    rw [splice, replace, Text.takeBytes_size_append, ← Text.size_append, ← List.append_assoc a m b,
      Text.dropBytes_size_append, List.append_assoc]
  have hcheck := check_replace a m b text hash
  generalize replace a.size (a.size + m.size) text m hash = e at hsplice hcheck
  generalize a ++ (m ++ b) = t at hsplice hcheck
  change ((check t e hash >>= fun _ => pure PUnit.unit) >>= fun _ => .ok () >>= fun _ =>
    pure (splice t e)) = _
  rw [hcheck, hsplice]
  rfl

end Edit

/-! ## Scopes with their braces -/

/-- The braces of the scope are in the source, the opening one first. -/
def Scope.Braced (source : Text) (s : Scope) : Prop :=
  ∀ b ∈ s.braces, ∃ a inner c, source = a ++ '{' :: (inner ++ '}' :: c) ∧
    Text.size a = b.opening ∧ Text.size a + 1 + Text.size inner = b.closing

private theorem Scope.braced_of_asciiAt? {source : Text} {s : Scope}
    (h : ∀ b ∈ s.braces, source.asciiAt? b.opening = some '{' ∧
      source.asciiAt? b.closing = some '}' ∧ b.opening < b.closing) : s.Braced source := by
  intro b hb
  obtain ⟨hopen, hclose, hlt⟩ := h b hb
  obtain ⟨a, t, rfl, ha, -⟩ := Text.asciiAt?_eq_some_iff.mp hopen
  obtain ⟨u, c, hu, hsize, -⟩ := Text.asciiAt?_eq_some_iff.mp hclose
  obtain ⟨v, rfl, hv⟩ | ⟨v, hv, hv'⟩ := List.append_eq_append_iff.mp hu
  · cases v with
    | nil =>
      rw [List.append_nil] at hsize
      omega
    | cons d inner =>
      obtain ⟨rfl, rfl⟩ := List.cons.inj hv
      refine ⟨a, inner, c, rfl, ha, ?_⟩
      rw [Text.size_append, Text.size_cons] at hsize
      have : ('{').utf8Size = 1 := rfl
      omega
  · have hle : Text.size a = Text.size u + Text.size v := by rw [hv, Text.size_append]
    omega

theorem Document.braced_of_parse {source : Text} {d : Document}
    (h : Document.parse source = .ok d) : ∀ s ∈ d.root.walk, s.Braced source := by
  obtain ⟨ts, -, -, hlayout, hin⟩ := Grammar.parse_layout h
  intro s hs
  obtain rfl | hs := List.mem_cons.mp hs
  · intro b hb
    cases hb
  · refine Scope.braced_of_asciiAt? fun b hb => ?_
    obtain ⟨hopen, hclose, -, hlt, -⟩ := (hlayout.scopes hin s hs).braces b hb
    exact ⟨hopen, hclose, hlt⟩

theorem exists_of_bind_eq_ok {ε α β : Type} {x : Except ε α} {f : α → Except ε β} {b : β}
    (h : x >>= f = .ok b) : ∃ a, x = .ok a ∧ f a = .ok b := by
  cases x with
  | error e => cases h
  | ok a => exact ⟨a, rfl, h⟩

namespace Outline

mutual

private theorem braced_of_convert {source : Text} {parent : Span} {last : Nat} {node : Node} :
    (o : Outline) → o.convert source parent last = .ok node →
      ∀ s ∈ node.scopes, s.Braced source
  | .statement name start stop, h => by
    rw [convert] at h
    obtain ⟨span, -, h⟩ := exists_of_bind_eq_ok h
    obtain ⟨ts, -, h⟩ := exists_of_bind_eq_ok h
    cases h
    simp [Node.scopes]
  | .block name start stop opening closing children, h => by
    rw [convert] at h
    obtain ⟨span, -, h⟩ := exists_of_bind_eq_ok h
    split at h
    case isFalse => cases h
    case isTrue hbraces =>
      obtain ⟨nodes, hnodes, h⟩ := exists_of_bind_eq_ok h
      obtain ⟨header, -, h⟩ := exists_of_bind_eq_ok h
      cases h
      simp only [Bool.and_eq_true, decide_eq_true_eq] at hbraces
      obtain ⟨⟨⟨⟨-, hlt⟩, -⟩, hopen⟩, hclose⟩ := hbraces
      intro s hs
      obtain rfl | hs := List.mem_cons.mp hs
      · refine Scope.braced_of_asciiAt? fun b hb => ?_
        cases hb
        exact ⟨hopen, hclose, hlt⟩
      · exact braced_of_convertAll children hnodes s hs

private theorem braced_of_convertAll {source : Text} {parent : Span} {last : Nat}
    {nodes : List Node} : (os : List Outline) → convertAll source parent last os = .ok nodes →
      ∀ s ∈ Node.scopesOf nodes, s.Braced source
  | [], h => by
    cases h
    simp [Node.scopesOf]
  | o :: os, h => by
    rw [convertAll] at h
    obtain ⟨node, hnode, h⟩ := exists_of_bind_eq_ok h
    obtain ⟨rest, hrest, h⟩ := exists_of_bind_eq_ok h
    cases h
    intro s hs
    rw [Node.scopesOf, List.mem_append] at hs
    obtain hs | hs := hs
    · exact braced_of_convert o hnode s hs
    · exact braced_of_convertAll os hrest s hs

end

private theorem braced_of_toDocument {source : Text} {os : List Outline} {d : Document}
    (h : toDocument source os = .ok d) : ∀ s ∈ d.root.walk, s.Braced source := by
  rw [toDocument] at h
  obtain ⟨nodes, hnodes, h⟩ := exists_of_bind_eq_ok h
  cases h
  intro s hs
  obtain rfl | hs := List.mem_cons.mp hs
  · intro b hb
    cases hb
  · exact braced_of_convertAll os hnodes s hs

end Outline

/-! ## Placements -/

namespace Plan

/-- What an edit into the scope takes away, from `start` on, when it puts `text` there: nothing, the
indentation before the closing brace, or two braces with blanks between them, which it puts back. -/
inductive Removal (s : Scope) (start : Nat) (removed text : Text) : Prop where
  | nothing : removed = [] → Removal s start removed text
  | indentation {b} : s.braces = some b → start + removed.size = b.closing →
      (∀ c ∈ removed, Text.isIndent c = true) → Removal s start removed text
  | braces {b blanks inner} : s.braces = some b → start = b.opening →
      start + removed.size = b.closing + 1 → removed = '{' :: (blanks ++ ['}']) →
      (∀ c ∈ blanks, Text.isBlank c = true) → text = '{' :: (inner ++ ['}']) →
      Removal s start removed text

/-- The edit replaces a part of the source that it expects there. -/
def Lands (source : Text) (s : Scope) (hash : Text → UInt64) (e : Edit) : Prop :=
  ∃ before removed after, source = before ++ (removed ++ after) ∧
    e = Edit.replace before.size (before.size + Text.size removed) e.text removed hash ∧
    Removal s before.size removed e.text

private theorem lands_insertion {source before : Text} (after : Text) (h : source = before ++ after)
    (s : Scope) (hash : Text → UInt64) (text : Text) :
    Lands source s hash (Edit.insertion before.size text) :=
  ⟨before, [], after, h, rfl, .nothing rfl⟩

private theorem lands_appendToDocument (source : Text) (s : Scope) (hash : Text → UInt64)
    (items : List Property) (unit eol : Text) :
    Lands source s hash (appendToDocument source items unit eol) := by
  have h : source = source ++ [] := (List.append_nil source).symm
  rw [appendToDocument]
  split
  · exact lands_insertion [] h s hash _
  · exact lands_insertion [] h s hash _
  · exact lands_insertion [] h s hash _

theorem text_expandInline (source : Text) (s : Scope) (b : Braces) (items : List Property)
    (unit eol : Text) (hash : Text → UInt64) :
    (expandInline source s b items unit eol hash).text = '{' :: (eol ++ (unlines eol
      (Property.renderAll (source.lineIndent s.span.start ++ unit) unit items) ++
        source.lineIndent s.span.start) ++ ['}']) := by
  simp [expandInline, Edit.replace]

section Braces

variable {source a inner c : Text} {s : Scope} {b : Braces} (hash : Text → UInt64)
  (items : List Property) (unit eol : Text)
  (hsource : source = a ++ '{' :: (inner ++ '}' :: c)) (hopen : Text.size a = b.opening)
  (hclose : Text.size a + 1 + Text.size inner = b.closing) (hb : s.braces = some b)

include hsource hopen hclose hb

omit hb in
theorem slice_inside : source.slice (b.opening + 1) b.closing = inner := by
  have hsize : Text.size (a ++ ['{']) = b.opening + 1 := by
    rw [Text.size_append, hopen]
    rfl
  have h := Text.slice_append (a ++ ['{']) inner ('}' :: c)
  rw [hsize, ← hopen, hclose, List.append_assoc, List.singleton_append] at h
  rw [hsource, ← hopen, h]

private theorem lands_expandInline (hempty : s.isEmptyInline source = true) :
    Lands source s hash (expandInline source s b items unit eol hash) := by
  have hsize : Text.size ('{' :: (inner ++ ['}'])) = Text.size inner + 2 := by
    have h : ('{').utf8Size = 1 ∧ ('}').utf8Size = 1 := ⟨rfl, rfl⟩
    simp only [Text.size_cons, Text.size_append, Text.size_nil, h.1, h.2]
    omega
  have hsource' : source = a ++ ('{' :: (inner ++ ['}']) ++ c) := by simp [hsource]
  have hstop : b.closing + 1 = Text.size a + Text.size ('{' :: (inner ++ ['}'])) := by omega
  have hslice : source.slice b.opening (b.closing + 1) = '{' :: (inner ++ ['}']) := by
    rw [hstop, ← hopen, hsource', Text.slice_append]
  have hinner := slice_inside hsource hopen hclose
  refine ⟨a, '{' :: (inner ++ ['}']), c, hsource', ?_, ?_⟩
  · rw [expandInline, hslice, hstop, ← hopen]
    rfl
  · refine .braces hb hopen hstop.symm rfl ?_ (text_expandInline source s b items unit eol hash)
    simp only [Scope.isEmptyInline, hb, hinner, Bool.and_eq_true] at hempty
    exact List.all_eq_true.mp hempty.2

omit hopen in
private theorem lands_appendBeforeClose :
    Lands source s hash (appendBeforeClose source s b items unit eol hash) := by
  have hsource' : source = (a ++ '{' :: inner) ++ '}' :: c := by simp [hsource]
  have hsize : Text.size (a ++ '{' :: inner) = b.closing := by
    rw [Text.size_append, Text.size_cons, ← hclose, Nat.add_assoc]
    rfl
  generalize a ++ '{' :: inner = head at hsource' hsize
  subst hsource'
  simp only [appendBeforeClose, ← hsize]
  split
  · obtain ⟨u, hu, -⟩ := Text.exists_lastLine head
    rw [Text.lineStart_append _ hu]
    refine lands_insertion (Text.lastLine head ++ '}' :: c) ?_ s hash _
    rw [← List.append_assoc, ← hu]
  · rw [Text.takeBytes_size_append]
    obtain ⟨u, hu, -⟩ := Text.exists_trailing Text.isIndent head
    generalize hgap : (head.reverse.takeWhile Text.isIndent).reverse = gap at hu
    have hmem : ∀ c ∈ gap, Text.isIndent c = true := fun c hc =>
      Text.of_mem_trailing (hgap ▸ hc)
    subst hu
    refine ⟨u, gap, '}' :: c, List.append_assoc _ _ _, ?_, .indentation hb ?_ hmem⟩
    · rw [Text.size_append, Nat.add_sub_cancel]
      rfl
    · rw [← hsize, Text.size_append]

end Braces

theorem lands_place {source : Text} {s : Scope} (hs : s.Braced source) (hash : Text → UInt64)
    (items : List Property) (unit eol : Text) :
    Lands source s hash (place source s items unit eol hash).1 := by
  rw [place]
  split
  · exact lands_appendToDocument source s hash items unit eol
  case h_2 b hb =>
    obtain ⟨a, inner, c, hsource, hopen, hclose⟩ := hs b hb
    split
    case isTrue hempty =>
      exact lands_expandInline hash items unit eol hsource hopen hclose hb hempty
    case isFalse => exact lands_appendBeforeClose hash items unit eol hsource hclose hb

private theorem Removal.sublist {s : Scope} {start : Nat} {removed text : Text}
    (h : Removal s start removed text) :
    (removed.filter fun c => !Text.isBlank c).Sublist text := by
  cases h with
  | nothing h => simp [h]
  | indentation _ _ h =>
    have hnone : (removed.filter fun c => !Text.isBlank c) = [] := by
      rw [List.filter_eq_nil_iff]
      intro c hc
      have : c = ' ' ∨ c = '\t' := by simpa [Text.isIndent] using h c hc
      obtain rfl | rfl := this <;> decide
    simp [hnone]
  | @braces _ blanks inner _ _ _ hremoved h htext =>
    have hnone : (blanks.filter fun c => !Text.isBlank c) = [] := by
      rw [List.filter_eq_nil_iff]
      intro c hc
      simp [h c hc]
    have hmarks : Text.isBlank '{' = false ∧ Text.isBlank '}' = false := by decide
    rw [hremoved, htext]
    simp [hmarks, hnone]

/-! ## Plans -/

theorem ok_of_mapError_eq_ok {ε ε' α : Type} {x : Except ε α} {f : ε → ε'} {a : α}
    (h : x.mapError f = .ok a) : x = .ok a := by
  cases x with
  | error e => cases h
  | ok b =>
    cases h
    rfl

theorem nest_eq_nil_iff {ns : List Text} {ps : List Property} :
    Property.nest ns ps = [] ↔ ns = [] ∧ ps = [] := by
  cases ns <;> simp [Property.nest]

theorem make_eq_ok {d : Document} {pattern : Pattern} {properties : List Property}
    {fallback : Text} {hash : Text → UInt64} {plan : Plan}
    (h : make d pattern properties fallback hash = .ok plan) :
    ∃ chain, pattern.chain = .ok chain ∧ plan.created = (target d chain).2 ∧
      let items := Property.nest (target d chain).2 properties
      (items = [] ∧ plan.edits = []) ∨ (items ≠ [] ∧ plan.edits =
        [(place d.source (target d chain).1 items (unit d (target d chain).1 fallback)
          (lineEnd d.source) hash).1]) := by
  rw [make] at h
  obtain ⟨-, -, h⟩ := exists_of_bind_eq_ok h
  obtain ⟨chain, hchain, h⟩ := exists_of_bind_eq_ok h
  obtain ⟨-, -, h⟩ := exists_of_bind_eq_ok h
  refine ⟨chain, ok_of_mapError_eq_ok hchain, ?_⟩
  generalize target d chain = found at h ⊢
  obtain ⟨scope, missing⟩ := found
  simp only at h ⊢
  split at h
  case isTrue hnil =>
    cases h
    exact ⟨rfl, .inl ⟨List.isEmpty_iff.mp hnil, rfl⟩⟩
  case isFalse hne =>
    cases h
    exact ⟨rfl, .inr ⟨fun hnil => hne (List.isEmpty_iff.mpr hnil), rfl⟩⟩

end Plan

/-! ## Documents and scripts -/

/-- The document is what a parser makes of its source. -/
def Document.IsRead (d : Document) : Prop :=
  Document.parse d.source = .ok d ∨ ∃ os, Outline.toDocument d.source os = .ok d

private theorem Document.IsRead.braced {d : Document} (h : d.IsRead) :
    ∀ s ∈ d.root.walk, s.Braced d.source := by
  obtain h | ⟨os, h⟩ := h
  · exact Document.braced_of_parse h
  · exact Outline.braced_of_toDocument h

/-- One of the parsers there are. -/
def Parser.IsKnown (p : Parser) : Prop := p = .native ∨ ∃ h, p = .ofHelper h

/-- A result is a document that was read or an error other than that of an edit. -/
def Parser.Answer (r : Except ScriptError Document) : Prop :=
  (∀ d, r = .ok d → d.IsRead) ∧ ∀ f, r ≠ .error (.edit f)

private theorem Parser.answer_error {e : ScriptError} (h : ∀ f, e ≠ .edit f) : Answer (.error e) :=
  ⟨by simp, by simpa using h⟩

private theorem Parser.answer_mapError {ε : Type} {r : Except ε Document} {f : ε → ScriptError}
    (hok : ∀ d, r = .ok d → d.IsRead) (hf : ∀ e g, f e ≠ .edit g) : Answer (r.mapError f) := by
  cases r with
  | error e => exact answer_error (hf e)
  | ok d => exact ⟨fun d' hd' => hok d' (by cases hd'; rfl), by simp [Except.mapError]⟩

private theorem Parser.IsKnown.answer {p : Parser} (hp : p.IsKnown) (source : Text) :
    Answer (p.parse source) := by
  obtain rfl | ⟨helper, rfl⟩ := hp
  · refine answer_mapError (fun d hd => ?_) (by simp)
    obtain ⟨-, -, hsource, -⟩ := Grammar.parse_layout hd
    exact .inl (hsource ▸ hd)
  · change Answer (parseWith helper source)
    rw [parseWith]
    repeat' split
    case h_3 =>
      refine answer_mapError (fun d hd => ?_) (by simp)
      rw [Outline.toDocument] at hd
      obtain ⟨nodes, hnodes, hd⟩ := exists_of_bind_eq_ok hd
      cases hd
      exact .inr ⟨_, by rw [Outline.toDocument, hnodes]; rfl⟩
    all_goals exact answer_error (by simp)

private theorem Parser.IsKnown.probe_ne_edit {p : Parser} (hp : p.IsKnown) (f : Edit.Failure) :
    p.probe ≠ .error (.edit f) := by
  obtain rfl | ⟨helper, rfl⟩ := hp
  · simp [native]
  · rw [ofHelper]
    split <;> simp

namespace Plan

/-- What planning gives on a document that was read: no edit exactly when there is nothing to do,
else one edit, which lands. -/
theorem lands_of_make {d : Document} (hd : d.IsRead) {pattern : Pattern}
    {properties : List Property} {fallback : Text} {hash : Text → UInt64} {plan : Plan}
    (h : make d pattern properties fallback hash = .ok plan) :
    (plan.edits = [] ∧ d.find pattern ≠ [] ∧ properties = []) ∨
      (¬ (d.find pattern ≠ [] ∧ properties = []) ∧ ∃ e chain, plan.edits = [e] ∧
        pattern.chain = .ok chain ∧ Lands d.source (target d chain).1 hash e) := by
  obtain ⟨chain, hchain, -, hplan⟩ := make_eq_ok h
  have hitems : Property.nest (target d chain).2 properties = [] ↔
      d.find pattern ≠ [] ∧ properties = [] := by
    rw [nest_eq_nil_iff, target_missing_eq_nil_iff, ← Pattern.eq_ofPath_of_chain hchain]
  obtain ⟨hnil, hedits⟩ | ⟨hne, hedits⟩ := hplan
  · exact .inl ⟨hedits, hitems.mp hnil⟩
  · have hbraced := hd.braced _ (target_mem_walk d chain)
    exact .inr ⟨fun hnot => hne (hitems.mpr hnot), _, chain, hedits, hchain,
      lands_place hbraced hash _ _ _⟩

theorem Lands.apply_eq_ok {source : Text} {s : Scope} {hash : Text → UInt64} {e : Edit}
    (h : Lands source s hash e) :
    ∃ before removed after, source = before ++ (removed ++ after) ∧ e.start = Text.size before ∧
      e.stop = Text.size before + Text.size removed ∧ Removal s e.start removed e.text ∧
      Edit.apply source [e] hash = .ok (before ++ (e.text ++ after)) := by
  obtain ⟨before, removed, after, hsource, he, hremoval⟩ := h
  have hstart : e.start = Text.size before := by rw [he]; rfl
  have hstop : e.stop = Text.size before + Text.size removed := by rw [he]; rfl
  refine ⟨before, removed, after, hsource, hstart, hstop, hstart ▸ hremoval, ?_⟩
  rw [hsource, he]
  exact Edit.apply_replace before removed after e.text hash

private theorem Removal.sublist_append {s : Scope} {start : Nat} {removed text : Text}
    (h : Removal s start removed text) (before after : Text) :
    ((before ++ (removed ++ after)).filter fun c => !Text.isBlank c).Sublist
      (before ++ (text ++ after)) := by
  rw [List.filter_append, List.filter_append]
  exact List.filter_sublist.append (h.sublist.append List.filter_sublist)

end Plan

namespace Script

variable {s : Script} (pattern : Pattern) (properties : List Property) (hash : Text → UInt64)

private theorem draft_ne_edit {d : Document} (hd : d.IsRead) (f : Edit.Failure) :
    s.draft d pattern properties hash ≠ .error (.edit f) := by
  rw [draft]
  cases hmake : Plan.make d pattern properties s.unit hash with
  | error e =>
    change (.error (ScriptError.ofPlan e) : Except ScriptError (Plan × Text)) ≠ _
    cases e <;> simp [ScriptError.ofPlan]
  | ok plan =>
    obtain ⟨text, htext⟩ : ∃ text, Edit.apply d.source plan.edits hash = .ok text := by
      obtain ⟨hedits, -⟩ | ⟨-, e, chain, hedits, -, hlands⟩ := Plan.lands_of_make hd hmake
      · exact ⟨_, by rw [hedits, Edit.apply_nil]⟩
      · obtain ⟨before, removed, after, -, -, -, -, happly⟩ := hlands.apply_eq_ok
        exact ⟨_, by rw [hedits, happly]⟩
    change ((Edit.apply d.source plan.edits hash).mapError ScriptError.edit >>= _) ≠ _
    rw [htext]
    intro h
    cases h

private theorem revise_ne_edit (hp : s.parser.IsKnown) {d : Document} (hd : d.IsRead)
    (f : Edit.Failure) : s.revise d pattern properties hash ≠ .error (.edit f) := by
  rw [revise]
  cases hdraft : s.draft d pattern properties hash with
  | error e =>
    intro h
    cases h
    exact draft_ne_edit pattern properties hash hd f hdraft
  | ok result =>
    obtain ⟨plan, text⟩ := result
    change (if plan.isNoop then _ else _) ≠ _
    intro h
    split at h
    · cases h
    · split at h
      · cases h
      · cases h
      case h_3 e _ hparse =>
        cases h
        exact (hp.answer text).2 f hparse

private theorem inject_ne_edit (hp : s.parser.IsKnown) (disk : Disk) (o : Overlay)
    (f : Edit.Failure) : (s.inject disk o pattern properties hash).1 ≠ .error (.edit f) := by
  have hdocument : Parser.Answer (s.document disk o).1 := by
    rw [document]
    split
    case h_1 e hprobe => exact Parser.answer_error fun f he => hp.probe_ne_edit f (he ▸ hprobe)
    case h_2 =>
      split
      · exact Parser.answer_error (by simp)
      · exact hp.answer _
  rw [inject]
  split
  case h_1 e o' hdoc =>
    intro h
    cases h
    exact hdocument.2 f (by rw [hdoc])
  case h_2 doc o' hdoc =>
    have hread : doc.IsRead := hdocument.1 doc (by rw [hdoc])
    split
    case h_1 e hrevise =>
      intro h
      cases h
      exact revise_ne_edit pattern properties hash hp hread f hrevise
    case h_2 plan text hrevise =>
      split
      · simp
      · split <;> simp

end Script

/-- Injection loses nothing and its edit always lands, whatever function makes the digests. A plan
for a document that was read has no edit exactly when the pattern leads somewhere and there is
nothing to add, and else one edit. Applying it succeeds, and takes away no more than a `Removal`;
so the characters that are not blank stay, in order. A script is never refused for its edit. -/
theorem Plan.injection_lands (hash : Text → UInt64) :
    (∀ (d : Document) (pattern : Pattern) (properties : List Property) (fallback : Text)
        (plan : Plan), d.IsRead → Plan.make d pattern properties fallback hash = .ok plan →
      (plan.edits = [] ↔ d.find pattern ≠ [] ∧ properties = []) ∧
      ∃ out, Edit.apply d.source plan.edits hash = .ok out ∧
        (d.source.filter fun c => !Text.isBlank c).Sublist out ∧
        ((plan.edits = [] ∧ out = d.source) ∨
          ∃ e chain before removed after, plan.edits = [e] ∧ pattern.chain = .ok chain ∧
            d.source = before ++ (removed ++ after) ∧ out = before ++ (e.text ++ after) ∧
            e.start = Text.size before ∧ e.stop = Text.size before + Text.size removed ∧
            Plan.Removal (Plan.target d chain).1 e.start removed e.text)) ∧
    ∀ (s : Script) (disk : Disk) (o : Overlay) (pattern : Pattern) (properties : List Property)
      (f : Edit.Failure), s.parser.IsKnown →
      (s.inject disk o pattern properties hash).1 ≠ .error (.edit f) := by
  refine ⟨?_, fun s disk o pattern properties f hp =>
    Script.inject_ne_edit pattern properties hash hp disk o f⟩
  intro d pattern properties fallback plan hd h
  obtain ⟨hedits, hidle⟩ | ⟨hbusy, e, chain, hedits, hchain, hlands⟩ := Plan.lands_of_make hd h
  · refine ⟨iff_of_true hedits hidle, d.source, by rw [hedits, Edit.apply_nil],
      List.filter_sublist, .inl ⟨hedits, rfl⟩⟩
  · obtain ⟨before, removed, after, hsource, hstart, hstop, hremoval, happly⟩ :=
      hlands.apply_eq_ok
    refine ⟨iff_of_false (by simp [hedits]) hbusy, _, by rw [hedits, happly], ?_, .inr
      ⟨e, chain, before, removed, after, hedits, hchain, hsource, rfl, hstart, hstop, hremoval⟩⟩
    rw [hsource]
    exact hremoval.sublist_append before after

theorem Plan.injection_lands_inline :
    (∃ d plan out, Document.parse "a\x7b \x7d".toList = .ok d ∧
      Plan.make d (.ofPath ["a".toList]) [.line "b".toList "1".toList .statement] [' ']
        (fun _ => 0) = .ok plan ∧
      Edit.apply d.source plan.edits (fun _ => 0) = .ok out ∧
      (d.source.filter fun c => !Text.isBlank c).Sublist out) ∧
    (Script.inject ⟨"f".toList, .native, [' ']⟩ ⟨[]⟩ ⟨⟨[], []⟩, []⟩ (.ofPath ["a".toList]) []
      (fun _ => 0)).1 ≠ .error (.edit (.notBoundary 0)) := by
  obtain ⟨hplans, hscripts⟩ := Plan.injection_lands fun _ => 0
  refine ⟨?_, hscripts _ _ _ _ _ _ (.inl rfl)⟩
  have hparse : ∃ d, Document.parse "a\x7b \x7d".toList = .ok d ∧ d.source = "a\x7b \x7d".toList ∧
      ∃ plan, Plan.make d (.ofPath ["a".toList]) [.line "b".toList "1".toList .statement] [' ']
        (fun _ => 0) = .ok plan :=
    ⟨_, by cbv, rfl, _, by cbv⟩
  obtain ⟨d, hd, hsource, plan, hplan⟩ := hparse
  obtain ⟨-, out, happly, hkept, -⟩ := hplans d _ _ _ plan (.inl (hsource.symm ▸ hd)) hplan
  exact ⟨d, plan, out, hd, hplan, happly, hkept⟩

end Graft
