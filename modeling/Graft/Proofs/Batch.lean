import Graft.Proofs.Path
import Graft.Proofs.Settle
import Graft.Script

/-!
# Batches

Properties that go to a script one after the other, with the script parsed again in between, leave
the text that they leave when they go there at once. What the second injection infers from the
script is what the first one did: the target, the indentation and its unit, and the line end.
-/
namespace Graft

open Lexeme (IsLineEnd isGap texts)
open Sketch (indents)

/-! ## Line ends -/

/-- Every carriage return stands before a line feed. -/
def Text.isPaired : Text → Bool
  | [] => true
  | c :: r => (c != '\r' || r.head? == some '\n') && isPaired r

private theorem Text.head?_of_isPaired {a b : Text} (h : isPaired (a ++ '\r' :: b) = true) :
    b.head? = some '\n' := by
  induction a with
  | nil =>
    have hb : (b.head? == some '\n') = true ∧ isPaired b = true := by simpa [isPaired] using h
    exact beq_iff_eq.mp hb.1
  | cons c a ih =>
    rw [List.cons_append, isPaired, Bool.and_eq_true] at h
    exact ih h.2

private theorem Text.ne_of_isIndent {c : Char} (h : isIndent c = true) : c ≠ '\n' ∧ c ≠ '\r' := by
  constructor <;> rintro rfl <;> exact absurd h (by decide)

namespace Property

private theorem lineText_ne_nil {n value : Text} {form : Form}
    (h : (line n value form).WellFormed) : lineText n value form ≠ [] := by
  rw [lineText_eq_written]
  obtain ⟨d, node, rest, hparse, hnodes, -⟩ := h
  intro hnil
  have hempty : Document.parse [] = .ok ⟨[], []⟩ := by cbv
  rw [hnil, hempty] at hparse
  obtain rfl := Except.ok.inj hparse
  cases hnodes

mutual

private theorem unbroken_render {unit : Text} (hunit : ∀ c ∈ unit, Text.isIndent c = true) :
    (q : Property) → q.WellFormed → q.Unbroken → (indent : Text) →
    (∀ c ∈ indent, Text.isIndent c = true) →
    ∀ l ∈ q.render indent unit, l ≠ [] ∧ ∀ c ∈ l, c ≠ '\n' ∧ c ≠ '\r'
  | .line n value form, hq, hlines, indent, hindent => by
    intro l hl
    obtain rfl := List.mem_singleton.mp hl
    refine ⟨by simp [lineText_ne_nil hq], fun c hc => ?_⟩
    obtain hc | hc := List.mem_append.mp hc
    · exact Text.ne_of_isIndent (hindent c hc)
    · exact hlines.lineText c hc
  | .block n children, hq, hlines, indent, hindent => by
    intro l hl
    rw [render, List.cons_append, List.mem_cons, List.mem_append, List.mem_singleton] at hl
    obtain rfl | hl | rfl := hl
    · refine ⟨by simp, fun c hc => ?_⟩
      obtain hc | hc | rfl | rfl : c ∈ indent ∨ c ∈ n ∨ c = ' ' ∨ c = '{' := by simpa using hc
      · exact Text.ne_of_isIndent (hindent c hc)
      · exact hlines.1 c hc
      · decide
      · decide
    · exact unbroken_renderAll hunit children hq.2 hlines.2 _
        (Plan.isIndent_append hindent hunit) l hl
    · refine ⟨by simp, fun c hc => ?_⟩
      obtain hc | rfl : c ∈ indent ∨ c = '}' := by simpa using hc
      · exact Text.ne_of_isIndent (hindent c hc)
      · decide

private theorem unbroken_renderAll {unit : Text} (hunit : ∀ c ∈ unit, Text.isIndent c = true) :
    (qs : List Property) → AllWellFormed qs → AllUnbroken qs → (indent : Text) →
    (∀ c ∈ indent, Text.isIndent c = true) →
    ∀ l ∈ renderAll indent unit qs, l ≠ [] ∧ ∀ c ∈ l, c ≠ '\n' ∧ c ≠ '\r'
  | [], _, _, _, _ => by simp [renderAll]
  | q :: qs, hwf, hlines, indent, hindent => by
    intro l hl
    rw [renderAll, List.mem_append] at hl
    obtain hl | hl := hl
    · exact unbroken_render hunit q hwf.1 hlines.1 indent hindent l hl
    · exact unbroken_renderAll hunit qs hwf.2 hlines.2 indent hindent l hl

end

private theorem allUnbroken_nest {ns : List Text} (hns : ∀ n ∈ ns, n.IsDotted) {ps : List Property}
    (hps : AllUnbroken ps) : AllUnbroken (nest ns ps) := by
  induction ns with
  | nil => exact hps
  | cons n ns ih =>
    refine ⟨⟨fun c hc => ?_, ih fun m hm => hns m (by simp [hm])⟩, trivial⟩
    have hblank := (hns n (by simp)).isBlank.2 c hc
    constructor <;> rintro rfl <;> exact absurd hblank (by decide)

private theorem renderAll_of_lines {ps : List Property}
    (h : ∀ p ∈ ps, ∀ n children, p ≠ block n children) (indent unit unit' : Text) :
    renderAll indent unit ps = renderAll indent unit' ps := by
  induction ps with
  | nil => rfl
  | cons p ps ih =>
    rw [renderAll, renderAll, ih fun q hq => h q (by simp [hq])]
    cases p with
    | line n value form => rfl
    | block n children => exact absurd rfl (h _ (by simp) n children)

end Property

namespace Plan

private theorem lineEnd_cut {u : Text} (hu : '\n' ∉ u) (v : Text) :
    lineEnd (u ++ '\n' :: v) =
      if u.getLast? = some '\r' then ['\r', '\n'] else ['\n'] := by
  have htake : (u ++ '\n' :: v).takeWhile (· ≠ '\n') = u :=
    Lexeme.takeWhile_ne_append (fun c hc heq => hu (heq ▸ hc)) (by simp)
  rw [lineEnd, if_pos (by simp), htake]

private theorem lineEnd_append {a : Text} (h : '\n' ∈ a) (b : Text) :
    lineEnd (a ++ b) = lineEnd a := by
  obtain ⟨u, v, rfl, hu⟩ := List.eq_append_cons_of_mem h
  rw [List.append_assoc, List.cons_append, lineEnd_cut hu, lineEnd_cut hu]

private theorem lineEnd_append_lineEnd {eol : Text} (heol : IsLineEnd eol) {a : Text}
    (ha : '\n' ∉ a) (hreturn : a.getLast? ≠ some '\r') (b : Text) :
    lineEnd (a ++ (eol ++ b)) = eol := by
  obtain rfl | rfl := heol
  · rw [List.singleton_append, lineEnd_cut ha, if_neg hreturn]
  · have hcut := lineEnd_cut (u := a ++ ['\r']) (by simp [ha]) b
    simpa using hcut

private theorem lineEnd_insert {a b : Text} (hpaired : (a ++ b).isPaired = true)
    (hb : b.head? ≠ some '\n') (r : Text) :
    lineEnd (a ++ (lineEnd (a ++ b) ++ r)) = lineEnd (a ++ b) := by
  by_cases hmem : '\n' ∈ a
  · rw [lineEnd_append hmem, lineEnd_append hmem]
  · refine lineEnd_append_lineEnd (isLineEnd_lineEnd _) hmem (fun hlast => hb ?_) r
    obtain ⟨u, rfl⟩ := List.getLast?_eq_some_iff.mp hlast
    rw [List.append_assoc, List.singleton_append] at hpaired
    exact Text.head?_of_isPaired hpaired

/-- New lines do not change the line end of a script. -/
theorem Gate.lineEnd_filled {source before after : Text}
    (h : Gate (lineEnd source) source before after) (hpaired : source.isPaired = true)
    {inner unit : Text} (hinner : ∀ c ∈ inner, Text.isIndent c = true)
    (hunit : ∀ c ∈ unit, Text.isIndent c = true) {items : List Property} (hitems : items ≠ [])
    (hwf : Property.AllWellFormed items) (hlines : Property.AllUnbroken items) :
    lineEnd (filled before after (lineEnd source) inner unit items) = lineEnd source := by
  have heol := isLineEnd_lineEnd source
  cases h with
  | @slot head post front first hsource hslot hbefore =>
    rw [filled, hbefore, List.append_assoc]
    cases hslot with
    | @gap gap hfirst hhead hgap =>
      have hcut : source = front ++ (gap ++ '}' :: post) := by simp [hsource, hhead]
      rw [hfirst, hcut]
      refine lineEnd_insert (hcut ▸ hpaired) ?_ _
      cases gap with
      | nil => simp
      | cons x gap =>
        intro hx
        obtain rfl : x = '\n' := by simpa using hx
        exact absurd (hgap '\n' (by simp)) (by decide)
    | @line gap hfirst hhead _ =>
      have hcut : source = (front ++ ['\n']) ++ (gap ++ '}' :: post) := by simp [hsource, hhead]
      have hmem : '\n' ∈ front ++ ['\n'] := by simp
      rw [hfirst, ← List.append_assoc, lineEnd_append hmem, hcut, lineEnd_append hmem]
  | ending hending =>
    cases hending with
    | line hlast hbefore hafter =>
      subst hbefore hafter
      obtain rfl | ⟨front, hfront⟩ := hlast
      · have hfirst := Property.unbroken_renderAll hunit items hwf hlines inner hinner
        obtain ⟨l, ls, hls⟩ := List.exists_cons_of_ne_nil
          (Property.renderAll_ne_nil hitems inner unit)
        rw [hls] at hfirst
        have htext : filled [] (lineEnd []) (lineEnd []) inner unit items =
            l ++ (lineEnd [] ++ unlines (lineEnd []) ls) := by
          rw [filled, List.nil_append, ← unlines_eq _ (Property.renderAll_ne_nil hitems _ _), hls]
          simp [unlines]
        have hl := (hfirst l (by simp)).2
        rw [htext]
        refine lineEnd_append_lineEnd heol (fun hmem => (hl _ hmem).1 rfl) (fun hlast => ?_) _
        exact (hl _ (List.mem_of_getLast? hlast)).2 rfl
      · rw [filled, lineEnd_append (by simp [hfront])]
    | bare _ _ hbefore hafter =>
      subst hbefore hafter
      have hinsert := lineEnd_insert (b := []) (by rwa [List.append_nil]) (by simp)
        (Text.join (lineEnd source) (Property.renderAll inner unit items))
      rw [List.append_nil] at hinsert
      simpa [filled] using hinsert

/-! ## The second injection -/

private theorem unit_ne_nil {d : Document} {s : Scope} {fallback : Text} (h : fallback ≠ []) :
    unit d s fallback ≠ [] := by
  obtain heq | ⟨s', hs'⟩ := unit_cases d s fallback
  · rwa [heq]
  · rw [unitOf?_eq] at hs'
    exact Sketch.added?_ne_nil hs'

/-- No node stands in the line of the closing brace of a scope, behind the brace. -/
def EndsLine (d : Document) (s : Scope) : Prop :=
  ∀ b ∈ s.braces, ∀ n ∈ Node.families d.nodes, b.closing < n.span.start →
    '\n' ∈ d.source.slice b.closing n.span.start

instance (d : Document) (s : Scope) : Decidable (EndsLine d s) := by
  unfold EndsLine
  infer_instance

private theorem sketches_append_text {source : Text} {d : Document}
    (hparse : Document.parse source = .ok d) (rest : Text) :
    Node.sketches (Text.margin (source ++ rest)) d.nodes =
      Node.sketches source.margin d.nodes := by
  obtain ⟨ls, b, hls, hb, rfl⟩ := Grammar.exists_derivation_of_parse hparse
  obtain ⟨rfl, hbegins⟩ := Lexeme.ofSource_eq_ok_iff.mp hls
  refine Grammar.Body.sketches_congr fun t ht => ?_
  obtain ⟨a, c, r, htexts, hstart, hc⟩ := hbegins.exists_solid (hb.1 ▸ ht)
  have hindent := Text.isIndent_eq_false hc
  rw [htexts, List.append_assoc, List.cons_append, hstart, Text.margin_append a hindent,
    Text.margin_append a hindent]

private theorem Ending.exists_append {eol source before after : Text}
    (h : Ending eol source before after) : ∃ rest, before = source ++ rest := by
  cases h with
  | line _ hbefore _ => exact ⟨[], by simp [hbefore]⟩
  | bare _ _ hbefore _ => exact ⟨eol, hbefore⟩

/-- Lines at the end of a document leave an end of the kind that was there. -/
theorem Ending.resume {eol source before after before' after' : Text}
    (h : Ending eol source before after) (heol : IsLineEnd eol) {ls ms : List Text}
    (hls : ls ≠ []) (hms : ms ≠ []) (hlines : ∀ l ∈ ls, l ≠ [] ∧ ∀ c ∈ l, c ≠ '\n' ∧ c ≠ '\r')
    (h' : Ending eol (before ++ (Text.join eol ls ++ after)) before' after') :
    before' ++ (Text.join eol ms ++ after') = before ++ (Text.join eol (ls ++ ms) ++ after) := by
  rw [Text.join_append eol hls hms]
  cases h with
  | line _ _ hafter =>
    have hend : (before ++ (Text.join eol ls ++ after)).getLast? = some '\n' := by
      obtain rfl | rfl := heol <;> simp [hafter]
    cases h' with
    | line _ hbefore' hafter' => simp [hbefore', hafter', hafter]
    | bare hout hc =>
      rw [hout, List.getLast?_concat] at hend
      exact absurd (Option.some.inj hend) hc
  | bare _ _ _ hafter =>
    obtain ⟨l, hl⟩ : ∃ l, ls.getLast? = some l := ⟨_, List.getLast?_eq_some_getLast hls⟩
    obtain ⟨hne, hunbroken⟩ := hlines l (List.mem_of_getLast? hl)
    have hend : (before ++ (Text.join eol ls ++ after)).getLast? = some (l.getLast hne) := by
      rw [hafter, List.append_nil, List.getLast?_append, Path.getLast?_join hne hl,
        List.getLast?_eq_some_getLast hne]
      rfl
    cases h' with
    | line hout =>
      obtain hout | ⟨front, hout⟩ := hout
      · rw [hout] at hend
        cases hend
      · rw [hout, List.getLast?_concat] at hend
        exact absurd (Option.some.inj hend).symm (hunbroken _ (List.getLast_mem hne)).1
    | bare _ _ hbefore' hafter' => simp [hbefore', hafter', hafter]

section Second

variable {d : Document} (hparse : Document.parse d.source = .ok d)
  (hpaired : d.source.isPaired = true) {names : List Text}
  {fallback : Text} (hfallback : ∀ c ∈ fallback, Text.isIndent c = true) (hne : fallback ≠ [])
  {xs : List Property} (hxs : xs ≠ []) (hwf : Property.AllWellFormed xs)
  (hlines : Property.AllUnbroken xs)

/-- What an injection does after another one has gone to the same path: its lines come to stand
below those of the first, with the layout that the first one has inferred. The two leave `text` of
their lines, and so does one that has all of the lines. -/
structure Resumes (d : Document) (names : List Text) (s : Scope) (missing : List Text)
    (fallback : Text) (xs : List Property) (text : List Text → Text) (inner : Text)
    (d' : Document) (t : Scope) : Prop where
  first : ∀ (ps : List Property) (hash : Text → UInt64), ps ≠ [] →
    Edit.apply d.source [(place d.source s (Property.nest missing ps) (unit d s fallback)
      (lineEnd d.source) hash).1] hash =
        .ok (text (Property.renderAll inner (unit d s fallback) ps))
  parse_eq : Document.parse (text (Property.renderAll inner (unit d s fallback) xs)) = .ok d'
  target_eq : target d' names = (t, [])
  second : ∀ (ps : List Property) (unit' : Text) (hash : Text → UInt64), ps ≠ [] →
    Edit.apply d'.source [(place d'.source t ps unit' (lineEnd d'.source) hash).1] hash =
      .ok (text (Property.renderAll inner (unit d s fallback) xs ++
        Property.renderAll inner unit' ps))
  unit_eq : EndsLine d s → unit d' t fallback = unit d s fallback

include hparse hpaired hfallback hne hxs hwf hlines

private theorem exists_resumes_nested (hnames : ∀ n ∈ names, n.IsDotted) {s : Scope} {n : Text}
    {ns : List Text} (htarget : target d names = (s, n :: ns)) :
    ∃ text inner d' t, Resumes d names s (n :: ns) fallback xs text inner d' t := by
  have heol := isLineEnd_lineEnd d.source
  have hunit := isIndent_unit (d := d) (s := s) hfallback
  obtain ⟨path, hpath, hlater⟩ := exists_target d names
  have hmem := target_mem_walk d names
  have hdotted : ∀ m ∈ (target d names).2, m.IsDotted := by
    obtain ⟨k, -, hmissing, -⟩ := exists_deepest d names names.length
    intro m hm
    exact hnames m (List.mem_of_mem_drop (hmissing ▸ hm))
  simp only [htarget] at hpath hlater hmem hdotted
  obtain ⟨before, after, indent, hhost⟩ := exists_host hparse hunit heol hmem hpath
  obtain ⟨head, lead, close, tail, hnested⟩ := exists_nested heol hunit n ns hdotted hhost.isIndent
  obtain ⟨d', t, hparse', hshapes, ht, hsettled, hchildren, hindent⟩ :=
    settled_of_nested hpath hhost heol hunit hdotted hnested hwf
  have hsource := Document.source_of_parse hparse'
  have hlineEnd : lineEnd d'.source = lineEnd d.source := by
    rw [hsource]
    exact hhost.gate.lineEnd_filled hpaired hhost.isIndent hunit (by simp [Property.nest])
      (Property.wellFormed_nest hdotted hwf) (Property.allUnbroken_nest hdotted hlines)
  refine ⟨fun ls => before ++ lead ++ (unlines (lineEnd d.source) ls ++
      (close ++ '}' :: (tail ++ after))), close ++ unit d s fallback, d', t,
    fun ps hash hps => ?_, ?_, hlater d' _ t hshapes ht, fun ps unit' hash _ => ?_, fun _ => ?_⟩
  · have hitems : Property.nest (n :: ns) ps ≠ [] := by simp [Property.nest]
    rw [hhost.apply_eq _ hash hitems, filled, hnested.text]
    simp
  · rw [← hsettled.text, hsource]
    exact hparse'
  · rw [hsettled.apply_place heol hunit hxs hwf hlines, hlineEnd, unlines_append]
    simp
  · exact hsettled.unit_of_nested heol hunit (unit_ne_nil hne) hxs hwf hlines hchildren hindent
      fallback

private theorem exists_resumes_block {s : Scope} (htarget : target d names = (s, []))
    (hblock : s.isDocument = false) :
    ∃ text inner d' t, Resumes d names s [] fallback xs text inner d' t := by
  have heol := isLineEnd_lineEnd d.source
  have hunit := isIndent_unit (d := d) (s := s) hfallback
  obtain ⟨path, hpath, hlater⟩ := exists_target d names
  have hmem := target_mem_walk d names
  simp only [htarget] at hpath hlater hmem
  cases path with
  | nil =>
    obtain rfl : d.root = s := Option.some.inj hpath
    cases hblock
  | cons i path =>
    obtain ⟨b, ts, o, inside, c, rear, L, M, hcut⟩ := exists_cut hparse hpath
    obtain ⟨front, first, close, hseat⟩ := exists_seat (unit d s fallback) (lineEnd d.source)
      (Document.braced_of_parse hparse s hmem) hcut.braces hcut.source hcut.closing
    have hinner : ∀ c ∈ innerIndent d.source s (unit d s fallback), Text.isIndent c = true :=
      isIndent_innerIndent hunit
    obtain ⟨d', t, hparse', hshapes, ht, hsettled, hindent, hkids, hnodes⟩ :=
      settled_of_cut hpath hcut hseat.slot heol hunit hinner hseat.isIndent hxs hwf
    have hsource := Document.source_of_parse hparse'
    have hgate : Gate (lineEnd d.source) d.source (front ++ first)
        (lineEnd d.source ++ (close ++ '}' :: texts M)) := .slot hcut.source hseat.slot rfl
    have hlineEnd : lineEnd d'.source = lineEnd d.source := by
      rw [hsource]
      exact hgate.lineEnd_filled hpaired hinner hunit hxs hwf hlines
    refine ⟨fun ls => front ++ first ++ (unlines (lineEnd d.source) ls ++
        (close ++ '}' :: texts M)), innerIndent d.source s (unit d s fallback), d', t,
      fun ps hash hps => ?_, ?_, hlater d' _ t hshapes (by simpa [Shape.spine] using ht),
      fun ps unit' hash _ => ?_, fun hends => ?_⟩
    · rw [Property.nest, hseat.apply_eq ps hash hps, filled,
        unlines_eq _ (Property.renderAll_ne_nil hps _ _)]
      simp
    · rw [← hsettled.text, hsource]
      exact hparse'
    · rw [hsettled.apply_place heol hunit hxs hwf hlines, hlineEnd, unlines_append]
      simp
    · obtain ⟨hlined, hsome⟩ := hsettled.lined heol hunit hxs hwf hlines
      refine unit_stable hpath (unit_ne_nil hne) (hnodes (hends _ hcut.braces)) hindent hkids
        hlined.regular hsome ?_
      -- the new lines are as deep as the last line of the block, or one unit deeper than the block
      cases hlast : (childIndents d.source s).getLast? with
      | some j =>
        refine .inl fun k hk => .inl ?_
        rw [hlined.indent k hk, innerIndent, hlast]
        exact List.mem_of_getLast? hlast
      | none =>
        refine .inr fun k hk => ?_
        rw [hlined.indent k hk, innerIndent, hlast, scopeIndent, if_neg (by simp [hblock])]
        rfl

private theorem exists_resumes_document {s : Scope} (htarget : target d names = (s, []))
    (hdocument : s.isDocument = true) :
    ∃ text inner d' t, Resumes d names s [] fallback xs text inner d' t := by
  have heol := isLineEnd_lineEnd d.source
  have hunit := isIndent_unit (d := d) (s := s) hfallback
  obtain ⟨path, hpath, hlater⟩ := exists_target d names
  simp only [htarget] at hpath hlater
  cases path with
  | cons i path =>
    obtain ⟨b, ts, o, inside, c, rear, L, M, hcut⟩ := exists_cut hparse hpath
    simp [Scope.isDocument, hcut.braces] at hdocument
  | nil =>
    obtain rfl : d.root = s := Option.some.inj hpath
    obtain ⟨before, after, hending, happly⟩ :=
      exists_ending d.source (unit d d.root fallback) (lineEnd d.source)
    have hnil : ∀ c ∈ ([] : Text), Text.isIndent c = true := by simp
    obtain ⟨d', hparse', hsource, hnodes⟩ : ∃ d' : Document,
        Document.parse (filled before after (lineEnd d.source) [] (unit d d.root fallback) xs) =
          .ok d' ∧
        d'.source = filled before after (lineEnd d.source) [] (unit d d.root fallback) xs ∧
        d'.nodes = d.nodes ++ Property.allNodes (lineEnd d.source) (unit d d.root fallback)
          (Text.size before) [] xs :=
      ⟨_, parse_filled_document hwf hunit heol hparse hending, rfl, rfl⟩
    have hlineEnd := (Gate.ending hending).lineEnd_filled hpaired hnil hunit hxs hwf hlines
    refine ⟨fun ls => before ++ (Text.join (lineEnd d.source) ls ++ after), [], d', d'.root,
      fun ps hash _ => happly ps hash, hparse', ?_, fun ps unit' hash hps => ?_, fun _ => ?_⟩
    · refine hlater d' (Property.allShapes xs) _ ?_ rfl
      rw [hnodes, Node.shapes_append, Property.shapes_allNodes _ _ xs hwf]
      rfl
    · obtain ⟨before', after', hending', happly'⟩ :=
        exists_ending d'.source unit' (lineEnd d.source)
      rw [hsource] at hending'
      rw [← hending.resume heol (Property.renderAll_ne_nil hxs _ _)
        (Property.renderAll_ne_nil hps _ _)
        (Property.unbroken_renderAll hunit xs hwf hlines [] hnil) hending', hsource, hlineEnd,
        ← hsource]
      exact happly' ps hash
    · obtain ⟨hlined, hsome⟩ := Property.lined_renderAll heol hunit xs hwf hlines _ [] hnil
        (Text.marks_margin (hending.lastLine heol) _ after)
      obtain ⟨rest, hbefore⟩ := hending.exists_append
      have hsketches : Node.sketches d'.source.margin d'.nodes =
          Node.sketches d.source.margin d.nodes ++ Node.sketches d'.source.margin
            (Property.allNodes (lineEnd d.source) (unit d d.root fallback) (Text.size before) []
              xs) := by
        rw [hnodes, Node.sketches_append, hsource, filled, hbefore, List.append_assoc,
          sketches_append_text hparse]
      rw [← filled, ← hsource] at hlined hsome
      exact unit_stable hpath (unit_ne_nil hne) hsketches rfl hsketches hlined.regular (hsome hxs)
        (.inl fun k hk => .inr (hlined.indent k hk))

private theorem exists_resumes (hnames : ∀ n ∈ names, n.IsDotted) :
    ∃ text inner d' t,
      Resumes d names (target d names).1 (target d names).2 fallback xs text inner d' t := by
  rcases htarget : target d names with ⟨s, missing⟩
  cases missing with
  | cons n ns =>
    exact exists_resumes_nested hparse hpaired hfallback hne hxs hwf hlines hnames htarget
  | nil =>
    cases hdocument : s.isDocument with
    | true =>
      exact exists_resumes_document hparse hpaired hfallback hne hxs hwf hlines htarget hdocument
    | false =>
      exact exists_resumes_block hparse hpaired hfallback hne hxs hwf hlines htarget hdocument

end Second

private theorem Resumes.apply_second {d d' : Document} {names missing : List Text} {s t : Scope}
    {fallback inner : Text} {xs ys : List Property} {text : List Text → Text}
    (h : Resumes d names s missing fallback xs text inner d' t)
    (hys : (∀ p ∈ ys, ∀ n children, p ≠ .block n children) ∨ EndsLine d s) (hash : Text → UInt64) :
    let items := Property.nest (target d' names).2 ys
    let out := text (Property.renderAll inner (unit d s fallback) (xs ++ ys))
    (items = [] ∧ d'.source = out) ∨ (items ≠ [] ∧ Edit.apply d'.source
      [(place d'.source (target d' names).1 items (unit d' (target d' names).1 fallback)
        (lineEnd d'.source) hash).1] hash = .ok out) := by
  intro items out
  have hitems : items = ys := by simp only [items, h.target_eq, Property.nest]
  rw [hitems, h.target_eq]
  by_cases hnil : ys = []
  · refine .inl ⟨hnil, ?_⟩
    simp only [out, hnil, List.append_nil]
    exact Document.source_of_parse h.parse_eq
  · refine .inr ⟨hnil, ?_⟩
    have hrender : Property.renderAll inner (unit d' t fallback) ys =
        Property.renderAll inner (unit d s fallback) ys := by
      obtain hys | hends := hys
      · exact Property.renderAll_of_lines hys _ _ _
      · rw [h.unit_eq hends]
    rw [h.second ys _ hash hnil, hrender, ← Property.renderAll_append]

end Plan

/-! ## Drafts -/

namespace Property

private theorem validateAll_append (xs ys : List Property) :
    validateAll (xs ++ ys) = (validateAll xs).bind fun _ => validateAll ys := by
  induction xs with
  | nil => rfl
  | cons x xs ih =>
    rw [List.cons_append, validateAll, validateAll, ih]
    cases x.validate <;> rfl

end Property

namespace Script

section Draft

variable (s : Script) {d : Document} {pattern : Pattern} {names : List Text}
  (hchain : pattern.chain = .ok names) (hnames : ∀ n ∈ names, n.IsDotted) {ps : List Property}
  (hash : Text → UInt64)

include hchain hnames

private theorem validate_of_chain : pattern.validate = .ok () := by
  rw [Pattern.eq_ofPath_of_chain hchain]
  exact Plan.validate_ofPath hnames

private theorem draft_eq_error {f : Property.Flaw} (h : Property.validateAll ps = .error f) :
    s.draft d pattern ps hash = .error (.property f) := by
  rw [draft, Plan.make, validate_of_chain hchain hnames, hchain, h]
  rfl

private theorem exists_draft (h : Property.validateAll ps = .ok ()) {out : Text}
    (hout : let items := Property.nest (Plan.target d names).2 ps
      (items = [] ∧ d.source = out) ∨ (items ≠ [] ∧
        Edit.apply d.source [(Plan.place d.source (Plan.target d names).1 items
          (Plan.unit d (Plan.target d names).1 s.unit) (Plan.lineEnd d.source) hash).1] hash =
            .ok out)) :
    ∃ plan, s.draft d pattern ps hash = .ok (plan, out) := by
  obtain ⟨plan, hmake, hcreated, hedits⟩ :=
    Plan.exists_make (d := d) (validate_of_chain hchain hnames) hchain h s.unit hash
  have happly : Edit.apply d.source plan.edits hash = .ok out := by
    rw [hcreated] at hedits
    obtain ⟨hnil, hedits⟩ | ⟨hne, hedits⟩ := hedits
    · obtain ⟨-, rfl⟩ | ⟨hne, -⟩ := hout
      · rw [hedits, Edit.apply_nil]
      · exact absurd hnil hne
    · obtain ⟨hnil, -⟩ | ⟨-, hout⟩ := hout
      · exact absurd hnil hne
      · rw [hedits, hout]
  refine ⟨plan, ?_⟩
  rw [draft, hmake]
  change (Except.mapError ScriptError.edit (Edit.apply d.source plan.edits hash) >>= _) = _
  rw [happly]
  rfl

end Draft

/-- Let a script parse, with a line feed behind every carriage return. Properties that go to a path
of it in two turns, with the script parsed again in between, leave the text that they leave at once,
or fail for the same reason; and they fail only if one of them is invalid. For blocks in the second
turn no node may stand behind the target in the line of its closing brace: the first turn would give
that node another margin, and the unit of blocks is read off margins. -/
theorem successive_drafts_eq_batch {source : Text} {d : Document}
    (hparse : Document.parse source = .ok d) (hpaired : source.isPaired = true)
    {pattern : Pattern} {names : List Text} (hchain : pattern.chain = .ok names)
    (hnames : ∀ n ∈ names, n.IsDotted) (s : Script) (hne : s.unit ≠ [])
    (hunit : ∀ c ∈ s.unit, Text.isIndent c = true) {xs : List Property} (hxs : xs ≠ [])
    (hwf : Property.AllWellFormed xs) (hlines : Property.AllUnbroken xs) (ys : List Property)
    (hys : (∀ p ∈ ys, ∀ n children, p ≠ .block n children) ∨
      Plan.EndsLine d (Plan.target d names).1) (hash : Text → UInt64) :
    (do
      let (_, text) ← s.draft d pattern xs hash
      let d' ← Parser.native.parse text
      let (_, text') ← s.draft d' pattern ys hash
      return text') = (do
      let (_, text) ← s.draft d pattern (xs ++ ys) hash
      return text) ∧
    (Property.validateAll (xs ++ ys) = .ok () →
      ∃ plan text, s.draft d pattern (xs ++ ys) hash = .ok (plan, text)) := by
  obtain rfl := Document.source_of_parse hparse
  obtain ⟨text, inner, d', t, h⟩ :=
    Plan.exists_resumes hparse hpaired hunit hne hxs hwf hlines hnames
  have hfirst {ps : List Property} (hps : ps ≠ []) (hvalid : Property.validateAll ps = .ok ()) :
      ∃ plan, s.draft d pattern ps hash = .ok (plan, text (Property.renderAll inner
        (Plan.unit d (Plan.target d names).1 s.unit) ps)) :=
    s.exists_draft hchain hnames hash hvalid
      (.inr ⟨fun hnil => hps (Plan.nest_eq_nil_iff.mp hnil).2, h.first ps hash hps⟩)
  have hbatch (hvalid : Property.validateAll (xs ++ ys) = .ok ()) := hfirst (by simp [hxs]) hvalid
  refine ⟨?_, fun hvalid => (hbatch hvalid).imp fun plan hplan => ⟨_, hplan⟩⟩
  have happend := Property.validateAll_append xs ys
  cases hx : Property.validateAll xs with
  | error f =>
    rw [hx] at happend
    rw [s.draft_eq_error hchain hnames hash hx, s.draft_eq_error hchain hnames hash happend]
    rfl
  | ok =>
    obtain ⟨plan, hdraft⟩ := hfirst hxs hx
    have hparsed : Parser.native.parse (text (Property.renderAll inner
        (Plan.unit d (Plan.target d names).1 s.unit) xs)) = .ok d' := by
      simp only [Parser.native, h.parse_eq, Except.mapError]
    simp only [hdraft, hparsed, bind, Except.bind]
    rw [hx] at happend
    cases hy : Property.validateAll ys with
    | error f =>
      rw [s.draft_eq_error hchain hnames hash hy,
        s.draft_eq_error hchain hnames hash (happend.trans hy)]
    | ok =>
      obtain ⟨plan', hdraft'⟩ := hbatch (happend.trans hy)
      obtain ⟨plan₂, hdraft₂⟩ :=
        s.exists_draft hchain hnames hash hy (h.apply_second hys hash)
      rw [hdraft', hdraft₂]

/-- The first line leaves its block spread over lines; the second turn finds it so. -/
theorem successive_drafts_eq_batch_inline :
    let s : Script := ⟨"s".toList, .native, [' ']⟩
    let pattern := Pattern.ofPath ["x".toList, "a".toList]
    let xs : List Property := [.line "c".toList "2".toList .statement]
    let ys : List Property := [.block "d".toList [.line "e".toList "3".toList .property]]
    ∃ d, Document.parse "x \x7b\r\n\ta \x7b b 1 \x7d\r\n\x7d\r\n".toList = .ok d ∧
      Plan.EndsLine d (Plan.target d ["x".toList, "a".toList]).1 ∧
      (do
        let (_, text) ← s.draft d pattern xs fun _ => 0
        let d' ← Parser.native.parse text
        let (_, text') ← s.draft d' pattern ys fun _ => 0
        return text') = (do
        let (_, text) ← s.draft d pattern (xs ++ ys) fun _ => 0
        return text) ∧
      ∃ plan text, s.draft d pattern (xs ++ ys) (fun _ => 0) = .ok (plan, text) := by
  intro s pattern xs ys
  have hparse : ∃ d, Document.parse "x \x7b\r\n\ta \x7b b 1 \x7d\r\n\x7d\r\n".toList = .ok d ∧
      Plan.EndsLine d (Plan.target d ["x".toList, "a".toList]).1 := ⟨_, by cbv, by decide⟩
  have hnames : ∀ n ∈ ["x".toList, "a".toList], Text.IsDotted n := by
    intro n hn
    have : n = "x".toList ∨ n = "a".toList := by simpa using hn
    obtain rfl | rfl := this
    · exact ⟨['x'], [], rfl, ⟨'x', [], rfl, by decide, by simp⟩, by simp⟩
    · exact ⟨['a'], [], rfl, ⟨'a', [], rfl, by decide, by simp⟩, by simp⟩
  have hwf : Property.AllWellFormed xs := ⟨⟨_, _, _, by cbv, rfl, rfl⟩, trivial⟩
  have hlines : Property.AllUnbroken xs := by
    refine ⟨?_, trivial⟩
    change ∀ c ∈ ['c', '2'], c ≠ '\n' ∧ c ≠ '\r'
    simp
  have hunit : ∀ c ∈ [' '], Text.isIndent c = true := List.forall_mem_singleton.mpr (by decide)
  have hchain : pattern.chain = .ok ["x".toList, "a".toList] := rfl
  obtain ⟨d, hd, hends⟩ := hparse
  obtain ⟨heq, hbatch⟩ := successive_drafts_eq_batch hd (by decide) hchain hnames s (by decide)
    hunit (List.cons_ne_nil _ _) hwf hlines ys (.inr hends) fun _ => 0
  exact ⟨d, hd, hends, heq, hbatch rfl⟩

end Script
end Graft
