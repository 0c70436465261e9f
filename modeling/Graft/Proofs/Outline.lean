import Graft.Proofs.Landing
import Graft.Proofs.Scan

/-!
# Outlines of parsed scripts

A grammar helper that reports the tree of the parser is understood: the outline of a parsed script
is converted back to the same tree. Headers and arguments are scanned anew for it, cut out of the
source. They are cut at ends of tokens, so they give the same tokens, but for one thing: what begins
with `#!` is a first line when it stands alone.
-/
namespace Graft

open Lexeme (AllStand Begins texts)
open Token (StandsIn Tiles place significant)
open Grammar (Layout kept)

/-! ## Outlines -/

namespace Node

mutual

/-- What a helper reports of a node. -/
def outline : Node → Outline
  | statement n s _ => .statement n s.start s.stop
  | block n s _ b cs => .block n s.start s.stop b.opening b.closing (outlines cs)

def outlines : List Node → List Outline
  | [] => []
  | n :: ns => outline n :: outlines ns

end

/-- Right behind the name of the node stands `#!`. -/
def IsMarked (source : Text) (n : Node) : Prop :=
  ['#', '!'] <+: (source.slice n.span.start n.span.stop).drop n.name.length

instance (source : Text) (n : Node) : Decidable (n.IsMarked source) :=
  inferInstanceAs (Decidable (_ <+: _))

end Node

/-! ## Parts of the tokens -/

namespace Token

private theorem place_eq_append {p : Nat} {ls : List Lexeme} {xs ys : List Token}
    (h : place p ls = xs ++ ys) :
    ∃ ks ms, ls = ks ++ ms ∧ xs = place p ks ∧ ys = place (p + Text.size (texts ks)) ms := by
  induction ls generalizing p xs with
  | nil =>
    obtain ⟨rfl, rfl⟩ := List.append_eq_nil_iff.mp h.symm
    exact ⟨[], [], rfl, rfl, rfl⟩
  | cons l ls ih =>
    cases xs with
    | nil => exact ⟨[], l :: ls, rfl, rfl, by simpa using h.symm⟩
    | cons x xs =>
      obtain ⟨rfl, hrest⟩ := List.cons.inj h
      obtain ⟨ks, ms, rfl, rfl, rfl⟩ := ih hrest
      exact ⟨l :: ks, ms, rfl, rfl, by simp [Nat.add_assoc]⟩

theorem map_shift_place (k p : Nat) (ls : List Lexeme) :
    (place p ls).map (shift k) = place (p + k) ls := by
  induction ls generalizing p with
  | nil => rfl
  | cons l ls ih =>
    rw [place, List.map_cons, ih, Nat.add_right_comm]
    rfl

private theorem kept_map_shift (k : Nat) (ts : List Token) :
    (kept ts).map (shift k) = kept (ts.map (shift k)) := by
  simp only [kept, significant, List.filter_map]
  rfl

/-- The tokens are those of a text that stands before some other text. -/
def IsCut (ts : List Token) : Prop := ∃ p ls rest, ts = place p ls ∧ AllStand ls rest

/-- Any part of the tokens that has tokens before it is a cut. -/
def IsCutWithin (ts : List Token) : Prop :=
  ∀ xs ys zs, xs ≠ [] → ts = xs ++ (ys ++ zs) → IsCut ys

private theorem isCutWithin_of_begins {ls : List Lexeme} {rest : Text} (h : Begins ls rest)
    (p : Nat) : IsCutWithin (place p ls) := by
  intro xs ys zs hne heq
  obtain ⟨ks, ms, rfl, rfl, hys⟩ := place_eq_append heq
  obtain ⟨ns, os, rfl, rfl, -⟩ := place_eq_append hys.symm
  have hks : ks ≠ [] := by
    rintro rfl
    exact hne rfl
  have hstand : AllStand (ns ++ os) rest := by
    generalize hls : ks ++ (ns ++ os) = ls at h
    cases h with
    | plain _ hstand =>
      subst hls
      exact (Lexeme.allStand_append.mp hstand).2
    | line _ _ hstand =>
      cases ks with
      | nil => exact absurd rfl hks
      | cons k ks =>
        obtain ⟨-, rfl⟩ := List.cons.inj hls
        exact (Lexeme.allStand_append.mp hstand).2
  exact ⟨_, ns, _, rfl, (Lexeme.allStand_append.mp hstand).1⟩

private theorem IsCutWithin.mono (xs : List Token) {ys : List Token} (zs : List Token)
    (h : IsCutWithin (xs ++ (ys ++ zs))) : IsCutWithin ys := by
  rintro as bs cs hne rfl
  exact h (xs ++ as) bs (cs ++ zs) (by simp [hne]) (by simp)

private theorem IsCut.exists_place {ts : List Token} {k e : Nat} (h : IsCut ts)
    (htiles : Tiles k ts e) : ∃ ls, ts = place k ls ∧ AllStand ls [] := by
  obtain ⟨p, ls, rest, rfl, hstand⟩ := h
  refine ⟨ls, ?_, hstand.congr (Lexeme.replaces_nil rest)⟩
  cases ls with
  | nil => rfl
  | cons l ls =>
    obtain rfl : p = k := htiles.1.1
    rfl

end Token

/-! ## Scanning anew -/

namespace Outline

section
variable {source : Text} {ts : List Token} {k e : Nat}

theorem tokensIn_eq {ls : List Lexeme} {t : Text} (hslice : source.slice k e = t)
    (h : Lexeme.ofSource t = .ok ls) : tokensIn source k e = .ok (kept (place k ls)) := by
  have hkept := Token.kept_map_shift k (place 0 ls)
  rw [Token.map_shift_place, Nat.zero_add] at hkept
  rw [tokensIn, hslice, Token.scan, h, ← hkept]
  rfl

/-- The `#` of a first line is a token where the line is none. -/
theorem kept_ne_of_line {ls ks : List Lexeme} {rest line : Text} (hstand : AllStand ls rest)
    (hmark : ['#', '!'] <+: texts ls) :
    kept (place k (⟨.comment, '#' :: '!' :: line⟩ :: ks)) ≠ kept (place k ls) := by
  obtain ⟨l, ms, rfl, hkind⟩ : ∃ l ms, ls = l :: ms ∧ l.kind = .symbol := by
    cases ls with
    | nil => simp at hmark
    | cons l ms =>
      refine ⟨l, ms, rfl, ?_⟩
      obtain ⟨⟨c, a, hl, hext⟩, -⟩ := hstand
      obtain ⟨rfl, -⟩ : '#' = c ∧ _ := by simpa [hl] using hmark
      rw [Lexeme.extent_of_rule (.symbol (by decide) (by simp))] at hext
      exact (congrArg Prod.fst (Except.ok.inj hext)).symm
  intro heq
  have hmem : ⟨l, k⟩ ∈ kept (place k (l :: ms)) := by
    simp [kept, significant, place, Token.isTrivia, Token.Kind.isTrivia, hkind]
  rw [← heq] at hmem
  cases Grammar.mem_of_mem_kept hmem with
  | head => cases hkind
  | tail _ h =>
    have hstart := Token.start_of_mem_place h
    have hpos := Text.size_pos (List.cons_ne_nil '#' ('!' :: line))
    simp only at hstart
    omega

/-- A part of the tokens is scanned again as itself, unless it has a first line of its own. -/
theorem tokensIn_eq_kept_iff (htiles : Tiles k ts e) (hin : ∀ t ∈ ts, StandsIn source t)
    (hcut : Token.IsCut ts) :
    tokensIn source k e = .ok (kept ts) ↔ ¬ ['#', '!'] <+: ts.flatMap (·.text) := by
  have hslice := htiles.slice_eq hin
  obtain ⟨ls, rfl, hstand⟩ := hcut.exists_place htiles
  rw [Token.flatMap_text_place] at hslice ⊢
  constructor
  · intro h hmark
    cases hls : Lexeme.ofSource (texts ls) with
    | error f =>
      rw [tokensIn, hslice, Token.scan, hls] at h
      cases h
    | ok ms =>
      rw [tokensIn_eq hslice hls] at h
      obtain ⟨hmark', -⟩ | ⟨line, rest, ks, -, -, -, -, rfl⟩ := Lexeme.ofSource_eq_ok hls
      · exact hmark' hmark
      · exact kept_ne_of_line hstand hmark (Except.ok.inj h)
  · intro hmark
    refine tokensIn_eq hslice ?_
    rw [Lexeme.ofSource_eq_ofBody hmark, Lexeme.ofBody_texts hstand]

end

/-! ## Conversion -/

section
variable {source : Text} {parent : Span} {last : Nat}

private theorem checkSpan_of_placed {n : Node} (hn : n.Placed source)
    (hparent : parent.contains n.span) (hlast : last ≤ n.span.start) :
    checkSpan source parent last n.span.start n.span.stop = .ok n.span := by
  have hle := hn.start_lt_stop.le
  have hcontains : parent.contains ⟨n.span.start, n.span.stop⟩ = true := hparent
  rw [checkSpan, if_pos]
  simp [hle, hcontains, hlast, hn.boundary_start, hn.boundary_stop]

private theorem nameEnd_of_tiles {name ts : List Token} {m k e : Nat} (hname : Tiles m name k)
    (hts : Tiles k ts e) (hin : ∀ t ∈ name ++ ts, StandsIn source t) :
    nameEnd source m e (name.flatMap (·.text)) = k := by
  have hslice := (Token.tiles_append.mpr ⟨k, hname, hts⟩).slice_eq hin
  rw [List.flatMap_append] at hslice
  rw [nameEnd, hslice, if_pos (by simp), hname.stop_eq]

private theorem convertAll_cons_eq_ok_iff {o : Outline} {os : List Outline} {n : Node}
    {ns : List Node} : convertAll source parent last (o :: os) = .ok (n :: ns) ↔
      o.convert source parent last = .ok n ∧ convertAll source parent n.span.stop os = .ok ns := by
  rw [convertAll]
  constructor
  · intro h
    obtain ⟨m, hm, h⟩ := exists_of_bind_eq_ok h
    obtain ⟨ms, hms, h⟩ := exists_of_bind_eq_ok h
    cases h
    exact ⟨hm, hms⟩
  · rintro ⟨hn, hns⟩
    rw [hn]
    change (convertAll source parent n.span.stop os >>= fun ns => .ok (n :: ns)) = _
    rw [hns]
    rfl

private theorem convert_statement_eq_ok_iff (n : Text) {s : Span} (args : List Token)
    (hspan : checkSpan source parent last s.start s.stop = .ok s) :
    (Node.statement n s args).outline.convert source parent last = .ok (.statement n s args) ↔
      tokensIn source (nameEnd source s.start s.stop n) s.stop = .ok args := by
  rw [Node.outline, convert, hspan]
  change (tokensIn source (nameEnd source s.start s.stop n) s.stop >>= fun ts =>
    .ok (Node.statement n s ts)) = _ ↔ _
  constructor
  · intro h
    obtain ⟨ts, hts, h⟩ := exists_of_bind_eq_ok h
    cases h
    exact hts
  · intro h
    rw [h]
    rfl

private theorem convert_block_eq_ok_iff (n : Text) {s : Span} (header : List Token) {b : Braces}
    (cs : List Node) (hspan : checkSpan source parent last s.start s.stop = .ok s)
    (hopen : source.asciiAt? b.opening = some '{') (hclose : source.asciiAt? b.closing = some '}')
    (hle : s.start ≤ b.opening) (hlt : b.opening < b.closing) (hstop : b.closing < s.stop) :
    (Node.block n s header b cs).outline.convert source parent last =
        .ok (.block n s header b cs) ↔
      tokensIn source (nameEnd source s.start b.opening n) b.opening = .ok header ∧
        convertAll source ⟨b.opening + 1, b.closing⟩ (b.opening + 1) (Node.outlines cs) =
          .ok cs := by
  rw [Node.outline, convert, hspan]
  change (if _ then convertAll source ⟨b.opening + 1, b.closing⟩ (b.opening + 1)
    (Node.outlines cs) >>= fun ns => tokensIn source (nameEnd source s.start b.opening n) b.opening
      >>= fun ts => .ok (Node.block n s ts b ns) else _) = _ ↔ _
  rw [if_pos (by simp [hopen, hclose, hle, hlt, hstop])]
  constructor
  · intro h
    obtain ⟨ns, hns, h⟩ := exists_of_bind_eq_ok h
    obtain ⟨ts, hts, h⟩ := exists_of_bind_eq_ok h
    cases h
    exact ⟨hts, hns⟩
  · rintro ⟨hts, hns⟩
    rw [hns]
    change (tokensIn source (nameEnd source s.start b.opening n) b.opening >>= fun ts =>
      .ok (Node.block n s ts b cs)) = _
    rw [hts]
    rfl

end

end Outline

namespace Node

variable {source : Text}

private theorem isMarked_statement_iff {name args : List Token} {m k e : Nat}
    (hname : Tiles m name k)
    (hargs : Tiles k args e) (hin : ∀ t ∈ name ++ args, StandsIn source t) :
    (statement (name.flatMap (·.text)) ⟨m, e⟩ (kept args)).IsMarked source ↔
      ['#', '!'] <+: args.flatMap (·.text) := by
  have hslice := (Token.tiles_append.mpr ⟨k, hname, hargs⟩).slice_eq hin
  rw [List.flatMap_append] at hslice
  simp only [IsMarked, span, Node.name]
  rw [hslice, List.drop_left]

private theorem isMarked_block_iff {name header inside : List Token} {o c : Token} {m k : Nat}
    (cs : List Node) (hname : Tiles m name k) (hheader : Tiles k header o.start)
    (ho : o.isSymbol '{') (hc : c.isSymbol '}') (hinside : Tiles o.stop inside c.start)
    (hin : ∀ t ∈ name ++ (header ++ o :: (inside ++ [c])), StandsIn source t) :
    (block (name.flatMap (·.text)) ⟨m, c.stop⟩ (kept header) ⟨o.start, c.start⟩ cs).IsMarked
        source ↔ ['#', '!'] <+: header.flatMap (·.text) := by
  have htiles : Tiles m (name ++ (header ++ o :: (inside ++ [c]))) c.stop := by
    simp only [Token.tiles_append, Tiles]
    refine ⟨k, hname, _, hheader, ⟨rfl, ?_⟩, _, hinside, ⟨rfl, ?_⟩, trivial⟩
    · simp [(Tree.isSymbol_iff.mp ho).2]
    · simp [(Tree.isSymbol_iff.mp hc).2]
  have hslice := htiles.slice_eq hin
  rw [List.flatMap_append, List.flatMap_append, List.flatMap_cons, (Tree.isSymbol_iff.mp ho).2]
    at hslice
  simp only [IsMarked, span, Node.name]
  rw [hslice, List.drop_left]
  constructor
  · intro h
    by_contra hnot
    exact Lexeme.not_begins_append hnot (by decide) _ h
  · intro h
    exact h.trans (List.prefix_append _ _)

end Node

/-- The nodes of a layout come back from their outlines, unless one of them is marked. -/
theorem Grammar.Layout.convertAll_iff {source : Text} {p q : Nat} {ts : List Token}
    {ns : List Node} (h : Layout p ts q ns) (hin : ∀ t ∈ ts, StandsIn source t)
    (hcut : Token.IsCutWithin ts) (parent : Span) (last : Nat) (hstart : parent.start ≤ p)
    (hstop : q ≤ parent.stop) (hlast : last ≤ p) :
    Outline.convertAll source parent last (Node.outlines ns) = .ok ns ↔
      ∀ n ∈ Node.families ns, ¬ n.IsMarked source := by
  have hspan {n : Node} {ns : List Node} {ts : List Token} {p q last : Nat} {parent : Span}
      (hspread : Node.Spread source ts ⟨p, q⟩ (n :: ns)) (hstart : parent.start ≤ p)
      (hstop : q ≤ parent.stop) (hlast : last ≤ p) :
      Outline.checkSpan source parent last n.span.start n.span.stop = .ok n.span := by
    have hinside := Span.contains_iff.mp (hspread.inside n List.mem_cons_self)
    simp only at hinside
    exact Outline.checkSpan_of_placed (hspread.placed n List.mem_cons_self)
      (Span.contains_iff.mpr ⟨by omega, by omega⟩) (by omega)
  induction h generalizing parent last with
  | nil _ _ => simp [Node.outlines, Node.families, Outline.convertAll]
  | @statement p front m name k args e rest q ns hf hfill hn hne ha hrest ih =>
    have hlayout := Layout.statement hf hfill hn hne ha hrest
    have hin' : ∀ t ∈ name ++ args, StandsIn source t := by
      intro t ht
      exact hin t (by simp at ht ⊢; obtain ht | ht := ht <;> simp [ht])
    have hargs : Token.IsCut args := hcut (front ++ name) args rest (by simp [hne]) (by simp)
    have hrestcut : Token.IsCutWithin rest :=
      Token.IsCutWithin.mono (front ++ (name ++ args)) [] (by simpa using hcut)
    have hle : p ≤ e := hf.le.trans (hn.le.trans ha.le)
    have hone := Outline.convert_statement_eq_ok_iff (name.flatMap (·.text)) (kept args)
      (hspan (hlayout.spread hin) hstart hstop hlast)
    simp only [Node.span] at hone
    rw [Outline.nameEnd_of_tiles hn ha hin', Outline.tokensIn_eq_kept_iff ha
      (fun t ht => hin' t (by simp [ht])) hargs, ← Node.isMarked_statement_iff hn ha hin'] at hone
    have hothers := ih (fun t ht => hin t (by simp [ht])) hrestcut parent e (by omega) hstop
      (Nat.le_refl e)
    rw [Node.outlines, Outline.convertAll_cons_eq_ok_iff]
    refine (and_congr hone hothers).trans ?_
    simp [Node.families, Node.family]
  | @block p front m name k header o inside c rest q cs ns hf hfill hn hne hh ho hc hi hrest
      ihi ihr =>
    have hlayout := Layout.block hf hfill hn hne hh ho hc hi hrest
    have hin' : ∀ t ∈ name ++ (header ++ o :: (inside ++ [c])), StandsIn source t := by
      intro t ht
      exact hin t (by simp at ht ⊢; obtain ht | ht | ht | ht | ht := ht <;> simp [ht])
    have hheader : Token.IsCut header :=
      hcut (front ++ name) header (o :: (inside ++ c :: rest)) (by simp [hne]) (by simp)
    have hicut : Token.IsCutWithin inside :=
      Token.IsCutWithin.mono (front ++ (name ++ (header ++ [o]))) (c :: rest) (by simpa using hcut)
    have hrestcut : Token.IsCutWithin rest :=
      Token.IsCutWithin.mono (front ++ (name ++ (header ++ o :: (inside ++ [c])))) []
        (by simpa using hcut)
    have hopen : o.stop = o.start + 1 := Token.stop_of_isSymbol (by decide) ho
    have hclose : c.stop = c.start + 1 := Token.stop_of_isSymbol (by decide) hc
    have hle : p ≤ c.stop := by
      have := hf.le
      have := hn.le
      have := hh.le
      have := hi.tiles.le
      omega
    have hbraces := (hlayout.scopes hin ⟨name.flatMap (·.text), ⟨m, c.stop⟩,
      some ⟨o.start, c.start⟩, cs⟩ (by simp [Node.scopesOf, Node.scopes])).braces _ rfl
    have hone := Outline.convert_block_eq_ok_iff (name.flatMap (·.text)) (kept header) cs
      (hspan (hlayout.spread hin) hstart hstop hlast)
      hbraces.1 hbraces.2.1 hbraces.2.2.1.le hbraces.2.2.2.1 (by simp only [Node.span]; omega)
    simp only [Node.span] at hone
    rw [Outline.nameEnd_of_tiles hn hh
        (fun t ht => hin' t (by simp at ht ⊢; obtain ht | ht := ht <;> simp [ht])),
      Outline.tokensIn_eq_kept_iff hh (fun t ht => hin' t (by simp [ht])) hheader,
      ← Node.isMarked_block_iff cs hn hh ho hc hi.tiles hin', ← hopen] at hone
    have hchildren := ihi (fun t ht => hin' t (by simp [ht])) hicut ⟨o.stop, c.start⟩
      o.stop (Nat.le_refl _) (Nat.le_refl _) (Nat.le_refl _)
    have hothers := ihr (fun t ht => hin t (by simp [ht])) hrestcut parent c.stop (by omega)
      hstop (Nat.le_refl _)
    rw [Node.outlines, Outline.convertAll_cons_eq_ok_iff]
    refine (and_congr (hone.trans (and_congr_right fun _ => hchildren)) hothers).trans ?_
    simp [Node.families, Node.family, or_imp, forall_and, and_assoc]

/-- The outline of a parsed script is converted to the tree it was taken from, with every span,
brace and token, if and only if no node at any depth has `#!` right behind its name. -/
theorem Outline.toDocument_outlines_iff {source : Text} {d : Document}
    (h : Document.parse source = .ok d) :
    toDocument source (Node.outlines d.nodes) = .ok d ↔
      ∀ n ∈ Node.families d.nodes, ¬ n.IsMarked source := by
  obtain ⟨ts, hscan, hsource, hlayout, hin⟩ := Grammar.parse_layout h
  obtain ⟨ls, hls, rfl⟩ := Token.scan_eq_ok hscan
  obtain ⟨-, hbegins⟩ := Lexeme.ofSource_eq_ok_iff.mp hls
  have hconvert := hlayout.convertAll_iff hin (Token.isCutWithin_of_begins hbegins 0)
    ⟨0, source.size⟩ 0 (Nat.le_refl _) (Nat.le_refl _) (Nat.le_refl _)
  rw [← hconvert, toDocument]
  constructor
  · intro hdoc
    obtain ⟨ns, hns, heq⟩ := exists_of_bind_eq_ok hdoc
    cases heq
    exact hns
  · intro hns
    rw [hns, ← hsource]
    rfl

/-- A first line, blocks in one another, a header and characters of more than one byte come back; a
name with `#!` right behind it, in a block, does not. -/
theorem Outline.toDocument_outlines_iff_marked :
    (∃ d, Document.parse "#!é\na (b)\x7bc# !'é'; d.e\x7b/*#!*/\x7d\x7d".toList = .ok d ∧
      toDocument "#!é\na (b)\x7bc# !'é'; d.e\x7b/*#!*/\x7d\x7d".toList (Node.outlines d.nodes) =
        .ok d) ∧
    ∃ d, Document.parse "a\x7bb#!c\x7d".toList = .ok d ∧
      toDocument "a\x7bb#!c\x7d".toList (Node.outlines d.nodes) ≠ .ok d := by
  have hplain : ∃ d, Document.parse "#!é\na (b)\x7bc# !'é'; d.e\x7b/*#!*/\x7d\x7d".toList = .ok d ∧
      ∀ n ∈ Node.families d.nodes,
        ¬ n.IsMarked "#!é\na (b)\x7bc# !'é'; d.e\x7b/*#!*/\x7d\x7d".toList :=
    ⟨_, by cbv, by decide⟩
  have hmarked : ∃ d, Document.parse "a\x7bb#!c\x7d".toList = .ok d ∧
      ¬ ∀ n ∈ Node.families d.nodes, ¬ n.IsMarked "a\x7bb#!c\x7d".toList :=
    ⟨_, by cbv, by decide⟩
  obtain ⟨d, hd, hn⟩ := hplain
  obtain ⟨d', hd', hn'⟩ := hmarked
  exact ⟨⟨d, hd, (toDocument_outlines_iff hd).mpr hn⟩, d', hd',
    mt (toDocument_outlines_iff hd').mp hn'⟩

end Graft
