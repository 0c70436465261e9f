import Graft.Proofs.Grammar.Accept
import Mathlib

/-!
# Derivations are unique

Two derivations of the same tokens agree part by part. Each lemma takes tokens that begin with a
part in two ways and shows that the parts and what follows them are the same. The main statement is
that a script is accepted exactly when it has a derivation, and that it then has only one.
-/
namespace Graft.Grammar

open Graft.Tree

/-! ## Names -/

private theorem linked_unique {stop : Nat} {ps qs : List (Token × Token)} {r s : List Token}
    (hp : Name.Linked stop ps) (hq : Name.Linked stop qs)
    (hpm : ¬ Name.Extends (Name.stopFrom stop ps) r)
    (hqm : ¬ Name.Extends (Name.stopFrom stop qs) s)
    (h : (ps.flatMap fun p => [p.1, p.2]) ++ r = (qs.flatMap fun p => [p.1, p.2]) ++ s) :
    ps = qs ∧ r = s := by
  induction ps generalizing stop qs with
  | nil =>
    cases qs with
    | nil => exact ⟨rfl, by simpa using h⟩
    | cons q qs =>
      have hr : r = q.1 :: q.2 :: ((qs.flatMap fun p => [p.1, p.2]) ++ s) := by simpa using h
      exact absurd ⟨q.1, q.2, _, hr, hq.1, hq.2.1⟩ hpm
  | cons p ps ih =>
    cases qs with
    | nil =>
      have hs : s = p.1 :: p.2 :: ((ps.flatMap fun p => [p.1, p.2]) ++ r) := by simpa using h.symm
      exact absurd ⟨p.1, p.2, _, hs, hp.1, hp.2.1⟩ hqm
    | cons q qs =>
      simp only [List.flatMap_cons, List.cons_append, List.nil_append, List.cons.injEq] at h
      obtain ⟨hpoint, hident, hrest⟩ := h
      obtain rfl : p = q := Prod.ext hpoint hident
      obtain ⟨rfl, rfl⟩ := ih hp.2.2 hq.2.2 hpm hqm hrest
      exact ⟨rfl, rfl⟩

private theorem Name.Valid.unique {m n : Name} {r s : List Token} (hm : m.Valid r) (hn : n.Valid s)
    (h : m.tokens ++ r = n.tokens ++ s) : m = n ∧ r = s := by
  obtain ⟨a, ps⟩ := m
  obtain ⟨b, qs⟩ := n
  simp only [Name.tokens, List.cons_append, List.cons.injEq] at h
  obtain ⟨rfl, hrest⟩ := h
  obtain ⟨rfl, rfl⟩ := linked_unique hm.linked hn.linked hm.maximal hn.maximal hrest
  exact ⟨rfl, rfl⟩

/-! ## Arguments -/

private theorem opening_ne_closing {o c o' c' : Token} (h : IsEnclosed o c ∨ IsBraced o c)
    (h' : IsEnclosed o' c' ∨ IsBraced o' c') : c ≠ o' := by
  rintro rfl
  rcases h with (h | h) | h <;> rcases h' with (h' | h') | h' <;>
    exact absurd (isSymbol_unique h.2 h'.1) (by decide)

private theorem Pieces.Nested.unique {p q : Pieces} {b b' c d : Token} {r s : List Token}
    (hp : p.Nested) (hq : q.Nested) (hc : IsEnclosed b c ∨ IsBraced b c)
    (hd : IsEnclosed b' d ∨ IsBraced b' d) (h : p.tokens ++ c :: r = q.tokens ++ d :: s) :
    p = q ∧ c = d ∧ r = s := by
  induction hp generalizing q b b' c d r s with
  | nil =>
    cases hq with
    | nil => exact ⟨rfl, by simpa [Pieces.tokens] using h⟩
    | token ht _ =>
      simp only [Pieces.tokens, List.nil_append, List.cons_append, List.cons.injEq] at h
      exact absurd (h.1 ▸ (isBracket_of_group hc).2) ht
    | group hg _ _ =>
      simp only [Pieces.tokens, List.nil_append, List.cons_append, List.cons.injEq] at h
      exact absurd h.1 (opening_ne_closing hc hg)
  | token ht _ ih =>
    cases hq with
    | nil =>
      simp only [Pieces.tokens, List.nil_append, List.cons_append, List.cons.injEq] at h
      exact absurd (h.1 ▸ (isBracket_of_group hd).2) ht
    | token _ hq =>
      simp only [Pieces.tokens, List.cons_append, List.cons.injEq] at h
      obtain ⟨rfl, h⟩ := h
      obtain ⟨rfl, hrest⟩ := ih hq hc hd h
      exact ⟨rfl, hrest⟩
    | group hg _ _ =>
      simp only [Pieces.tokens, List.cons_append, List.cons.injEq] at h
      exact absurd (h.1 ▸ (isBracket_of_group hg).1) ht
  | group hg _ _ ihi ihr =>
    cases hq with
    | nil =>
      simp only [Pieces.tokens, List.nil_append, List.cons_append, List.cons.injEq] at h
      exact absurd h.1.symm (opening_ne_closing hd hg)
    | token ht _ =>
      simp only [Pieces.tokens, List.cons_append, List.cons.injEq] at h
      exact absurd (h.1 ▸ (isBracket_of_group hg).1) ht
    | group hg' hi' hr' =>
      simp only [Pieces.tokens, List.cons_append, List.append_assoc, List.cons.injEq] at h
      obtain ⟨rfl, h⟩ := h
      obtain ⟨rfl, rfl, hafter⟩ := ihi hi' hg hg' h
      obtain ⟨rfl, hrest⟩ := ihr hr' hc hd hafter
      exact ⟨rfl, hrest⟩

private theorem stops_opening {o c : Token} {ts r : List Token} (hg : IsEnclosed o c)
    (hs : StopsArguments r) : r ≠ o :: ts := by
  rintro rfl
  rcases hs o (by simp) with (h | h) | h | h
  · exact absurd h (by rw [kind_of_isBracket (isBracket_of_group (.inl hg)).1]; decide)
  all_goals
    rcases hg with hg | hg <;> exact absurd (isSymbol_unique h hg.1) (by decide)

private theorem stops_plain {t : Token} {ts r : List Token} (hsep : ¬ IsSeparator t)
    (hb : ¬ IsBracket t) (hs : StopsArguments r) : r ≠ t :: ts := by
  rintro rfl
  rcases hs t (by simp) with h | h | h
  · exact hsep h
  · exact hb ⟨'}', by simp, h⟩
  · exact hb ⟨'{', by simp, h⟩

private theorem Pieces.Arguments.unique {p q : Pieces} {r s : List Token} (hp : p.Arguments)
    (hq : q.Arguments) (hr : StopsArguments r) (hs : StopsArguments s)
    (h : p.tokens ++ r = q.tokens ++ s) : p = q ∧ r = s := by
  induction hp generalizing q with
  | nil =>
    cases hq with
    | nil => exact ⟨rfl, by simpa [Pieces.tokens] using h⟩
    | token hsep hb _ => exact absurd h (stops_plain hsep hb hr)
    | group hg _ _ =>
      simp only [Pieces.tokens, List.nil_append, List.cons_append] at h
      exact absurd h (stops_opening hg hr)
  | token hsep hb _ ih =>
    cases hq with
    | nil => exact absurd h.symm (stops_plain hsep hb hs)
    | token _ _ hq =>
      simp only [Pieces.tokens, List.cons_append, List.cons.injEq] at h
      obtain ⟨rfl, h⟩ := h
      obtain ⟨rfl, hrest⟩ := ih hq h
      exact ⟨rfl, hrest⟩
    | group hg _ _ =>
      simp only [Pieces.tokens, List.cons_append, List.cons.injEq] at h
      exact absurd (h.1 ▸ (isBracket_of_group (.inl hg)).1) hb
  | group hg hi _ ih =>
    cases hq with
    | nil =>
      simp only [Pieces.tokens, List.nil_append, List.cons_append] at h
      exact absurd h.symm (stops_opening hg hs)
    | token _ hb _ =>
      simp only [Pieces.tokens, List.cons_append, List.cons.injEq] at h
      exact absurd (h.1 ▸ (isBracket_of_group (.inl hg)).1) hb
    | group hg' hi' hr' =>
      simp only [Pieces.tokens, List.cons_append, List.append_assoc, List.cons.injEq] at h
      obtain ⟨rfl, h⟩ := h
      obtain ⟨rfl, rfl, hafter⟩ := hi.unique hi' (.inl hg) (.inl hg') h
      obtain ⟨rfl, hrest⟩ := ih hr' hafter
      exact ⟨rfl, hrest⟩

/-! ## Bodies -/

/-- What follows a body is nothing or a closing brace. -/
def Closed (after : List Token) : Prop := ∀ t ∈ after.head?, t.isSymbol '}'

private theorem breaks_unique {breaks breaks' : List Token} {o o' : Token} {r s : List Token}
    (hb : ∀ t ∈ breaks, t.kind = .newline) (hb' : ∀ t ∈ breaks', t.kind = .newline)
    (ho : o.isSymbol '{') (ho' : o'.isSymbol '{') (h : breaks ++ o :: r = breaks' ++ o' :: s) :
    breaks = breaks' ∧ o = o' ∧ r = s := by
  have hline : o.kind ≠ .newline := kind_ne_of_isSymbol ho (by decide)
  have hline' : o'.kind ≠ .newline := kind_ne_of_isSymbol ho' (by decide)
  induction breaks generalizing breaks' with
  | nil =>
    cases breaks' with
    | nil => exact ⟨rfl, by simpa using h⟩
    | cons t breaks' =>
      simp only [List.nil_append, List.cons_append, List.cons.injEq] at h
      exact absurd (h.1 ▸ hb' t (by simp)) hline
  | cons t breaks ih =>
    cases breaks' with
    | nil =>
      simp only [List.nil_append, List.cons_append, List.cons.injEq] at h
      exact absurd (h.1 ▸ hb t (by simp)) hline'
    | cons t' breaks' =>
      simp only [List.cons_append, List.cons.injEq] at h
      obtain ⟨rfl, h⟩ := h
      obtain ⟨rfl, hrest⟩ :=
        ih (fun u hu => hb u (by simp [hu])) (fun u hu => hb' u (by simp [hu])) h
      exact ⟨rfl, hrest⟩

private theorem closed_separator {t : Token} {ts after : List Token} (ht : IsSeparator t)
    (ha : Closed after) : after ≠ t :: ts := by
  rintro rfl
  have hc : t.isSymbol '}' := ha t (by simp)
  rcases ht with h | h
  · exact kind_ne_of_isSymbol hc (by decide) h
  · exact absurd (isSymbol_unique hc h) (by decide)

private theorem closed_name {n : Name} {r ts after : List Token} (hn : n.Valid r)
    (ha : Closed after) : after ≠ n.tokens ++ ts := by
  rintro rfl
  have hc : n.first.isSymbol '}' := ha n.first (by simp [Name.tokens])
  exact kind_ne_of_isSymbol hc (by decide) hn.identifier

private theorem separator_ne_name {t : Token} {n : Name} {r ts us : List Token} (ht : IsSeparator t)
    (hn : n.Valid r) : t :: ts ≠ n.tokens ++ us := by
  intro h
  simp only [Name.tokens, List.cons_append, List.cons.injEq] at h
  have hk : t.kind = .identifier := h.1 ▸ hn.identifier
  rcases ht with h | h
  · rw [hk] at h
    cases h
  · exact kind_ne_of_isSymbol h (by decide) hk

private theorem Ended.stopsArguments {ts : List Token} (h : Ended ts) : StopsArguments ts := by
  intro t ht
  rcases h t ht with h | h
  · exact .inl h
  · exact .inr (.inl h)

private theorem stopsArguments_breaks {breaks ts : List Token} {o : Token} (ho : o.isSymbol '{')
    (hb : ∀ t ∈ breaks, t.kind = .newline) : StopsArguments (breaks ++ o :: ts) := by
  intro t ht
  cases breaks with
  | nil =>
    obtain rfl : o = t := by simpa using ht
    exact .inr (.inr ho)
  | cons u breaks =>
    obtain rfl : u = t := by simpa using ht
    exact .inl (.inl (hb u (by simp)))

private theorem statement_ne_block {args header : Pieces} {breaks r s : List Token} {o : Token}
    (ha : args.Arguments) (hh : header.Arguments) (hne : args ≠ .nil) (hend : Ended r)
    (ho : o.isSymbol '{') (hb : ∀ t ∈ breaks, t.kind = .newline)
    (hor : header = .nil ∨ breaks = []) :
    args.tokens ++ r ≠ header.tokens ++ (breaks ++ o :: s) := by
  intro h
  obtain ⟨rfl, rfl⟩ := ha.unique hh hend.stopsArguments (stopsArguments_breaks ho hb) h
  obtain rfl : breaks = [] := hor.resolve_left hne
  rcases hend o (by simp) with (h | h) | h
  · exact kind_ne_of_isSymbol ho (by decide) h
  · exact absurd (isSymbol_unique ho h) (by decide)
  · exact absurd (isSymbol_unique ho h) (by decide)

private theorem Body.Valid.unique {a b : Body} {after after' : List Token} (ha : a.Valid after)
    (hb : b.Valid after') (hc : Closed after) (hc' : Closed after')
    (h : a.tokens ++ after = b.tokens ++ after') : a = b ∧ after = after' := by
  induction ha generalizing b after' with
  | nil =>
    cases hb with
    | nil => exact ⟨rfl, by simpa [Body.tokens] using h⟩
    | separator ht _ => exact absurd h (closed_separator ht hc)
    | statement hn _ _ _ _ =>
      simp only [Body.tokens, List.nil_append, List.append_assoc] at h
      exact absurd h (closed_name hn hc)
    | block hn _ _ _ _ _ _ =>
      simp only [Body.tokens, List.nil_append, List.append_assoc] at h
      exact absurd h (closed_name hn hc)
  | separator ht _ ih =>
    cases hb with
    | nil => exact absurd h.symm (closed_separator ht hc')
    | separator _ hb =>
      simp only [Body.tokens, List.cons_append, List.cons.injEq] at h
      obtain ⟨rfl, h⟩ := h
      obtain ⟨rfl, hrest⟩ := ih hb hc hc' h
      exact ⟨rfl, hrest⟩
    | statement hn _ _ _ _ =>
      simp only [Body.tokens, List.cons_append, List.append_assoc] at h
      exact absurd h (separator_ne_name ht hn)
    | block hn _ _ _ _ _ _ =>
      simp only [Body.tokens, List.cons_append, List.append_assoc] at h
      exact absurd h (separator_ne_name ht hn)
  | statement hn hne hargs hend _ ih =>
    cases hb with
    | nil =>
      simp only [Body.tokens, List.nil_append, List.append_assoc] at h
      exact absurd h.symm (closed_name hn hc')
    | separator ht _ =>
      simp only [Body.tokens, List.cons_append, List.append_assoc] at h
      exact absurd h.symm (separator_ne_name ht hn)
    | statement hn' _ hargs' hend' hb =>
      simp only [Body.tokens, List.append_assoc] at h
      obtain ⟨rfl, hafter⟩ := hn.unique hn' h
      obtain ⟨rfl, htail⟩ := hargs.unique hargs' hend.stopsArguments hend'.stopsArguments hafter
      obtain ⟨rfl, hrest⟩ := ih hb hc hc' htail
      exact ⟨rfl, hrest⟩
    | block hn' hh hbr hor ho _ _ =>
      simp only [Body.tokens, List.append_assoc, List.cons_append] at h
      obtain ⟨rfl, htail⟩ := hn.unique hn' h
      exact absurd htail (statement_ne_block hargs hh hne hend ho.1 hbr hor)
  | block hn hh hbr hor ho _ _ ihi ihr =>
    cases hb with
    | nil =>
      simp only [Body.tokens, List.nil_append, List.append_assoc] at h
      exact absurd h.symm (closed_name hn hc')
    | separator ht _ =>
      simp only [Body.tokens, List.cons_append, List.append_assoc] at h
      exact absurd h.symm (separator_ne_name ht hn)
    | statement hn' hne' hargs' hend' _ =>
      simp only [Body.tokens, List.append_assoc, List.cons_append] at h
      obtain ⟨rfl, htail⟩ := hn.unique hn' h
      exact absurd htail.symm (statement_ne_block hargs' hh hne' hend' ho.1 hbr hor)
    | block hn' hh' hbr' hor' ho' hi' hb =>
      simp only [Body.tokens, List.append_assoc, List.cons_append] at h
      obtain ⟨rfl, hafter⟩ := hn.unique hn' h
      obtain ⟨rfl, hopen⟩ := hh.unique hh' (stopsArguments_breaks ho.1 hbr)
        (stopsArguments_breaks ho'.1 hbr') hafter
      obtain ⟨rfl, rfl, hinside⟩ := breaks_unique hbr hbr' ho.1 ho'.1 hopen
      obtain ⟨rfl, hclose⟩ := ihi hi' (by simpa [Closed] using ho.2) (by simpa [Closed] using ho'.2)
        hinside
      simp only [List.cons.injEq] at hclose
      obtain ⟨rfl, htail⟩ := hclose
      obtain ⟨rfl, hrest⟩ := ihr hb hc hc' htail
      exact ⟨rfl, hrest⟩

private theorem Body.Derives.unique {a b : Body} {ts : List Token} (ha : a.Derives ts)
    (hb : b.Derives ts) : a = b := by
  have h : a.tokens ++ [] = b.tokens ++ [] := by rw [ha.1, hb.1]
  exact (ha.2.unique hb.2 (by simp [Closed]) (by simp [Closed]) h).1

theorem parse_of_scan {source : Text} {tokens : List Token} (h : Token.scan source = .ok tokens) :
    Document.parse source = match build (Token.significant tokens) with
      | .ok nodes => .ok ⟨source, nodes⟩
      | .error f => .error (.parse ⟨.flaw f.flaw, .locate source f.offset⟩) := by
  rw [Document.parse, h]
  change Except.bind (Except.mapError _ (build (Token.significant tokens))) _ = _
  cases build (Token.significant tokens) <;> rfl

/-- A script that can be cut into tokens is accepted exactly when its significant tokens have a
derivation. There is then one derivation, and its nodes are the tree; otherwise the script is
refused for its grammar. -/
theorem parse_iff_existsUnique_derivation {source : Text} {tokens : List Token}
    (h : Token.scan source = .ok tokens) :
    ((∃ d, Document.parse source = .ok d) ↔ ∃! b : Body, b.Derives (Token.significant tokens)) ∧
      (∀ b : Body, b.Derives (Token.significant tokens) →
        Document.parse source = .ok ⟨source, b.nodes⟩) ∧
      ((¬ ∃ b : Body, b.Derives (Token.significant tokens)) →
        ∃ e, Document.parse source = .error (.parse e)) := by
  have haccept (b : Body) (hb : b.Derives (Token.significant tokens)) :
      Document.parse source = .ok ⟨source, b.nodes⟩ := by
    rw [parse_of_scan h, build_eq_ok_iff.mpr ⟨b, hb, rfl⟩]
  have hrefuse (hno : ¬ ∃ b : Body, b.Derives (Token.significant tokens)) :
      ∃ e, Document.parse source = .error (.parse e) := by
    rw [parse_of_scan h]
    cases hbuild : build (Token.significant tokens) with
    | ok nodes =>
      obtain ⟨b, hb, _⟩ := build_eq_ok_iff.mp hbuild
      exact absurd ⟨b, hb⟩ hno
    | error f => exact ⟨_, rfl⟩
  refine ⟨⟨?_, ?_⟩, haccept, hrefuse⟩
  · rintro ⟨d, hd⟩
    by_cases hex : ∃ b : Body, b.Derives (Token.significant tokens)
    · obtain ⟨b, hb⟩ := hex
      exact ⟨b, hb, fun c hc => hc.unique hb⟩
    · obtain ⟨e, he⟩ := hrefuse hex
      rw [he] at hd
      cases hd
  · rintro ⟨b, hb, _⟩
    exact ⟨_, haccept b hb⟩

theorem existsUnique_derivation_nested :
    ∃ tokens, Token.scan "a\x7bb.c 1;d(\n'x')\x7d".toList = .ok tokens ∧
      ∃! b : Body, b.Derives (Token.significant tokens) := by
  have hscan : Token.scan "a\x7bb.c 1;d(\n'x')\x7d".toList = .ok (Token.place 0 [
      ⟨.identifier, ['a']⟩, ⟨.symbol, ['{']⟩, ⟨.identifier, ['b']⟩, ⟨.symbol, ['.']⟩,
      ⟨.identifier, ['c']⟩, ⟨.whitespace, [' ']⟩, ⟨.number, ['1']⟩, ⟨.symbol, [';']⟩,
      ⟨.identifier, ['d']⟩, ⟨.symbol, ['(']⟩, ⟨.newline, ['\n']⟩, ⟨.string, ['\'', 'x', '\'']⟩,
      ⟨.symbol, [')']⟩, ⟨.symbol, ['}']⟩]) := by cbv
  have hparse : ∃ d, Document.parse "a\x7bb.c 1;d(\n'x')\x7d".toList = .ok d := ⟨_, by cbv⟩
  exact ⟨_, hscan, (parse_iff_existsUnique_derivation hscan).1.mp hparse⟩

end Graft.Grammar
