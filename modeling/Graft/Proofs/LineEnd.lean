import Graft.Proofs.Lexeme.Counterpart
import Graft.Proofs.Twin

/-!
# Scripts under another line end

A script with a carriage return before each line feed has the tree it had, with the carriage returns
inside literals and with every block as empty as it was. The one thing that stands in the way is a
literal of single quotes that goes on behind an escaped line feed.
-/
namespace Graft

open Lexeme (Counterpart Recut)

/-! ## Offsets -/

namespace Text

/-- The offset `n` of the text comes to lie at `n'` with carriage returns in the text. -/
def Carries (source : Text) (n n' : Nat) : Prop :=
  ∃ a b, source = a ++ b ∧ size a = n ∧ size (crlf a) = n'

private theorem Carries.eq_size {a b : Text} {n' : Nat} (h : Carries (a ++ b) (size a) n') :
    n' = size (crlf a) := by
  obtain ⟨c, d, hcd, hsize, rfl⟩ := h
  obtain ⟨rfl, -⟩ := append_inj_of_size hcd hsize.symm
  rfl

private theorem eq_nil_of_size_crlf {t : Text} (h : size (crlf t) = 0) : t = [] :=
  eq_nil_of_crlf (size_eq_zero h)

private theorem Carries.eq_iff {source : Text} {n n' m m' : Nat} (h : Carries source n n')
    (h' : Carries source m m') : n = m ↔ n' = m' := by
  obtain ⟨a, b, rfl, rfl, rfl⟩ := h
  constructor
  · rintro rfl
    exact h'.eq_size.symm
  · intro heq
    obtain ⟨c, d, hcd, rfl, rfl⟩ := h'
    obtain ⟨w, rfl, -⟩ | ⟨w, rfl, -⟩ := List.append_eq_append_iff.mp hcd
    · rw [crlf_append, size_append] at heq
      rw [eq_nil_of_size_crlf (t := w) (by omega), List.append_nil]
    · rw [crlf_append, size_append] at heq
      rw [eq_nil_of_size_crlf (t := w) (by omega), List.append_nil]

private theorem contains_crlf (t : Text) : (crlf t).contains '\n' = t.contains '\n' := by
  induction t with
  | nil => rfl
  | cons c t ih =>
    by_cases hc : c = '\n'
    · simp [hc]
    · rw [crlf_cons hc, List.contains_cons, List.contains_cons, ih]

private theorem isBlankText_crlf (t : Text) : isBlankText (crlf t) = isBlankText t := by
  induction t with
  | nil => rfl
  | cons c t ih =>
    rw [isBlankText, isBlankText] at ih ⊢
    by_cases hc : c = '\n'
    · rw [hc, crlf_newline, List.all_cons, List.all_cons, List.all_cons, ih]
      rfl
    · rw [crlf_cons hc, List.all_cons, List.all_cons, ih]

end Text

/-! ## Tokens and blocks that correspond -/

namespace Tree

variable {source : Text} {ps : List (Token × Token)} {t t' : Token}

private theorem carries_start (h : Counterpart source t t') (hkind : t.kind ≠ .newline) :
    source.Carries t.start t'.start := by
  obtain ⟨a, b, hsource, hstart, -, hstart'⟩ := h.place hkind
  exact ⟨a, t.text ++ b, hsource, hstart.symm, hstart'.symm⟩

private theorem carries_stop (h : Counterpart source t t') (hkind : t.kind ≠ .newline) :
    source.Carries t.stop t'.stop := by
  obtain ⟨a, b, hsource, hstart, htext, hstart'⟩ := h.place hkind
  refine ⟨a ++ t.text, b, by simp [hsource], ?_, ?_⟩
  · rw [Token.stop, hstart, Text.size_append]
  · rw [Token.stop, hstart', htext, Text.crlf_append, Text.size_append]

/-- Scopes of blocks that correspond. -/
structure TwinScopes (ps : List (Token × Token)) (s s' : Scope) : Prop where
  braces : ∃ b b', s.braces = some b ∧ s'.braces = some b' ∧ TwinBraces ps b b'
  isEmpty : s'.children.isEmpty = s.children.isEmpty

mutual

theorem TwinNodes.scopes {n n' : Node} (h : TwinNodes ps n n') :
    n.scopes.Forall₂ (TwinScopes ps) n'.scopes := by
  match n, n', h with
  | .statement .., .statement .., _ => exact .nil
  | .block n s header b cs, .block n' s' header' b' cs', h =>
    obtain ⟨-, -, -, hbraces, hcs⟩ := h
    refine .cons ⟨⟨b, b', rfl, rfl, hbraces⟩, ?_⟩ hcs.scopesOf
    cases cs <;> cases cs' <;> first | rfl | exact hcs.elim

private theorem TwinTrees.scopesOf {ns ns' : List Node} (h : TwinTrees ps ns ns') :
    (Node.scopesOf ns).Forall₂ (TwinScopes ps) (Node.scopesOf ns') := by
  match ns, ns', h with
  | [], [], _ => exact .nil
  | n :: ns, n' :: ns', h =>
    rw [Node.scopesOf, Node.scopesOf]
    exact List.rel_append h.1.scopes h.2.scopesOf

end

section Counterparts

variable (hps : ∀ p ∈ ps, Counterpart source p.1 p.2)

include hps

private theorem meets_of_counterparts : ps.IsChain Meets := by
  have hmeets : ∀ p ∈ ps, ∀ r ∈ ps, Meets p r := by
    intro p hp r hr hkind hkind'
    have hiff := (carries_stop (hps p hp) hkind).eq_iff (carries_start (hps r hr) hkind')
    rw [Token.touches, Token.touches, Bool.eq_iff_iff, beq_iff_eq, beq_iff_eq, hiff]
  exact (List.pairwise_of_forall_mem_list hmeets).isChain

private theorem matched_of_counterparts : Matched ps :=
  ⟨fun p hp => (hps p hp).kind, fun p hp => (hps p hp).text, meets_of_counterparts hps⟩

private theorem toLexeme_of_counterparts (h : Twins ps t t') : t'.toLexeme = t.toLexeme.crlf := by
  have hcounterpart := hps _ h.mem
  obtain ⟨-, -, -, -, htext, -⟩ := hcounterpart.place h.solid
  rw [Lexeme.crlf, ← htext, ← hcounterpart.kind]

private theorem carries_of_samePlace {n n' : Nat} (h : SamePlace ps n n') :
    source.Carries n n' := by
  obtain ⟨t, t', htwins, e, rfl, rfl⟩ := h
  have hcounterpart := hps _ htwins.mem
  cases e with
  | false => exact carries_start hcounterpart htwins.solid
  | true => exact carries_stop hcounterpart htwins.solid

private theorem isEmptyInline_crlf {s s' : Scope} (h : TwinScopes ps s s')
    (hbraced : s.Braced source) : s'.isEmptyInline source.crlf = s.isEmptyInline source := by
  obtain ⟨b, b', hs, hs', hbraces⟩ := h.braces
  obtain ⟨a, inner, c, hsource, hopen, hclose⟩ := hbraced b hs
  have hopen' : Text.size (Text.crlf a) = b'.opening := by
    have hcarries := carries_of_samePlace hps hbraces.opening
    rw [hsource, ← hopen] at hcarries
    exact hcarries.eq_size.symm
  have hclose' : Text.size (Text.crlf a) + 1 + Text.size (Text.crlf inner) = b'.closing := by
    have hcarries := carries_of_samePlace hps hbraces.closing
    have hsize : b.closing = Text.size (a ++ '{' :: inner) := by
      rw [← hclose, Text.size_append, Text.size_cons, ← Nat.add_assoc]
      rfl
    rw [hsource, hsize, ← List.cons_append, ← List.append_assoc] at hcarries
    rw [hcarries.eq_size, Text.crlf_append, Text.crlf_cons (by decide), Text.size_append,
      Text.size_cons, ← Nat.add_assoc]
    rfl
  have hsource' : source.crlf =
      Text.crlf a ++ '{' :: (Text.crlf inner ++ '}' :: Text.crlf c) := by
    rw [hsource, Text.crlf_append, Text.crlf_cons (by decide), Text.crlf_append,
      Text.crlf_cons (by decide)]
  simp only [Scope.isEmptyInline, hs, hs', Plan.slice_inside hsource hopen hclose,
    Plan.slice_inside hsource' hopen' hclose', h.isEmpty, Text.contains_crlf,
    Text.isBlankText_crlf]

private theorem map_isEmptyInline_crlf {ss ss' : List Scope} (h : ss.Forall₂ (TwinScopes ps) ss')
    (hbraced : ∀ s ∈ ss, s.Braced source) :
    ss'.map (Scope.isEmptyInline source.crlf) = ss.map (Scope.isEmptyInline source) := by
  induction h with
  | nil => rfl
  | @cons s s' ss ss' hs _ ih =>
    rw [List.map_cons, List.map_cons, ih fun s hs => hbraced s (List.mem_cons_of_mem _ hs),
      isEmptyInline_crlf hps hs (hbraced s List.mem_cons_self)]

end Counterparts

end Tree

/-! ## Scripts -/

private theorem Token.map_toLexeme_place (p : Nat) (ls : List Lexeme) :
    (place p ls).map toLexeme = ls := by
  induction ls generalizing p with
  | nil => rfl
  | cons l ls ih => rw [place, List.map_cons, ih]

/-- Tokens that correspond, or a literal that joins lines and breaks. -/
theorem Token.scan_crlf {source : Text} {ts : List Token} (h : scan source = .ok ts) :
    ((∀ t ∈ ts, t.joins = false) ∧ ∃ ts', scan source.crlf = .ok ts' ∧
      (significant ts).Forall₂ (Counterpart source) (significant ts')) ∨
    ((∃ t ∈ ts, t.joins = true) ∧ ∃ e, scan source.crlf = .error e ∧ e.defect = .string) := by
  obtain ⟨ls, hls, rfl⟩ := scan_eq_ok h
  obtain ⟨rfl, hbegins⟩ := Lexeme.ofSource_eq_ok_iff.mp hls
  have hlexemes := map_toLexeme_place 0 ls
  have hrecut := Lexeme.ofSource_crlf hbegins
  rw [scan]
  generalize Lexeme.ofSource (Text.crlf (Lexeme.texts ls)) = x at hrecut
  cases hrecut with
  | @ok ls' hnone htokens =>
    refine .inl ⟨fun t ht => hnone _ ?_, _, rfl, htokens⟩
    rw [← hlexemes]
    exact List.mem_map_of_mem ht
  | broken hjoins hdefect =>
    obtain ⟨l, hl, hjoins⟩ := hjoins
    rw [← hlexemes, List.mem_map] at hl
    obtain ⟨t, ht, rfl⟩ := hl
    exact .inr ⟨⟨t, ht, hjoins⟩, _, rfl, hdefect⟩

private theorem Document.nodes_of_parse {source : Text} {d : Document} {ts : List Token}
    (hscan : Token.scan source = .ok ts) (h : parse source = .ok d) :
    Tree.build (Token.significant ts) = .ok d.nodes := by
  rw [Grammar.parse_of_scan hscan] at h
  generalize Tree.build (Token.significant ts) = x at h
  cases x with
  | error f => cases h
  | ok nodes =>
    cases h
    rfl

/-- A script that is read is also read with carriage returns before its line feeds, to a tree of the
same shape and with the same blocks empty on one line, in which literals have the carriage returns;
but not if one of its literals joins lines. -/
theorem Document.parse_crlf {source : Text} {d : Document} (h : parse source = .ok d) :
    ∃ ts, Token.scan source = .ok ts ∧
      ((∀ t ∈ ts, t.joins = false) → ∃ d', parse source.crlf = .ok d' ∧
        Node.shapes d'.nodes = Shape.mapAll Lexeme.crlf (Node.shapes d.nodes) ∧
        d'.root.walk.map (Scope.isEmptyInline d'.source) =
          d.root.walk.map (Scope.isEmptyInline d.source)) ∧
      ((∃ t ∈ ts, t.joins = true) →
        ∃ e, parse source.crlf = .error (.lex e) ∧ e.defect = .string) := by
  obtain ⟨ts, hscan, hsource, -⟩ := Grammar.parse_layout h
  refine ⟨ts, hscan, ?_⟩
  obtain ⟨hnone, ts', hscan', htokens⟩ | ⟨hsome, e, he, hdefect⟩ := Token.scan_crlf hscan
  · refine ⟨fun _ => ?_, fun ⟨t, ht, hjoins⟩ => by simp [hnone t ht] at hjoins⟩
    obtain ⟨hlength, hmem⟩ := List.forall₂_iff_zip.mp htokens
    have hps : ∀ p ∈ (Token.significant ts).zip (Token.significant ts'),
        Counterpart source p.1 p.2 := fun p hp => hmem hp
    have hagree := Tree.build_agree (Tree.matched_of_counterparts hps)
    rw [List.map_fst_zip (by omega), List.map_snd_zip (by omega), nodes_of_parse hscan h] at hagree
    rw [Grammar.parse_of_scan hscan']
    generalize Tree.build (Token.significant ts') = x at hagree
    cases hagree with
    | @ok _ ns' htrees =>
      refine ⟨⟨source.crlf, ns'⟩, rfl, ?_, ?_⟩
      · exact htrees.shapes_eq fun t t' htwins => Tree.toLexeme_of_counterparts hps htwins
      · have hbraced : ∀ s ∈ Node.scopesOf d.nodes, s.Braced source :=
          fun s hs => braced_of_parse h s (List.mem_cons_of_mem _ hs)
        have hflags := Tree.map_isEmptyInline_crlf hps htrees.scopesOf hbraced
        rw [hsource]
        exact congrArg (false :: ·) hflags
  · refine ⟨fun hnone => ?_, fun _ => ⟨e, ?_, hdefect⟩⟩
    · obtain ⟨t, ht, hjoins⟩ := hsome
      simp [hnone t ht] at hjoins
    · rw [parse, he]
      rfl

/-- A first line, line ends in a comment, in brackets, in a hole and behind an escape between three
quotes, and a block that is empty on its line. In the second script a literal in a hole joins
lines. -/
theorem Document.parse_crlf_mixed :
    ∃ d d' ts,
      parse "#!é\na '''\\\n'''\x7bb(\n\"$\x7b\n\x7d\")/*\n*/\nc\x7b\x7d\n\x7d".toList = .ok d ∧
      parse (Text.crlf "#!é\na '''\\\n'''\x7bb(\n\"$\x7b\n\x7d\")/*\n*/\nc\x7b\x7d\n\x7d".toList) =
        .ok d' ∧
      Node.shapes d'.nodes = Shape.mapAll Lexeme.crlf (Node.shapes d.nodes) ∧
      d'.root.walk.map (Scope.isEmptyInline d'.source) = [false, false, true] ∧
      Token.scan "a \"$\x7b'\\\n'\x7d\"".toList = .ok ts ∧ (∃ t ∈ ts, t.joins = true) ∧
      ∃ e, parse (Text.crlf "a \"$\x7b'\\\n'\x7d\"".toList) = .error (.lex e) ∧
        e.defect = .string := by
  have hparse : ∃ d,
      parse "#!é\na '''\\\n'''\x7bb(\n\"$\x7b\n\x7d\")/*\n*/\nc\x7b\x7d\n\x7d".toList =
        .ok d ∧ d.root.walk.map (Scope.isEmptyInline d.source) = [false, false, true] :=
    ⟨_, by cbv, by cbv⟩
  have hscan : ∃ ts,
      Token.scan "#!é\na '''\\\n'''\x7bb(\n\"$\x7b\n\x7d\")/*\n*/\nc\x7b\x7d\n\x7d".toList =
        .ok ts ∧ ∀ t ∈ ts, t.joins = false := ⟨_, by cbv, by decide⟩
  have hparse' : ∃ d, parse "a \"$\x7b'\\\n'\x7d\"".toList = .ok d := ⟨_, by cbv⟩
  have hscan' : ∃ ts, Token.scan "a \"$\x7b'\\\n'\x7d\"".toList = .ok ts ∧
      ∃ t ∈ ts, t.joins = true := ⟨_, by cbv, by decide⟩
  obtain ⟨d, hd, hflags⟩ := hparse
  obtain ⟨d₂, hd₂⟩ := hparse'
  obtain ⟨us, hus, hnone⟩ := hscan
  obtain ⟨vs, hvs, hsome⟩ := hscan'
  obtain ⟨ts, hts, hread, -⟩ := parse_crlf hd
  obtain ⟨ts₂, hts₂, -, hbroken⟩ := parse_crlf hd₂
  obtain rfl : ts = us := Except.ok.inj (hts.symm.trans hus)
  obtain rfl : ts₂ = vs := Except.ok.inj (hts₂.symm.trans hvs)
  obtain ⟨d', hd', hshapes, hflags'⟩ := hread hnone
  exact ⟨d, d', ts₂, hd, hd', hshapes, hflags'.trans hflags, hvs, hsome, hbroken hsome⟩

/-- A script that is read, and is not read once its line feed has a carriage return before it: the
escape in the literal then skips the carriage return, and the literal is broken at the line feed. -/
theorem Document.parse_crlf_escaped_line_feed :
    '\r' ∉ "x 'a\\\nb'".toList ∧ (∃ d, parse "x 'a\\\nb'".toList = .ok d) ∧
      Text.crlf "x 'a\\\nb'".toList = "x 'a\\\r\nb'".toList ∧
      parse (Text.crlf "x 'a\\\nb'".toList) = .error (.lex ⟨.string, ⟨2, 1, 3⟩⟩) :=
  ⟨by decide, ⟨_, by cbv⟩, rfl, by cbv⟩

end Graft
