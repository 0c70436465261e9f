import Graft.Proofs.Grammar.Insert
import Graft.Proofs.Lexeme.Seam

/-!
# Reading texts in parts

A text reads as the tokens it is cut into, wherever it is put. Texts that are set one below the
other read as the tokens of the one, a line end and the tokens of the other, whatever the texts
are: a line end can neither go on a lexeme nor be swallowed by one that has ended.
-/
namespace Graft.Lexeme

open Token (place significant)
open Grammar (Body)

/-! ## The beginning of a script -/

/-- The lexemes stand at the very beginning of a script, before the text `rest`. -/
inductive Begins : List Lexeme → Text → Prop where
  | plain {ls rest} : ¬ ['#', '!'] <+: texts ls ++ rest → AllStand ls rest → Begins ls rest
  | line {r ls rest} : (∀ c ∈ r, c ≠ '\n') → (∀ c ∈ (texts ls ++ rest).head?, c = '\n') →
      AllStand ls rest → Begins (⟨.comment, '#' :: '!' :: r⟩ :: ls) rest

theorem ofSource_eq_ok_iff {t : Text} {ls : List Lexeme} :
    ofSource t = .ok ls ↔ texts ls = t ∧ Begins ls [] := by
  constructor
  · intro h
    obtain ⟨hpre, hbody⟩ | ⟨line, rest, ks, rfl, hline, hrest, hbody, rfl⟩ := ofSource_eq_ok h
    · obtain ⟨rfl, hstand⟩ := ofBody_eq_ok_iff.mp hbody
      exact ⟨rfl, .plain (by rwa [List.append_nil]) hstand⟩
    · obtain ⟨rfl, hstand⟩ := ofBody_eq_ok_iff.mp hbody
      exact ⟨by simp, .line hline (by rwa [List.append_nil]) hstand⟩
  · rintro ⟨rfl, hbegins⟩
    cases hbegins with
    | plain hpre hstand =>
      rw [List.append_nil] at hpre
      rw [ofSource_eq_ofBody hpre, ofBody_eq_ok_iff]
      exact ⟨rfl, hstand⟩
    | @line r ls _ hline hrest hstand =>
      rw [List.append_nil] at hrest
      have hbody : ofBody (texts ls) = .ok ls := ofBody_eq_ok_iff.mpr ⟨rfl, hstand⟩
      have hcut := ofSource_line hline hrest
      rw [hbody] at hcut
      exact hcut

theorem Begins.split {ks ms : List Lexeme} {l : Lexeme} {rest : Text}
    (h : Begins (ks ++ l :: ms) rest) (hl : l.kind ≠ .comment) :
    Begins ks (l.text ++ (texts ms ++ rest)) ∧ AllStand (l :: ms) rest := by
  generalize hls : ks ++ l :: ms = ls at h
  cases h with
  | plain hpre hstand =>
    subst hls
    obtain ⟨hks, hms⟩ := allStand_append.mp hstand
    exact ⟨.plain (by simpa using hpre) (by simpa using hks), hms⟩
  | @line r ls _ hline hrest hstand =>
    cases ks with
    | nil =>
      obtain ⟨rfl, -⟩ := List.cons.inj hls
      exact absurd rfl hl
    | cons k ks =>
      obtain ⟨rfl, rfl⟩ := List.cons.inj hls
      obtain ⟨hks, hms⟩ := allStand_append.mp hstand
      exact ⟨.line hline (by simpa using hrest) (by simpa using hks), hms⟩

private theorem Begins.alone {ls : List Lexeme} {rest : Text} (h : Begins ls rest) :
    Begins ls [] := by
  cases h with
  | plain hpre hstand =>
    refine .plain (fun hpre' => hpre ?_) (hstand.congr (replaces_nil _))
    rw [List.append_nil] at hpre'
    exact hpre'.trans (List.prefix_append _ _)
  | @line r ls _ hline hrest hstand =>
    refine .line hline (fun c hc => hrest c ?_) (hstand.congr (replaces_nil _))
    rw [List.append_nil] at hc
    simp [Option.mem_def.mp hc]

theorem significant_place_cons {l : Lexeme} (h : l.kind.isTrivia = true) (ls : List Lexeme)
    (p : Nat) :
    significant (place p (l :: ls)) = significant (place (p + Text.size l.text) ls) := by
  rw [← List.singleton_append, significant_place_append, significant_place_trivia h]
  simp

theorem significant_place_solid {l : Lexeme} (h : l.kind.isTrivia = false) (ls : List Lexeme)
    (p : Nat) : significant (place p (l :: ls)) =
      ⟨l, p⟩ :: significant (place (p + Text.size l.text) ls) := by
  simp [place, significant, Token.isTrivia, h]

private theorem significant_place_gap {ls : List Lexeme} {rest : Text} (h : AllStand ls rest)
    (hgap : ∀ c ∈ texts ls, isGap c = true) (p : Nat) : significant (place p ls) = [] := by
  induction ls generalizing p with
  | nil => rfl
  | cons l ls ih =>
    have htrivia : l.kind.isTrivia = true := by
      have hl : ∀ c ∈ l.text, isGap c = true := fun c hc => hgap c (by simp [hc])
      cases (stands_iff.mp h.1).1.close with
      | newline hnl => exact absurd (hl '\n' (by simp [hnl])) (by decide)
      | gap hk _ => rw [hk]; rfl
      | line hk _ _ => rw [hk]; rfl
      | firm _ _ hlast hfirm =>
        have := isBlank_of_isGap (hl _ (List.mem_of_getLast? hlast))
        rw [hfirm] at this
        cases this
    rw [significant_place_cons htrivia]
    exact ih h.2 (fun c hc => hgap c (by simp [hc])) _

theorem Begins.trimmed {ls : List Lexeme} {u gap r : Text} {c : Char} (h : Begins ls (c :: r))
    (hc : c ≠ '\n') (htexts : texts ls = u ++ gap) (hgap : ∀ x ∈ gap, isGap x = true) :
    ∃ ks, texts ks = u ∧ Begins ks [] ∧
      ∀ p, significant (place p ks) = significant (place p ls) := by
  cases h with
  | plain hpre hstand =>
    obtain ⟨ks, rfl, hks, hsig⟩ := exists_trimmed hstand hc htexts hgap
    refine ⟨ks, rfl, .plain (fun hpre' => hpre ?_) hks, hsig⟩
    rw [List.append_nil] at hpre'
    rw [htexts, List.append_assoc]
    exact hpre'.trans (List.prefix_append _ _)
  | @line r' ls _ hline hrest hstand =>
    rw [texts_cons] at htexts
    obtain ⟨v, rfl, hls⟩ | ⟨v, -, rfl⟩ := List.append_eq_append_iff.mp htexts
    · obtain ⟨ks, rfl, hks, hsig⟩ := exists_trimmed hstand hc hls hgap
      refine ⟨⟨.comment, '#' :: '!' :: r'⟩ :: ks, rfl, .line hline (fun x hx => hrest x ?_) hks, ?_⟩
      · rw [List.append_nil] at hx
        simp [hls, Option.mem_def.mp hx]
      · intro p
        rw [significant_place_cons rfl, significant_place_cons rfl, hsig]
    · -- what follows the first line begins with a line end, which is no gap
      cases hls : texts ls with
      | nil => exact absurd (hrest c (by simp [hls])) hc
      | cons x t =>
        obtain rfl := hrest x (by simp [hls])
        exact absurd (hgap '\n' (by simp [hls])) (by decide)

private theorem Begins.cut {ls : List Lexeme} {a w rest : Text} (h : Begins ls rest)
    (htexts : texts ls = a ++ '\n' :: w) (hw : ∀ c ∈ w, Text.isBlank c = true) :
    ∃ ks ms, ls = ks ++ ⟨.newline, ['\n']⟩ :: ms ∧ texts ks = a ∧ texts ms = w ∧ Begins ks [] ∧
      AllStand ms rest := by
  suffices hcut : ∃ ks ms, ls = ks ++ ⟨.newline, ['\n']⟩ :: ms ∧ texts ks = a ∧ texts ms = w by
    obtain ⟨ks, ms, rfl, hks, hms⟩ := hcut
    obtain ⟨hbegins, hstand⟩ := h.split (by simp)
    exact ⟨ks, ms, rfl, hks, hms, hbegins.alone, hstand.2⟩
  cases h with
  | plain _ hstand => exact exists_newline hstand htexts hw
  | @line r ls _ hline hrest hstand =>
    have htail {b : Text} (ha : a = '#' :: '!' :: r ++ b) (hls : texts ls = b ++ '\n' :: w) :
        ∃ ks ms, ⟨.comment, '#' :: '!' :: r⟩ :: ls = ks ++ ⟨.newline, ['\n']⟩ :: ms ∧
          texts ks = a ∧ texts ms = w := by
      obtain ⟨ks, ms, rfl, hks, hms⟩ := exists_newline hstand hls hw
      exact ⟨⟨.comment, '#' :: '!' :: r⟩ :: ks, ms, rfl, by rw [texts_cons, hks, ha], hms⟩
    rw [texts_cons] at htexts
    obtain ⟨b, ha, hls⟩ | ⟨b, hr, hb⟩ := List.append_eq_append_iff.mp htexts
    · exact htail ha hls
    · cases b with
      | nil => exact htail (b := []) (by simpa using hr.symm) (by simpa using hb.symm)
      | cons x b =>
        obtain ⟨rfl, -⟩ := List.cons.inj hb
        have hmem : '\n' ∈ '#' :: '!' :: r := by simp [show '#' :: '!' :: r = _ from hr]
        have hmem' : '\n' ∈ r := by simpa using hmem
        exact absurd rfl (hline _ hmem')

/-! ## Finding a token -/

/-- The lexemes split at any significant token. -/
theorem exists_split {ls : List Lexeme} {p : Nat} {xs ys : List Token} {t : Token}
    (h : significant (place p ls) = xs ++ t :: ys) :
    ∃ ks ms, ls = ks ++ t.toLexeme :: ms ∧ t.start = p + Text.size (texts ks) ∧
      significant (place p ks) = xs ∧ significant (place t.stop ms) = ys := by
  induction ls generalizing p xs with
  | nil =>
    have := congrArg List.length h
    simp [place, significant] at this
  | cons l ls ih =>
    cases htrivia : l.kind.isTrivia with
    | true =>
      rw [significant_place_cons htrivia] at h
      obtain ⟨ks, ms, rfl, hstart, hks, hms⟩ := ih h
      refine ⟨l :: ks, ms, rfl, by simp [hstart, Nat.add_assoc], ?_, hms⟩
      rw [significant_place_cons htrivia, hks]
    | false =>
      rw [significant_place_solid htrivia] at h
      cases xs with
      | nil =>
        obtain ⟨rfl, hys⟩ := List.cons.inj h
        exact ⟨[], ls, rfl, by simp, rfl, hys⟩
      | cons x xs =>
        obtain ⟨rfl, hxs⟩ := List.cons.inj h
        obtain ⟨ks, ms, rfl, hstart, hks, hms⟩ := ih hxs
        refine ⟨l :: ks, ms, rfl, by simp [hstart, Nat.add_assoc], ?_, hms⟩
        rw [significant_place_solid htrivia, hks]

private theorem Stands.isGap_head? {l : Lexeme} {rest : Text} (h : Stands l rest)
    (hk : l.kind.isTrivia = false) : ∀ c ∈ l.text.head?, isGap c = false := by
  obtain ⟨x, a, htext, hext⟩ := h
  intro c hc
  obtain rfl : x = c := by simpa [htext] using hc
  rw [Bool.eq_false_iff]
  intro hgap
  have hkind := hext.symm.trans (extent_of_rule (.whitespace hgap))
  rw [(Prod.mk.inj (Except.ok.inj hkind)).1] at hk
  cases hk

theorem exists_solid {ls : List Lexeme} {rest : Text} (h : AllStand ls rest) {p : Nat} {t : Token}
    (ht : t ∈ significant (place p ls)) :
    ∃ a c r, texts ls = a ++ c :: r ∧ t.start = p + Text.size a ∧ isGap c = false := by
  induction ls generalizing p with
  | nil => cases ht
  | cons l ls ih =>
    have hrest (hmem : t ∈ significant (place (p + Text.size l.text) ls)) :
        ∃ a c r, texts (l :: ls) = a ++ c :: r ∧ t.start = p + Text.size a ∧ isGap c = false := by
      obtain ⟨a, c, r, htexts, hstart, hc⟩ := ih h.2 hmem
      exact ⟨l.text ++ a, c, r, by simp [htexts], by simp [hstart, Nat.add_assoc], hc⟩
    cases htrivia : l.kind.isTrivia with
    | true => exact hrest (by rwa [significant_place_cons htrivia] at ht)
    | false =>
      rw [significant_place_solid htrivia] at ht
      obtain rfl | ht := List.mem_cons.mp ht
      · obtain ⟨c, r, hcut⟩ := List.exists_cons_of_ne_nil h.1.text_ne_nil
        exact ⟨[], c, r ++ texts ls, by simp [hcut], rfl,
          h.1.isGap_head? htrivia c (by simp [hcut])⟩
      · exact hrest ht

theorem Begins.exists_solid {ls : List Lexeme} {rest : Text} (h : Begins ls rest) {t : Token}
    (ht : t ∈ significant (place 0 ls)) :
    ∃ a c r, texts ls = a ++ c :: r ∧ t.start = Text.size a ∧ isGap c = false := by
  cases h with
  | plain _ hstand => simpa using Lexeme.exists_solid hstand ht
  | @line r' ls _ _ _ hstand =>
    rw [significant_place_cons rfl] at ht
    obtain ⟨a, c, r, htexts, hstart, hc⟩ := Lexeme.exists_solid hstand ht
    exact ⟨'#' :: '!' :: r' ++ a, c, r, by simp [htexts], by simpa [Nat.add_assoc] using hstart, hc⟩

theorem significant_place_token {t : Token} (h : t.kind.isTrivia = false) :
    significant (place t.start [t.toLexeme]) = [t] := by
  rw [significant_place_solid h]
  rfl

theorem toLexeme_of_isSymbol {t : Token} {c : Char} (h : t.isSymbol c) :
    t.toLexeme = ⟨.symbol, [c]⟩ := by
  obtain ⟨hkind, htext⟩ := Tree.isSymbol_iff.mp h
  rw [← hkind, ← htext]

theorem eq_nil_of_texts {ls : List Lexeme} (hne : ∀ l ∈ ls, l.text ≠ []) (h : texts ls = []) :
    ls = [] := by
  cases ls with
  | nil => rfl
  | cons l ls =>
    rw [texts_cons, List.append_eq_nil_iff] at h
    exact absurd h.1 (hne l (by simp))

/-! ## Texts one below the other -/

def IsLineEnd (t : Text) : Prop := t = ['\n'] ∨ t = ['\r', '\n']

theorem IsLineEnd.lastLine_append {eol : Text} (h : IsLineEnd eol) (a : Text) :
    Text.lastLine (a ++ eol) = [] := by
  obtain rfl | rfl := h
  · exact Text.lastLine_append_lineFeed a []
  · rw [List.append_cons]
    exact Text.lastLine_append_lineFeed _ []

/-- Behind lexemes that `S` allows can stand a line end and any further lexemes. -/
structure Continues (S : List Lexeme → Text → Prop) : Prop where
  gap : ∀ ks, S ks [] → ∃ ls, texts ls = texts ks ++ ['\r'] ∧ S ls [] ∧
    ∀ p, significant (place p ls) = significant (place p ks)
  line : ∀ ks ms, S ks [] → AllStand ms [] → S (ks ++ ⟨.newline, ['\n']⟩ :: ms) []

theorem stands_newline (rest : Text) : Stands ⟨.newline, ['\n']⟩ rest :=
  ⟨'\n', [], rfl, extent_of_rule (.newline rfl)⟩

theorem continues_allStand : Continues AllStand := by
  refine ⟨fun ks hks => exists_return hks, fun ks ms hks hms => ?_⟩
  exact allStand_append.mpr ⟨hks.congr (replaces_newline _ _), stands_newline _, hms⟩

theorem not_begins_append {t : Text} {c : Char} (h : ¬ ['#', '!'] <+: t) (hc : c ≠ '#' ∧ c ≠ '!')
    (rest : Text) : ¬ ['#', '!'] <+: t ++ c :: rest := by
  cases t with
  | nil => simpa using fun heq : '#' = c => absurd heq.symm hc.1
  | cons x t =>
    cases t with
    | nil => simpa using fun _ (heq : '!' = c) => absurd heq.symm hc.2
    | cons y t => simpa using h

theorem continues_begins : Continues Begins := by
  refine ⟨fun ks hks => ?_, fun ks ms hks hms => ?_⟩
  · cases hks with
    | plain hpre hstand =>
      obtain ⟨ls, htexts, hls, hsig⟩ := exists_return hstand
      refine ⟨ls, htexts, .plain ?_ hls, hsig⟩
      rw [List.append_nil] at hpre
      rw [htexts, List.append_nil]
      exact not_begins_append hpre (by decide) []
    | @line r ks _ hr hrest hstand =>
      cases ks with
      | nil =>
        -- the carriage return belongs to the first line
        have hr' : ∀ c ∈ r ++ ['\r'], c ≠ '\n' := by
          intro c hc
          obtain hc | hc := List.mem_append.mp hc
          · exact hr c hc
          · obtain rfl := List.mem_singleton.mp hc
            decide
        refine ⟨[⟨.comment, '#' :: '!' :: (r ++ ['\r'])⟩], by simp, .line hr' (by simp) trivial, ?_⟩
        intro p
        rw [significant_place_cons rfl, significant_place_cons rfl]
        rfl
      | cons k ks =>
        obtain ⟨ls, htexts, hls, hsig⟩ := exists_return hstand
        refine ⟨⟨.comment, '#' :: '!' :: r⟩ :: ls, by simp [htexts], .line hr ?_ hls, ?_⟩
        · obtain ⟨x, a, hx⟩ := List.exists_cons_of_ne_nil hstand.1.text_ne_nil
          simpa [htexts, hx] using hrest
        · intro p
          rw [significant_place_cons rfl, significant_place_cons rfl, hsig]
  · cases hks with
    | plain hpre hstand =>
      refine .plain ?_ (continues_allStand.line ks ms hstand hms)
      rw [List.append_nil] at hpre
      simpa using not_begins_append hpre (c := '\n') (by decide) (texts ms)
    | @line r ks _ hr hrest hstand =>
      refine .line hr ?_ (continues_allStand.line ks ms hstand hms)
      cases hks : texts ks with
      | nil => simp [hks]
      | cons x t => simpa [hks] using hrest

/-- The text is cut into lexemes that `S` allows, and its significant tokens are `ts` when it stands
at the offset `p`. -/
def Reads (S : List Lexeme → Text → Prop) (p : Nat) (t : Text) (ts : List Token) : Prop :=
  ∃ ls, texts ls = t ∧ S ls [] ∧ significant (place p ls) = ts

/-- The line feed at the offset `p`. -/
def lineFeed (p : Nat) : Token := ⟨⟨.newline, ['\n']⟩, p⟩

section Reads

variable {S : List Lexeme → Text → Prop} {p : Nat} {a b : Text} {ts us : List Token}

theorem reads_nil (p : Nat) : Reads AllStand p [] [] :=
  ⟨[], rfl, trivial, rfl⟩

theorem reads_of_lexemes {ls : List Lexeme} (h : S ls []) (p : Nat) :
    Reads S p (texts ls) (significant (place p ls)) :=
  ⟨ls, rfl, h, rfl⟩

theorem Reads.line (hS : Continues S) (ha : Reads S p a ts) {eol : Text} (heol : IsLineEnd eol)
    (hb : Reads AllStand (p + Text.size (a ++ eol)) b us) :
    Reads S p (a ++ (eol ++ b)) (ts ++ lineFeed (p + Text.size (a ++ eol) - 1) :: us) := by
  obtain ⟨ks, rfl, hks, rfl⟩ := ha
  obtain ⟨ms, rfl, hms, rfl⟩ := hb
  obtain ⟨ks', htexts, hks', hsig⟩ : ∃ ks', texts ks' ++ ['\n'] = texts ks ++ eol ∧ S ks' [] ∧
      ∀ p, significant (place p ks') = significant (place p ks) := by
    obtain rfl | rfl := heol
    · exact ⟨ks, rfl, hks, fun _ => rfl⟩
    · obtain ⟨ks', htexts, hks', hsig⟩ := hS.gap ks hks
      exact ⟨ks', by simp [htexts], hks', hsig⟩
  refine ⟨ks' ++ ⟨.newline, ['\n']⟩ :: ms, ?_, hS.line ks' ms hks' hms, ?_⟩
  · rw [← List.append_assoc, ← htexts]
    simp
  · rw [significant_place_append, hsig, significant_place_solid rfl, ← htexts, Text.size_append,
      Nat.add_assoc]
    rfl

theorem Reads.indent {indent : Text} (hb : Reads AllStand (p + Text.size indent) b ts)
    (hindent : ∀ c ∈ indent, Text.isIndent c = true)
    (hhead : ∀ c ∈ b.head?, Text.isBlank c = false) :
    Reads AllStand p (indent ++ b) ts := by
  cases indent with
  | nil => exact hb
  | cons x indent =>
    obtain ⟨ls, rfl, hls, rfl⟩ := hb
    have hgap : ∀ c ∈ x :: indent, isGap c = true := by
      intro c hc
      have : c = ' ' ∨ c = '\t' := by simpa [Text.isIndent] using hindent c hc
      obtain rfl | rfl := this <;> decide
    have hstands : Stands ⟨.whitespace, x :: indent⟩ (texts ls ++ []) := by
      refine stands_iff.mpr ⟨stands_whitespace (by simp) hgap, ?_⟩
      intro c hc
      rw [List.append_nil] at hc
      simp [isGap, hhead c hc]
    exact ⟨⟨.whitespace, x :: indent⟩ :: ls, by simp, ⟨hstands, hls⟩,
      significant_place_cons rfl ls p⟩

end Reads

/-! ## Scripts -/

/-- A script up to a line end and a gap reads as its tokens without the last, which is the line
end. -/
theorem reads_before_line {ls : List Lexeme} {rest front gap : Text} (h : Begins ls rest)
    (htexts : texts ls = front ++ '\n' :: gap) (hgap : ∀ c ∈ gap, isGap c = true) :
    ∃ ts, Reads Begins 0 front ts ∧
      significant (place 0 ls) = ts ++ [lineFeed (Text.size front)] := by
  obtain ⟨ks, ms, rfl, rfl, rfl, hks, hms⟩ := h.cut htexts fun c hc =>
    isBlank_of_isGap (hgap c hc)
  refine ⟨_, reads_of_lexemes hks 0, ?_⟩
  rw [significant_place_append, significant_place_solid rfl, significant_place_gap hms hgap,
    Nat.zero_add]
  rfl

/-- A script that reads as a derivation is parsed to its tree. -/
theorem parse_of_reads {t : Text} {b : Body} (h : Reads Begins 0 t b.tokens) (hb : b.Valid []) :
    Document.parse t = .ok ⟨t, b.nodes⟩ := by
  obtain ⟨ls, htexts, hbegins, htokens⟩ := h
  have hscan : Token.scan t = .ok (place 0 ls) := by
    rw [Token.scan, ofSource_eq_ok_iff.mpr ⟨htexts, hbegins⟩]
  rw [Grammar.parse_of_scan hscan, htokens, Tree.build_eq_ok_iff.mpr ⟨b, ⟨rfl, hb⟩, rfl⟩]

theorem Reads.begins {p : Nat} {t : Text} {b : Body} {after : List Token}
    (h : Reads AllStand p t b.tokens) (hb : b.Valid after) : Reads Begins p t b.tokens := by
  obtain ⟨ls, rfl, hls, htokens⟩ := h
  refine ⟨ls, rfl, .plain ?_ hls, htokens⟩
  rw [List.append_nil]
  rintro ⟨r, hr⟩
  cases ls with
  | nil => cases hr
  | cons l ls =>
    have hl : l = ⟨.symbol, ['#']⟩ := by
      obtain ⟨kind, text⟩ := l
      obtain ⟨c, a, rfl, hext⟩ := hls.1
      obtain ⟨rfl, -⟩ : '#' = c ∧ '!' :: r = a ++ texts ls := by simpa using hr
      have hrule := rule_of_extent hext
      simp only at hrule
      generalize hn : a.length = n at hrule
      cases hrule with
      | symbol _ _ => rw [List.length_eq_zero_iff.mp hn]
      | newline hc => exact absurd hc (by decide)
      | whitespace hc => exact absurd hc (by decide)
      | line hc _ => exact absurd hc (by decide)
      | block hc _ _ => exact absurd hc (by decide)
      | string hc _ => exact absurd hc (by decide)
      | number hc => exact absurd hc (by decide)
      | identifier hc => exact absurd hc (by decide)
    rw [significant_place_solid (by rw [hl]; rfl)] at htokens
    obtain (hline | hsemi) | hid := hb.head?_tokens ⟨l, p⟩ (by simp [← htokens])
    · simp [hl] at hline
    · simp [Token.isSymbol, hl] at hsemi
    · simp [hl] at hid

end Graft.Lexeme
