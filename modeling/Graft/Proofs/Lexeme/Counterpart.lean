import Graft.Proofs.Break
import Graft.Proofs.Lexeme.Return
import Graft.Proofs.Scan

/-!
# Lexemes under another line end

A carriage return before each line feed leaves the lexemes of a text what they are. The one at the
end of a line goes to the trivia there, the others are inside literals and comments. So each
significant token has a counterpart in the new text, unless a literal joins lines.
-/
namespace Graft

namespace Lexeme

open Text (crlf_cons crlf_newline crlf_of_not_mem crlf_eq_cons_iff head?_crlf_iff)
open Literal (Fault)
open Token (place significant)

/-! ## Lexemes -/

/-- The lexeme with a carriage return before each of its line feeds. -/
def crlf (l : Lexeme) : Lexeme := ⟨l.kind, l.text.crlf⟩

/-- The lexeme is a literal that joins lines. -/
def joins (l : Lexeme) : Bool :=
  match l.kind, l.text with
  | .string, q :: r => Literal.joinsLines q r
  | _, _ => false

private theorem kind_of_joins {l : Lexeme} (h : l.joins = true) : l.kind = .string := by
  obtain ⟨kind, text⟩ := l
  cases kind with
  | string => rfl
  | _ => cases h

private theorem commentExtent_cons {c : Char} {r : Text} (hr : r ≠ [])
    (h : c = '*' → r.head? ≠ some '/') :
    commentExtent (c :: r) = (commentExtent r).map (· + 1) := by
  cases r with
  | nil => exact absurd rfl hr
  | cons d r =>
    rw [commentExtent, if_neg]
    simpa using h

private theorem commentExtent_crlf {a : Text} (h : commentExtent a = some a.length) :
    commentExtent (Text.crlf a) = some (Text.crlf a).length := by
  fun_induction commentExtent a with
  | case1 => cases h
  | case2 => cases h
  | case3 c d r hend =>
    simp only [Bool.and_eq_true, decide_eq_true_eq] at hend
    obtain ⟨rfl, rfl⟩ := hend
    obtain rfl : r = [] := by simpa using h
    rfl
  | case4 c d r hend ih =>
    obtain ⟨m, hm, hlength⟩ := Option.map_eq_some_iff.mp h
    obtain rfl : m = (d :: r).length := by simpa using hlength
    have hne : Text.crlf (d :: r) ≠ [] := mt Text.eq_nil_of_crlf (by simp)
    have hrest := ih hm
    by_cases hc : c = '\n'
    · rw [hc, crlf_newline, commentExtent_cons (by simp) (by simp),
        commentExtent_cons hne (by simp), hrest]
      rfl
    · have hstar : c = '*' → (Text.crlf (d :: r)).head? ≠ some '/' := by
        intro hstar hslash
        rw [head?_crlf_iff (by decide)] at hslash
        simp_all
      rw [crlf_cons hc, commentExtent_cons hne hstar, hrest]
      rfl

private theorem Stands.not_mem_newline {l : Lexeme} (h : Stands l []) (hline : l.kind ≠ .newline)
    (hstring : l.kind ≠ .string) (hcomment : l.kind = .comment → ¬ ['/', '*'] <+: l.text) :
    '\n' ∉ l.text := by
  obtain ⟨kind, text⟩ := l
  obtain ⟨c, a, rfl, hext⟩ := h
  have hrule := rule_of_extent hext
  rw [List.append_nil] at hrule
  simp only at hrule hline hstring hcomment ⊢
  have hall {p : Char → Bool} (hp : p '\n' = false) (hc : p c = true)
      (ha : ∀ x ∈ a, p x = true) : '\n' ∉ c :: a := by
    rintro (_ | ⟨_, hmem⟩)
    · simp [hp] at hc
    · simpa [hp] using ha _ hmem
  have hwhile {p : Char → Bool} (h : (a.takeWhile p).length = a.length) : ∀ x ∈ a, p x = true :=
    (length_takeWhile_append (b := [])).mp (by rwa [List.append_nil]) |>.1
  generalize hn : a.length = n at hrule
  cases hrule with
  | newline _ => exact absurd rfl hline
  | string _ _ => exact absurd rfl hstring
  | block hc hr _ =>
    obtain ⟨r, rfl⟩ := List.head?_eq_some_iff.mp hr
    exact absurd (by simp [hc]) (hcomment rfl)
  | whitespace hc => exact hall (by decide) hc (hwhile hn.symm)
  | line hc _ => exact hall (p := (· ≠ '\n')) (by decide) (by simp [hc]) (hwhile hn.symm)
  | number hc =>
    have ha := isBlank_of_numberExtent hn.symm
    exact hall (p := fun x => !Text.isBlank x) (by decide) (by simp [Text.isBlank_of_isDigit hc])
      (by simpa using ha)
  | identifier hc => exact hall (by decide) (isNamePart_of_isNameStart hc) (hwhile hn.symm)
  | symbol hc _ =>
    obtain rfl := List.length_eq_zero_iff.mp hn
    exact hall (p := isMark) (by decide) hc (by simp)

private theorem Stands.crlf_eq {l : Lexeme} (h : Stands l []) (hline : l.kind ≠ .newline)
    (hstring : l.kind ≠ .string) (hcomment : l.kind = .comment → ¬ ['/', '*'] <+: l.text) :
    l.crlf = l := by
  rw [crlf, crlf_of_not_mem (h.not_mem_newline hline hstring hcomment)]

private theorem stands_block_iff {r : Text} :
    Stands ⟨.comment, '/' :: '*' :: r⟩ [] ↔ commentExtent r = some r.length := by
  constructor
  · rintro ⟨c, a, hl, hext⟩
    obtain ⟨rfl, rfl⟩ := List.cons.inj hl
    rw [List.append_nil] at hext
    have hrule := rule_of_extent hext
    generalize hn : ('*' :: r).length = n at hrule
    cases hrule with
    | line _ hr => cases hr
    | block _ _ hm =>
      rw [List.tail_cons] at hm
      rw [hm]
      simpa using hn.symm
  · intro h
    refine ⟨'/', '*' :: r, rfl, ?_⟩
    rw [List.append_nil]
    exact extent_of_rule (.block rfl rfl h)

/-- A lexeme stays one with carriage returns in it. -/
theorem Stands.with_returns {l : Lexeme} (h : Stands l []) (hline : l.kind ≠ .newline)
    (hjoins : l.joins = false) : Stands l.crlf [] := by
  by_cases hstring : l.kind = .string
  · obtain ⟨kind, text⟩ := l
    obtain ⟨q, a, rfl, hext⟩ := h
    obtain rfl : kind = .string := hstring
    rw [List.append_nil] at hext
    cases rule_of_extent hext with
    | string hq hm =>
      have hreturns := Literal.extent_crlf (u := []) hq hm (by simp)
      rw [show Literal.joinsLines q a = false from hjoins, List.append_nil] at hreturns
      refine ⟨q, Text.crlf a, crlf_cons (Literal.ne_of_isQuote hq).1 a, ?_⟩
      rw [List.append_nil]
      refine extent_of_rule (.string hq ?_)
      generalize Literal.extent q (Text.crlf a) = x at hreturns
      cases hreturns
      rfl
  by_cases hblock : l.kind = .comment ∧ ['/', '*'] <+: l.text
  · obtain ⟨kind, text⟩ := l
    obtain ⟨rfl, r, rfl⟩ := hblock
    exact stands_block_iff.mpr (commentExtent_crlf (stands_block_iff.mp h))
  · rw [h.crlf_eq hline hstring fun hk hpre => hblock ⟨hk, hpre⟩]
    exact h

private theorem Stands.head?_ne {l : Lexeme} {rest : Text} (h : Stands l rest)
    (hline : l.kind ≠ .newline) (w : Text) : (l.text ++ w).head? ≠ some '\n' := by
  obtain ⟨kind, text⟩ := l
  obtain ⟨c, a, rfl, hext⟩ := h
  rintro ⟨rfl⟩
  have hnewline : extent '\n' (a ++ rest) = .ok (.newline, 0) := extent_of_rule (.newline rfl)
  rw [hnewline] at hext
  exact hline (congrArg Prod.fst (Except.ok.inj hext)).symm

private theorem Stands.eq_newline {l : Lexeme} (h : Stands l []) (hkind : l.kind = .newline) :
    l = ⟨.newline, ['\n']⟩ := by
  obtain ⟨kind, text⟩ := l
  rw [Lexeme.mk.injEq]
  exact ⟨hkind, h.text_of_newline hkind⟩

private theorem Ends.with_returns {l : Lexeme} {rest : Text} (h : Ends l rest) (hl : Stands l []) :
    Ends l.crlf rest := by
  have hquote := isQuote_of_stands hl
  obtain ⟨kind, text⟩ := l
  cases kind with
  | newline => exact h
  | whitespace => exact h
  | number => exact h
  | identifier => exact h
  | comment =>
    refine h.imp_left ?_
    rintro ⟨r, rfl⟩
    exact ⟨Text.crlf r, rfl⟩
  | string =>
    obtain ⟨c, a, rfl, -⟩ := hl
    have hne := Literal.ne_of_isQuote (hquote rfl c rfl)
    intro q hq
    change Text.crlf (c :: a) = [q, q] at hq
    rw [crlf_cons hne.1] at hq
    obtain ⟨rfl, ha⟩ := List.cons.inj hq
    obtain ⟨s, rfl, hs⟩ := (crlf_eq_cons_iff hne).mp ha
    rw [Text.eq_nil_of_crlf hs.symm] at h
    exact h c rfl
  | symbol =>
    intro hslash
    obtain ⟨s, rfl, hs⟩ := (crlf_eq_cons_iff (by decide)).mp hslash
    rw [Text.eq_nil_of_crlf hs.symm] at h
    exact h rfl

private theorem Ends.before_returns {l : Lexeme} {rest : Text} (h : Ends l rest)
    (hline : rest.head? ≠ some '\n') : Ends l (Text.crlf rest) := by
  cases rest with
  | nil => exact h
  | cons c r =>
    have hc : c ≠ '\n' := by simpa using hline
    rw [crlf_cons hc]
    refine ends_cons (fun hdigit => ?_) h
    cases r with
    | nil => exact hdigit
    | cons d r =>
      by_cases hd : d = '\n'
      · rw [hd, crlf_newline] at hdigit
        exact absurd hdigit (by simp)
      · rwa [crlf_cons hd] at hdigit

private theorem Stands.crlf {l : Lexeme} {rest : Text} (h : Stands l rest)
    (hkind : l.kind ≠ .newline) (hjoins : l.joins = false) (hline : rest.head? ≠ some '\n') :
    Stands l.crlf (Text.crlf rest) := by
  obtain ⟨halone, hends⟩ := stands_iff.mp h
  refine stands_iff.mpr ⟨halone.with_returns hkind hjoins, ?_⟩
  exact (hends.before_returns hline).with_returns halone

/-! ## Lists of lexemes -/

/-- The token `t'` is the counterpart of `t` once the text has carriage returns. -/
structure Counterpart (source : Text) (t t' : Token) : Prop where
  kind : t'.kind = t.kind
  text : t.kind = .identifier ∨ t.kind = .symbol → t'.text = t.text
  place : t.kind ≠ .newline → ∃ a b, source = a ++ (t.text ++ b) ∧ t.start = a.size ∧
    t'.text = Text.crlf t.text ∧ t'.start = (Text.crlf a).size

/-- The lexemes `ls'` of a text with carriage returns, for the lexemes `ls` of the text without.
Only the trivia before a line end may differ by more than the carriage returns in a lexeme. -/
structure Returned (ls ls' : List Lexeme) : Prop where
  texts_eq : texts ls' = Text.crlf (texts ls)
  stands : ∀ rest : Text, rest.head? ≠ some '\n' → AllStand ls rest →
    AllStand ls' (Text.crlf rest)
  tokens : ∀ before : Text, (significant (place before.size ls)).Forall₂
    (Counterpart (before ++ texts ls)) (significant (place (Text.crlf before).size ls'))

private theorem Counterpart.append {source : Text} {t t' : Token} (h : Counterpart source t t')
    (w : Text) : Counterpart (source ++ w) t t' := by
  refine ⟨h.kind, h.text, fun hkind => ?_⟩
  obtain ⟨a, b, rfl, hstart, htext, hstart'⟩ := h.place hkind
  exact ⟨a, b ++ w, by simp, hstart, htext, hstart'⟩

private theorem counterpart_newline (source : Text) (p p' : Nat) :
    Counterpart source (lineFeed p) (lineFeed p') :=
  ⟨rfl, by simp [lineFeed], fun hkind => absurd rfl hkind⟩

private theorem Stands.counterpart {l : Lexeme} (h : Stands l []) (hkind : l.kind ≠ .newline)
    (a : Text) : Counterpart (a ++ l.text) ⟨l, a.size⟩ ⟨l.crlf, (Text.crlf a).size⟩ := by
  refine ⟨rfl, fun hname => ?_, fun _ => ⟨a, [], by simp, rfl, rfl, rfl⟩⟩
  have hsame : l.crlf = l :=
    h.crlf_eq hkind (by rintro hk; simp [hk] at hname) (by rintro hk; simp [hk] at hname)
  exact congrArg Lexeme.text hsame

private theorem returned_nil : Returned [] [] := ⟨rfl, fun _ _ _ => trivial, fun _ => .nil⟩

private theorem Returned.tokens_append {ls ls' : List Lexeme} (h : Returned ls ls')
    (before w : Text) :
    (significant (place before.size ls)).Forall₂ (Counterpart (before ++ (texts ls ++ w)))
      (significant (place (Text.crlf before).size ls')) := by
  rw [← List.append_assoc]
  exact (h.tokens before).imp fun _ _ ht => ht.append w

private theorem significant_place_snoc (p : Nat) (ks : List Lexeme) {l : Lexeme}
    (h : l.kind.isTrivia = false) :
    significant (place p (ks ++ [l])) = significant (place p ks) ++ [⟨l, p + (texts ks).size⟩] := by
  rw [significant_place_append, significant_place_solid h]
  rfl

/-- A line end gets a carriage return, which belongs to the trivia before it. -/
theorem Returned.line {ls ls' : List Lexeme} (h : Returned ls ls') (hls : AllStand ls []) :
    ∃ ks, Returned (ls ++ [⟨.newline, ['\n']⟩]) ks := by
  obtain ⟨ks, htexts, hks, hsignificant⟩ := exists_return (h.stands [] (by simp) hls)
  refine ⟨ks ++ [⟨.newline, ['\n']⟩], ?_, ?_, ?_⟩
  · simp [htexts, h.texts_eq]
  · intro rest _ _
    exact allStand_snoc.mpr ⟨hks.congr (replaces_newline _ _), stands_newline _⟩
  · intro before
    rw [texts_append, significant_place_snoc _ _ rfl, significant_place_snoc _ _ rfl, hsignificant]
    exact List.rel_append (h.tokens_append before _) (.cons (counterpart_newline _ _ _) .nil)

private theorem Returned.solid {ls ls' : List Lexeme} {l : Lexeme} (h : Returned ls ls')
    (hl : Stands l []) (hkind : l.kind ≠ .newline) (hjoins : l.joins = false) :
    Returned (ls ++ [l]) (ls' ++ [l.crlf]) := by
  refine ⟨?_, ?_, ?_⟩
  · simp [h.texts_eq, crlf]
  · intro rest hline hall
    rw [allStand_snoc] at hall ⊢
    refine ⟨?_, hall.2.crlf hkind hjoins hline⟩
    have hfront := h.stands _ (hl.head?_ne hkind rest) hall.1
    rw [Text.crlf_append] at hfront
    exact hfront
  · intro before
    have hold := h.tokens_append before (texts [l])
    rw [texts_append]
    cases htrivia : l.kind.isTrivia with
    | true =>
      rw [significant_place_append, significant_place_append, significant_place_trivia htrivia,
        significant_place_trivia (l := l.crlf) htrivia, List.append_nil, List.append_nil]
      exact hold
    | false =>
      rw [significant_place_snoc _ _ htrivia, significant_place_snoc (l := l.crlf) _ _ htrivia]
      have hnew := hl.counterpart hkind (before ++ texts ls)
      rw [Text.crlf_append, Text.size_append, Text.size_append, ← h.texts_eq,
        List.append_assoc] at hnew
      simpa using List.rel_append hold (.cons (by simpa using hnew) .nil)

private theorem exists_returned {ls : List Lexeme} (h : AllStand ls [])
    (hjoins : ∀ l ∈ ls, l.joins = false) : ∃ ls', Returned ls ls' := by
  induction ls using List.reverseRecOn with
  | nil => exact ⟨[], returned_nil⟩
  | append_singleton ls l ih =>
    obtain ⟨hls, hl⟩ := allStand_snoc.mp h
    have hls' : AllStand ls [] := hls.congr (replaces_nil _)
    obtain ⟨ls', hreturned⟩ := ih hls' fun k hk => hjoins k (by simp [hk])
    by_cases hkind : l.kind = .newline
    · rw [hl.eq_newline hkind]
      exact hreturned.line hls'
    · exact ⟨_, hreturned.solid hl hkind (hjoins l (by simp))⟩

/-! ## Texts -/

private theorem extent_quote {q : Char} (hq : Literal.isQuote q = true) (r : Text) :
    extent q r = (Literal.extent q r).map fun n => (.string, n) := by
  have hblank : Text.isBlank q = false := by
    obtain rfl | rfl := Literal.isQuote_iff.mp hq <;> decide
  have hslash : q ≠ '/' := by
    obtain rfl | rfl := Literal.isQuote_iff.mp hq <;> decide
  simp [extent, (Literal.ne_of_isQuote hq).1, hblank, hslash, hq]

/-- A literal that joins lines is broken by a carriage return. -/
theorem ofBody_joined {l : Lexeme} {rest : Text} (h : Stands l rest) (hjoins : l.joins = true) :
    ∃ e, ofBody (Text.crlf (l.text ++ rest)) = .error e ∧ e.defect = .string := by
  obtain ⟨kind, text⟩ := l
  obtain ⟨halone, hends⟩ := stands_iff.mp h
  obtain ⟨q, a, rfl, hext⟩ := halone
  obtain rfl : kind = .string := kind_of_joins hjoins
  rw [List.append_nil] at hext
  cases rule_of_extent hext with
  | string hq hm =>
    have hne := Literal.ne_of_isQuote hq
    have hempty : a = [q] → (Text.crlf rest).head? ≠ some q := by
      rintro rfl
      rw [Ne, head?_crlf_iff hne]
      exact hends q rfl
    have hreturns := Literal.extent_crlf hq hm hempty
    rw [show Literal.joinsLines q a = true from hjoins] at hreturns
    generalize hx : Literal.extent q (Text.crlf a ++ Text.crlf rest) = x at hreturns
    cases hreturns with
    | @broken e he =>
      refine ⟨e, ?_, he⟩
      rw [List.cons_append, crlf_cons hne.1, Text.crlf_append, ofBody, extent_quote hq, hx]
      rfl

/-- A text with the lexemes `ls` is cut again with carriage returns in it: into lexemes that
correspond or, if a literal joins lines, not at all. The text `before` stands in front of it. -/
inductive Recut (before : Text) (ls : List Lexeme) : Except Fault (List Lexeme) → Prop where
  | ok {ls'} : (∀ l ∈ ls, l.joins = false) →
      (significant (place before.size ls)).Forall₂ (Counterpart (before ++ texts ls))
        (significant (place (Text.crlf before).size ls')) → Recut before ls (.ok ls')
  | broken {e} : (∃ l ∈ ls, l.joins = true) → e.defect = .string → Recut before ls (.error e)

private theorem ofBody_crlf {ls : List Lexeme} (h : AllStand ls []) (before : Text) :
    Recut before ls (ofBody (Text.crlf (texts ls))) := by
  by_cases hjoins : ∃ l ∈ ls, l.joins = true
  · -- the text breaks at the first literal that joins lines
    obtain ⟨l, hfind⟩ := Option.isSome_iff_exists.mp (List.find?_isSome.mpr hjoins)
    obtain ⟨hl, ks, ms, rfl, hks⟩ := List.find?_eq_some_iff_append.mp hfind
    obtain ⟨hfront, hstands, -⟩ := allStand_append.mp h
    obtain ⟨ks', hreturned⟩ := exists_returned (hfront.congr (replaces_nil _)) (by simpa using hks)
    obtain ⟨e, he, hdefect⟩ := ofBody_joined hstands hl
    rw [texts_cons, List.append_assoc] at hfront
    have hhead := hstands.head?_ne (by simp [kind_of_joins hl]) (texts ms ++ [])
    have hcut := ofBody_append (hreturned.stands _ hhead hfront)
    rw [he, hreturned.texts_eq, ← Text.crlf_append, List.append_nil, ← texts_cons,
      ← texts_append] at hcut
    rw [hcut]
    exact .broken hjoins hdefect
  · have hnone : ∀ l ∈ ls, l.joins = false := by simpa using hjoins
    obtain ⟨ls', hreturned⟩ := exists_returned h hnone
    rw [← hreturned.texts_eq, ofBody_texts (hreturned.stands [] (by simp) h)]
    exact .ok hnone (hreturned.tokens before)

/-! ## Scripts -/

private theorem crlf_line {r : Text} (hr : ∀ c ∈ r, c ≠ '\n') (b : Text) :
    Text.crlf ('#' :: '!' :: (r ++ b)) = '#' :: '!' :: (r ++ Text.crlf b) := by
  rw [crlf_cons (by decide), crlf_cons (by decide), Text.crlf_append,
    crlf_of_not_mem fun hmem => hr _ hmem rfl]

/-- A first line takes the carriage return at its end. -/
theorem Recut.line {r : Text} {ms : List Lexeme} {x : Except Fault (List Lexeme)}
    (h : Recut ('#' :: '!' :: (r ++ ['\n'])) ms x) (hr : ∀ c ∈ r, c ≠ '\n') :
    Recut [] (⟨.comment, '#' :: '!' :: r⟩ :: ⟨.newline, ['\n']⟩ :: ms)
      (x.map ([⟨.comment, '#' :: '!' :: (r ++ ['\r'])⟩] ++ ⟨.newline, ['\n']⟩ :: ·)) := by
  cases h with
  | broken hjoins hdefect =>
    obtain ⟨l, hl, hjoins⟩ := hjoins
    exact .broken ⟨l, by simp [hl], hjoins⟩ hdefect
  | @ok ls' hjoins htokens =>
    rw [crlf_line hr] at htokens
    refine .ok (by simpa [joins] using hjoins) ?_
    simp only [List.singleton_append]
    rw [significant_place_cons rfl, significant_place_solid rfl, significant_place_cons rfl,
      significant_place_solid rfl]
    refine .cons (counterpart_newline _ _ _) ?_
    simpa [Nat.add_assoc] using htokens

private theorem not_begins_crlf {t : Text} (h : ¬ ['#', '!'] <+: t) : ¬ ['#', '!'] <+:
    Text.crlf t := by
  rintro ⟨u, hu⟩
  obtain ⟨s, rfl, hs⟩ := (crlf_eq_cons_iff (by decide)).mp hu.symm
  obtain ⟨s, rfl, -⟩ := (crlf_eq_cons_iff (by decide)).mp hs.symm
  exact h ⟨s, rfl⟩

theorem ofSource_crlf {ls : List Lexeme} (h : Begins ls []) :
    Recut [] ls (ofSource (Text.crlf (texts ls))) := by
  cases h with
  | plain hpre hstand =>
    rw [List.append_nil] at hpre
    rw [ofSource_eq_ofBody (not_begins_crlf hpre)]
    exact ofBody_crlf hstand []
  | @line r ks _ hr hrest hstand =>
    cases ks with
    | nil =>
      have hfirst := crlf_line hr []
      have hcut : ofSource ('#' :: '!' :: r) = .ok [⟨.comment, '#' :: '!' :: r⟩] :=
        ofSource_eq_ok_iff.mpr ⟨by simp, .line hr (by simp) trivial⟩
      simp only [Text.crlf_nil, List.append_nil] at hfirst
      simp only [texts_cons, texts_nil, List.append_nil, hfirst, hcut]
      refine .ok (by simp [joins]) ?_
      rw [significant_place_trivia rfl, significant_place_trivia rfl]
      exact .nil
    | cons k ms =>
      obtain rfl : k = ⟨.newline, ['\n']⟩ := by
        refine (stands_iff.mp hstand.1).1.eq_newline ?_
        by_contra hkind
        have hne := hstand.1.head?_ne hkind []
        obtain ⟨c, a, htext, -⟩ := hstand.1
        exact hne (by simp [htext, hrest c (by simp [htext])])
      have hr' : ∀ c ∈ r ++ ['\r'], c ≠ '\n' := by
        intro c hc
        obtain hc | hc := List.mem_append.mp hc
        · exact hr c hc
        · obtain rfl := List.mem_singleton.mp hc
          decide
      have hbegins : Begins [⟨.comment, '#' :: '!' :: (r ++ ['\r'])⟩] [] :=
        .line hr' (by simp) trivial
      have hcut := ofSource_append_line hbegins (Text.crlf (texts ms))
      have htexts : Text.crlf (texts (⟨.comment, '#' :: '!' :: r⟩ :: ⟨.newline, ['\n']⟩ :: ms)) =
          texts [⟨.comment, '#' :: '!' :: (r ++ ['\r'])⟩] ++ '\n' :: Text.crlf (texts ms) := by
        simpa using crlf_line hr ('\n' :: texts ms)
      rw [htexts, hcut]
      exact (ofBody_crlf hstand.2 _).line hr

end Lexeme
end Graft
