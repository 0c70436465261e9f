import Graft.Proofs.Layout
import Graft.Proofs.Lexeme.Follow

/-!
# Seams

How the lexemes of a text change where a line end is set behind it, where the indentation at its end
is taken away, and where it is cut at a line end: in all three cases the tokens that carry structure
stay as they are.
-/
namespace Graft.Lexeme

open Token (place significant)

/-! ## How lexemes end -/

theorem isBlank_of_numberExtent {a : Text} (h : numberExtent a = a.length) :
    ∀ c ∈ a, Text.isBlank c = false := by
  induction a with
  | nil => simp
  | cons x a ih =>
    rw [numberExtent_cons, List.length_cons] at h
    cases hx : goesOn x a with
    | false => simp [hx] at h
    | true =>
      simp only [hx, if_true, Nat.add_right_cancel_iff] at h
      intro c hc
      obtain rfl | hc := List.mem_cons.mp hc
      · simp only [goesOn, Char.isAlphanum, Bool.or_eq_true, Bool.and_eq_true, beq_iff_eq] at hx
        obtain ((hx | hx) | rfl) | ⟨rfl, -⟩ := hx
        · exact Text.isBlank_of_isAlpha hx
        · exact Text.isBlank_of_isDigit hx
        · decide
        · decide
      · exact ih h c hc

private theorem getLast?_of_commentExtent {a : Text} (h : commentExtent a = some a.length) :
    a.getLast? = some '/' := by
  induction a with
  | nil => cases h
  | cons x a ih =>
    cases a with
    | nil => cases h
    | cons y a =>
      rw [List.getLast?_cons_cons]
      simp only [commentExtent] at h
      split at h
      case isTrue hend =>
        simp only [Bool.and_eq_true, decide_eq_true_eq] at hend
        obtain rfl : a = [] := by simpa using h
        simp [hend.2]
      case isFalse =>
        obtain ⟨m, hm, hlen⟩ := Option.map_eq_some_iff.mp h
        obtain rfl : m = a.length + 1 := by simpa using hlen
        exact ih hm

/-- A lexeme is a line end, a gap or a comment to the end of the line, or else ends with a character
that is not blank. -/
inductive Close (l : Lexeme) : Prop where
  | newline : l = ⟨.newline, ['\n']⟩ → Close l
  | gap : l.kind = .whitespace → (∀ c ∈ l.text, isGap c = true) → Close l
  | line : l.kind = .comment → ['/', '/'] <+: l.text → (∀ c ∈ l.text, c ≠ '\n') → Close l
  | firm {z} : l.kind ≠ .whitespace → (l.kind = .comment → ['/', '*'] <+: l.text) →
      l.text.getLast? = some z → Text.isBlank z = false → Close l

private theorem close_of_all {kind : Token.Kind} {c : Char} {a : Text}
    (hk : kind ≠ .whitespace ∧ kind ≠ .comment) (h : ∀ x ∈ c :: a, Text.isBlank x = false) :
    Close ⟨kind, c :: a⟩ := by
  have hlast : (c :: a).getLast? = some ((c :: a).getLast (by simp)) :=
    List.getLast?_eq_some_getLast _
  exact .firm hk.1 (fun hc => absurd hc hk.2) hlast (h _ (List.getLast_mem _))

theorem Stands.close {l : Lexeme} (h : Stands l []) : Close l := by
  obtain ⟨kind, text⟩ := l
  obtain ⟨c, a, rfl, hext⟩ := h
  rw [List.append_nil] at hext
  have hrule := rule_of_extent hext
  simp only at hrule
  generalize hn : a.length = n at hrule
  cases hrule with
  | newline hc =>
    obtain rfl := List.length_eq_zero_iff.mp hn
    exact .newline (by rw [hc])
  | whitespace hc =>
    obtain ⟨hall, -⟩ := length_takeWhile_append.mp
      (show ((a ++ []).takeWhile isGap).length = a.length by simpa using hn.symm)
    exact .gap rfl (by simpa [hc] using hall)
  | line hc hr =>
    obtain ⟨hall, -⟩ := lineExtent_append.mp
      (show lineExtent (a ++ []) = a.length by simpa using hn.symm)
    obtain ⟨r, rfl⟩ := List.head?_eq_some_iff.mp hr
    exact .line rfl (by simp [hc]) (by simpa [hc] using hall)
  | @block m hc hr hm =>
    cases a with
    | nil => cases hn
    | cons x a =>
      obtain rfl : x = '*' := by simpa using hr
      obtain rfl : m = a.length := by simpa using hn.symm
      have hlast : a.getLast? = some '/' := getLast?_of_commentExtent hm
      refine .firm (z := '/') (by simp) (by simp [hc]) ?_ (by decide)
      rw [List.getLast?_cons_cons, List.getLast?_cons, hlast]
      rfl
  | string hc hm =>
    subst hn
    have hlast : a.getLast? = some c :=
      Literal.getLast?_of_extent (b := []) (by rw [List.append_nil]; exact hm)
    have hblank : Text.isBlank c = false := by
      have : c = '\'' ∨ c = '"' := by simpa [Literal.isQuote] using hc
      obtain rfl | rfl := this <;> decide
    refine .firm (z := c) (by simp) (by simp) ?_ hblank
    rw [List.getLast?_cons, hlast]
    rfl
  | number hc =>
    have hall := isBlank_of_numberExtent hn.symm
    exact close_of_all (by simp) (by simpa [Text.isBlank_of_isDigit hc] using hall)
  | identifier hc =>
    obtain ⟨hall, -⟩ := length_takeWhile_append.mp
      (show ((a ++ []).takeWhile isNamePart).length = a.length by simpa using hn.symm)
    refine close_of_all (by simp) fun x hx => isBlank_of_isNamePart ?_
    obtain rfl | hx := List.mem_cons.mp hx
    · exact isNamePart_of_isNameStart hc
    · exact hall x hx
  | symbol hc _ =>
    obtain rfl := List.length_eq_zero_iff.mp hn
    simp only [isMark, Bool.and_eq_true, Bool.not_eq_true'] at hc
    exact close_of_all (by simp) (by simpa using hc.1.1.1)

theorem stands_whitespace {t : Text} (hne : t ≠ []) (h : ∀ c ∈ t, isGap c = true) :
    Stands ⟨.whitespace, t⟩ [] := by
  cases t with
  | nil => exact absurd rfl hne
  | cons c a =>
    refine ⟨c, a, rfl, ?_⟩
    rw [← length_takeWhile_append.mpr ⟨fun x hx => h x (by simp [hx]),
      (by simp : ∀ c ∈ ([] : Text).head?, isGap c = false)⟩]
    exact extent_of_rule (.whitespace (h c (by simp)))

/-! ## Significant tokens -/

theorem place_append (p : Nat) (ks ls : List Lexeme) :
    place p (ks ++ ls) = place p ks ++ place (p + (texts ks).size) ls := by
  induction ks generalizing p with
  | nil => rfl
  | cons k ks ih => simp [place, ih, Nat.add_assoc]

theorem significant_place_append (p : Nat) (ks ls : List Lexeme) :
    significant (place p (ks ++ ls)) =
      significant (place p ks) ++ significant (place (p + (texts ks).size) ls) := by
  rw [place_append, Grammar.significant_append]

theorem significant_place_trivia {l : Lexeme} (h : l.kind.isTrivia = true) (p : Nat) :
    significant (place p [l]) = [] := by
  simp [significant, place, Token.isTrivia, h]

theorem allStand_snoc {ks : List Lexeme} {l : Lexeme} {rest : Text} :
    AllStand (ks ++ [l]) rest ↔ AllStand ks (l.text ++ rest) ∧ Stands l rest := by
  simp [allStand_append, AllStand]

private theorem AllStand.extend {ks : List Lexeme} {c : Char} {a rest rest' : Text}
    (h : AllStand ks (c :: a ++ rest))
    (hdigit : rest'.head?.any Char.isDigit = true → rest.head?.any Char.isDigit = true) :
    AllStand ks (c :: a ++ rest') := by
  refine h.congr (replaces_cons ?_)
  cases a with
  | nil => exact hdigit
  | cons d a => exact id

/-! ## A line end behind a text -/

private theorem ends_return {l : Lexeme} (h : Stands l []) (hgap : l.kind ≠ .whitespace)
    (hblock : l.kind = .comment → ['/', '*'] <+: l.text) (r : Text) : Ends l ('\r' :: r) := by
  have hquote := isQuote_of_stands h
  obtain ⟨kind, text⟩ := l
  cases kind with
  | newline => trivial
  | whitespace => exact absurd rfl hgap
  | comment => exact .inl (hblock rfl)
  | string =>
    rintro q rfl hq
    obtain rfl : '\r' = q := by simpa using hq
    exact absurd (hquote rfl _ rfl) (by decide)
  | number => exact numberExtent_eq_zero_iff.mpr (by simp [goesOn])
  | identifier =>
    intro c hc
    obtain rfl : '\r' = c := by simpa using hc
    decide
  | symbol => simp [Ends]

/-- A carriage return behind a text makes a gap or belongs to the trivia at its end. -/
theorem exists_return {ls : List Lexeme} (h : AllStand ls []) :
    ∃ ks, texts ks = texts ls ++ ['\r'] ∧ AllStand ks [] ∧
      ∀ p, significant (place p ks) = significant (place p ls) := by
  have hgap : Stands ⟨.whitespace, ['\r']⟩ [] :=
    stands_whitespace (by simp) (List.forall_mem_singleton.mpr (by decide))
  cases List.eq_nil_or_concat ls with
  | inl hnil =>
    subst hnil
    exact ⟨[⟨.whitespace, ['\r']⟩], rfl, ⟨hgap, trivial⟩, fun p => significant_place_trivia rfl p⟩
  | inr hsnoc =>
    obtain ⟨init, l, rfl⟩ := hsnoc
    rw [List.concat_eq_append, allStand_snoc] at h
    obtain ⟨hinit, hl⟩ := h
    have hinit' : AllStand init (l.text ++ ['\r']) := by
      obtain ⟨c, a, htext, -⟩ := hl
      rw [htext] at hinit ⊢
      exact hinit.extend (by simp)
    have hlonger (hk : l.kind.isTrivia = true) (hl' : Stands ⟨l.kind, l.text ++ ['\r']⟩ []) :
        ∃ ks, texts ks = texts (init.concat l) ++ ['\r'] ∧ AllStand ks [] ∧
          ∀ p, significant (place p ks) = significant (place p (init.concat l)) := by
      refine ⟨init ++ [⟨l.kind, l.text ++ ['\r']⟩], by simp, allStand_snoc.mpr ⟨?_, hl'⟩, ?_⟩
      · rwa [List.append_nil]
      · intro p
        rw [List.concat_eq_append, significant_place_append, significant_place_append,
          significant_place_trivia hk,
          significant_place_trivia (l := ⟨l.kind, l.text ++ ['\r']⟩) hk]
    have hafter (hk : l.kind ≠ .whitespace) (hblock : l.kind = .comment → ['/', '*'] <+: l.text) :
        ∃ ks, texts ks = texts (init.concat l) ++ ['\r'] ∧ AllStand ks [] ∧
          ∀ p, significant (place p ks) = significant (place p (init.concat l)) := by
      have hends := ends_return hl hk hblock []
      refine ⟨init.concat l ++ [⟨.whitespace, ['\r']⟩], by simp, allStand_snoc.mpr ⟨?_, hgap⟩, ?_⟩
      · rw [List.concat_eq_append, allStand_snoc]
        exact ⟨hinit', stands_iff.mpr ⟨hl, hends⟩⟩
      · intro p
        rw [significant_place_append, significant_place_trivia (l := ⟨.whitespace, ['\r']⟩) rfl,
          List.append_nil]
    cases hl.close with
    | newline hnl => exact hafter (by simp [hnl]) (by simp [hnl])
    | firm hk hblock _ _ => exact hafter hk hblock
    | gap hk hall =>
      refine hlonger (by rw [hk]; rfl) ?_
      rw [hk]
      refine stands_whitespace (by simp) fun c hc => ?_
      obtain hc | hc := List.mem_append.mp hc
      · exact hall c hc
      · obtain rfl := List.mem_singleton.mp hc
        decide
    | line hk hpre hall =>
      refine hlonger (by rw [hk]; rfl) ?_
      obtain ⟨r, hr⟩ := hpre
      refine ⟨'/', '/' :: (r ++ ['\r']), by simp [← hr], ?_⟩
      have hlen : lineExtent ('/' :: (r ++ ['\r'])) = ('/' :: (r ++ ['\r'])).length := by
        have hne : ∀ c ∈ '/' :: (r ++ ['\r']), c ≠ '\n' := by
          intro c hc
          simp only [List.mem_cons, List.mem_append, List.not_mem_nil, or_false] at hc
          obtain rfl | hc | rfl := hc
          · decide
          · exact hall c (by simp [← hr, hc])
          · decide
        simpa using (lineExtent_append (b := [])).mpr ⟨hne, by simp⟩
      rw [List.append_nil, hk, ← hlen]
      exact extent_of_rule (.line rfl rfl)

/-! ## Indentation at the end of a text -/

theorem isBlank_of_isGap {c : Char} (h : isGap c = true) : Text.isBlank c = true := by
  simp only [isGap, Bool.and_eq_true] at h
  exact h.1

/-- Before a character on the same line only a gap ends with a character of a gap. -/
theorem gap_of_getLast? {l : Lexeme} {c z : Char} {r : Text} (h : Stands l (c :: r)) (hc : c ≠ '\n')
    (hlast : l.text.getLast? = some z) (hz : isGap z = true) :
    l.kind = .whitespace ∧ ∀ x ∈ l.text, isGap x = true := by
  obtain ⟨hself, hends⟩ := stands_iff.mp h
  cases hself.close with
  | gap hk hall => exact ⟨hk, hall⟩
  | newline hnl =>
    obtain rfl : '\n' = z := by simpa [hnl] using hlast
    exact absurd hz (by decide)
  | line hk hpre _ =>
    rw [Ends, hk] at hends
    obtain hblock | hnl := hends
    · obtain ⟨r, hr⟩ := hpre
      rw [← hr] at hblock
      simp at hblock
    · exact absurd (hnl c rfl) hc
  | firm _ _ hlast' hfirm =>
    obtain rfl := Option.some.inj (hlast.symm.trans hlast')
    rw [isBlank_of_isGap hz] at hfirm
    cases hfirm

private theorem exists_snoc_of_texts {ls : List Lexeme} {t : Text} {z : Char}
    (h : texts ls = t ++ [z]) (hne : ∀ l ∈ ls, l.text ≠ []) :
    ∃ init l, ls = init ++ [l] ∧ l.text.getLast? = some z := by
  cases List.eq_nil_or_concat ls with
  | inl hnil => simp [hnil] at h
  | inr hsnoc =>
    obtain ⟨init, l, rfl⟩ := hsnoc
    have hl : l.text ≠ [] := hne l (by simp)
    refine ⟨init, l, List.concat_eq_append, ?_⟩
    have hlast : (texts (init.concat l)).getLast? = some z := by rw [h, List.getLast?_concat]
    rw [List.concat_eq_append, texts_append, texts_cons, texts_nil, List.append_nil,
      List.getLast?_append, List.getLast?_eq_some_getLast hl] at hlast
    rw [List.getLast?_eq_some_getLast hl]
    exact hlast

theorem exists_trimmed {ls : List Lexeme} {u gap r : Text} {c : Char} (h : AllStand ls (c :: r))
    (hc : c ≠ '\n') (htexts : texts ls = u ++ gap) (hgap : ∀ x ∈ gap, isGap x = true) :
    ∃ ks, texts ks = u ∧ AllStand ks [] ∧
      ∀ p, significant (place p ks) = significant (place p ls) := by
  cases List.eq_nil_or_concat gap with
  | inl hnil =>
    subst hnil
    exact ⟨ls, by simpa using htexts, h.congr (replaces_nil _), fun _ => rfl⟩
  | inr hsnoc =>
    obtain ⟨g, z, rfl⟩ := hsnoc
    rw [List.concat_eq_append] at hgap htexts
    obtain ⟨init, l, rfl, hlast⟩ := exists_snoc_of_texts
      (by rw [htexts, List.append_assoc]) h.text_ne_nil
    obtain ⟨hinit, hl⟩ := allStand_snoc.mp h
    obtain ⟨hk, hall⟩ := gap_of_getLast? hl hc hlast (hgap z (by simp))
    have hsig (p : Nat) : significant (place p (init ++ [l])) = significant (place p init) := by
      rw [significant_place_append, significant_place_trivia (by rw [hk]; rfl), List.append_nil]
    have hnone (hu : u = texts init) : ∃ ks, texts ks = u ∧ AllStand ks [] ∧
        ∀ p, significant (place p ks) = significant (place p (init ++ [l])) :=
      ⟨init, hu.symm, hinit.congr (replaces_nil _), fun p => (hsig p).symm⟩
    have hcut : texts init ++ l.text = u ++ (g ++ [z]) := by simpa using htexts
    obtain ⟨v, hu, hv⟩ | ⟨v, hinit', hv⟩ := List.append_eq_append_iff.mp hcut
    · cases v with
      | nil => exact hnone (by simpa using hu)
      | cons x v =>
        have hall' : ∀ y ∈ x :: v, isGap y = true := fun y hy =>
          hall y (by rw [hv]; exact List.mem_append_left _ hy)
        refine ⟨init ++ [⟨.whitespace, x :: v⟩], by simp [hu], allStand_snoc.mpr
          ⟨?_, stands_whitespace (by simp) hall'⟩, ?_⟩
        · rw [hv, List.append_assoc] at hinit
          exact hinit.extend (by simp)
        · intro p
          rw [hsig, significant_place_append,
            significant_place_trivia (l := ⟨.whitespace, x :: v⟩) rfl, List.append_nil]
    · cases List.eq_nil_or_concat v with
      | inl hnil => exact hnone (by simpa [hnil] using hinit'.symm)
      | inr hsnoc =>
        -- two gaps do not stand side by side
        obtain ⟨v, y, rfl⟩ := hsnoc
        rw [List.concat_eq_append] at hinit' hv
        obtain ⟨init, k, rfl, hlast'⟩ := exists_snoc_of_texts
          (by rw [hinit', List.append_assoc]) hinit.text_ne_nil
        obtain ⟨x, a, hx⟩ := List.exists_cons_of_ne_nil hl.text_ne_nil
        have hgapx : isGap x = true := hall x (by simp [hx])
        obtain ⟨-, hk'⟩ := allStand_snoc.mp hinit
        rw [hx, List.cons_append] at hk'
        have hx' : x ≠ '\n' := by
          rintro rfl
          exact absurd hgapx (by decide)
        obtain ⟨hkind, -⟩ := gap_of_getLast? hk' hx' hlast' (hgap y (by rw [hv]; simp))
        have hends := (stands_iff.mp hk').2
        rw [Ends, hkind] at hends
        rw [hends x rfl] at hgapx
        cases hgapx

/-! ## Cutting at a line end -/

private theorem not_mem_of_isGap {t : Text} (h : ∀ c ∈ t, isGap c = true) : '\n' ∉ t := by
  intro hmem
  exact absurd (h _ hmem) (by decide)

/-- A line end with nothing but blanks behind it is a lexeme of its own. -/
theorem exists_newline {ls : List Lexeme} {a w rest : Text} (h : AllStand ls rest)
    (htexts : texts ls = a ++ '\n' :: w) (hw : ∀ c ∈ w, Text.isBlank c = true) :
    ∃ ks ms, ls = ks ++ ⟨.newline, ['\n']⟩ :: ms ∧ texts ks = a ∧ texts ms = w := by
  induction ls generalizing a with
  | nil => simp at htexts
  | cons l ls ih =>
    have hfront {b : Text} (hb : a = l.text ++ b) (hls : texts ls = b ++ '\n' :: w) :
        ∃ ks ms, l :: ls = ks ++ ⟨.newline, ['\n']⟩ :: ms ∧ texts ks = a ∧ texts ms = w := by
      obtain ⟨ks, ms, rfl, hks, hms⟩ := ih h.2 hls
      exact ⟨l :: ks, ms, rfl, by simp [hks, hb], hms⟩
    rw [texts_cons] at htexts
    obtain ⟨b, ha, hls⟩ | ⟨b, hl, hb⟩ := List.append_eq_append_iff.mp htexts
    · exact hfront ha hls
    · cases b with
      | nil => exact hfront (b := []) (by simpa using hl.symm) (by simpa using hb.symm)
      | cons x b =>
        obtain ⟨rfl, hw'⟩ := List.cons.inj hb
        have hmem : '\n' ∈ l.text := by simp [hl]
        cases (stands_iff.mp h.1).1.close with
        | newline hnl =>
          obtain rfl : a = [] := by
            cases a with
            | nil => rfl
            | cons y a => simp [hnl] at hl
          obtain rfl : b = [] := by simpa [hnl] using hl.symm
          exact ⟨[], ls, by simp [hnl], rfl, hw'.symm⟩
        | gap _ hall => exact absurd hmem (not_mem_of_isGap hall)
        | line _ _ hall => exact absurd rfl (hall _ hmem)
        | firm _ _ hlast hfirm =>
          rw [hl, List.getLast?_append, List.getLast?_eq_some_getLast (by simp)] at hlast
          have hz := List.getLast_mem (l := '\n' :: b) (by simp)
          rw [Option.some.inj hlast] at hz
          obtain rfl | hz := List.mem_cons.mp hz
          · exact absurd hfirm (by decide)
          · rw [hw _ (by rw [hw']; exact List.mem_append_left _ hz)] at hfirm
            cases hfirm

end Graft.Lexeme
