import Graft.Token.Scan
import Graft.Proofs.Lexeme.Literal
import Mathlib

/-!
# Lexemes as a decomposition of the text

Cutting a text into lexemes is described by what holds at each of them: a lexeme stands where the
rules give its kind and its length. A list of lexemes that stand one after another is what the text
is cut into, so cutting a text and laying lexemes end to end are inverse to each other.
-/
namespace Graft.Text

/-! ## Classes of characters -/

private theorem disjoint_letters_blanks : ∀ r ∈ letters, ∀ s ∈ blanks, r.2 < s.1 ∨ s.2 < r.1 := by
  decide +kernel

private theorem disjoint_numerals_blanks : ∀ r ∈ numerals, ∀ s ∈ blanks, r.2 < s.1 ∨ s.2 < r.1 := by
  decide +kernel

private theorem CharSet.contains_of_disjoint {p q : CharSet} {c : Char}
    (h : ∀ r ∈ p, ∀ s ∈ q, r.2 < s.1 ∨ s.2 < r.1) (hp : p.contains c = true) :
    q.contains c = false := by
  rw [Bool.eq_false_iff]
  intro hq
  simp only [CharSet.contains, List.any_eq_true, Bool.and_eq_true, decide_eq_true_eq] at hp hq
  obtain ⟨r, hr, hrc⟩ := hp
  obtain ⟨s, hs, hsc⟩ := hq
  have := h r hr s hs
  omega

private theorem toNat_of_isDigit {c : Char} (h : c.isDigit = true) :
    48 ≤ c.toNat ∧ c.toNat ≤ 57 := by
  simp only [Char.isDigit, Bool.and_eq_true, decide_eq_true_eq, ge_iff_le,
    UInt32.le_iff_toNat_le] at h
  exact h

private theorem toNat_of_isAlpha {c : Char} (h : c.isAlpha = true) :
    (65 ≤ c.toNat ∧ c.toNat ≤ 90) ∨ (97 ≤ c.toNat ∧ c.toNat ≤ 122) := by
  simp only [Char.isAlpha, Char.isUpper, Char.isLower, Bool.or_eq_true, Bool.and_eq_true,
    decide_eq_true_eq, ge_iff_le, UInt32.le_iff_toNat_le] at h
  exact h

private theorem isBlank_eq_false {c : Char} (h : 33 ≤ c.toNat) (h' : c.toNat < 128) :
    isBlank c = false := by
  simp only [isBlank, CharSet.contains, blanks, List.any_cons, List.any_nil, Bool.or_false,
    Bool.or_eq_false_iff, Bool.and_eq_false_imp, decide_eq_true_eq, decide_eq_false_iff_not]
  omega

theorem isBlank_of_isDigit {c : Char} (h : c.isDigit = true) : isBlank c = false := by
  have := toNat_of_isDigit h
  exact isBlank_eq_false (by omega) (by omega)

theorem isBlank_of_isAlpha {c : Char} (h : c.isAlpha = true) : isBlank c = false := by
  have := toNat_of_isAlpha h
  exact isBlank_eq_false (by omega) (by omega)

private theorem isBlank_of_isLetter {c : Char} (h : isLetter c = true) : isBlank c = false := by
  simp only [isLetter] at h
  split at h
  · exact isBlank_of_isAlpha h
  · exact CharSet.contains_of_disjoint disjoint_letters_blanks h

private theorem isBlank_of_isNumeral {c : Char} (h : isNumeral c = true) : isBlank c = false := by
  simp only [isNumeral] at h
  split at h
  · exact isBlank_of_isDigit h
  · exact CharSet.contains_of_disjoint disjoint_numerals_blanks h

private theorem isLetter_of_isDigit {c : Char} (h : c.isDigit = true) : isLetter c = false := by
  have hc := toNat_of_isDigit h
  rw [isLetter, if_pos (by omega), Bool.eq_false_iff]
  intro ha
  have := toNat_of_isAlpha ha
  omega

end Graft.Text

namespace Graft.Lexeme

/-- Lexemes laid end to end. -/
def texts (ls : List Lexeme) : Text := ls.flatMap Lexeme.text

@[simp] theorem texts_nil : texts [] = [] := rfl

@[simp] theorem texts_cons (l : Lexeme) (ls : List Lexeme) : texts (l :: ls) = l.text ++ texts ls :=
  rfl

@[simp] theorem texts_append (ks ls : List Lexeme) : texts (ks ++ ls) = texts ks ++ texts ls := by
  simp [texts]

/-- The lexeme is what the rules cut off in front of `rest`. -/
def Stands (l : Lexeme) (rest : Text) : Prop :=
  ∃ c a, l.text = c :: a ∧ extent c (a ++ rest) = .ok (l.kind, a.length)

/-- Each of the lexemes is cut off in front of those that follow it and `rest`. -/
def AllStand : List Lexeme → Text → Prop
  | [], _ => True
  | l :: ls, rest => Stands l (texts ls ++ rest) ∧ AllStand ls rest

theorem Stands.text_ne_nil {l : Lexeme} {rest : Text} (h : Stands l rest) : l.text ≠ [] := by
  obtain ⟨c, a, hl, _⟩ := h
  simp [hl]

theorem AllStand.text_ne_nil {ls : List Lexeme} {rest : Text} (h : AllStand ls rest) :
    ∀ l ∈ ls, l.text ≠ [] := by
  induction ls with
  | nil => simp
  | cons l ls ih =>
    intro k hk
    cases hk with
    | head => exact h.1.text_ne_nil
    | tail _ hk => exact ih h.2 k hk

theorem allStand_append {ks ls : List Lexeme} {rest : Text} :
    AllStand (ks ++ ls) rest ↔ AllStand ks (texts ls ++ rest) ∧ AllStand ls rest := by
  induction ks with
  | nil => simp [AllStand]
  | cons k ks ih => simp [AllStand, ih, and_assoc]

/-! ## Rules -/

theorem isBlank_of_isNamePart {c : Char} (h : isNamePart c = true) : Text.isBlank c = false := by
  simp only [isNamePart, Bool.or_eq_true, beq_iff_eq] at h
  obtain ((h | h) | rfl) | rfl := h
  · exact Text.isBlank_of_isLetter h
  · exact Text.isBlank_of_isNumeral h
  · decide
  · decide

theorem isNamePart_of_isNameStart {c : Char} (h : isNameStart c = true) : isNamePart c = true := by
  simp only [isNameStart, isNamePart, Bool.or_eq_true] at h ⊢
  obtain (h | h) | h := h <;> simp [h]

private theorem isNameStart_of_isDigit {c : Char} (h : c.isDigit = true) :
    isNameStart c = false := by
  have hc := Text.toNat_of_isDigit h
  have hne : c ≠ '_' ∧ c ≠ '$' := by
    constructor <;> rintro rfl <;> simp at hc
  simp [isNameStart, Text.isLetter_of_isDigit h, hne]

/-- A character that is a symbol of its own. -/
def isMark (c : Char) : Bool :=
  !Text.isBlank c && !Literal.isQuote c && !c.isDigit && !isNameStart c

/-- The lexeme that begins with `c` before `r`: its kind and how many characters of `r` it has. -/
inductive Rule (c : Char) (r : Text) : Token.Kind → Nat → Prop where
  | newline : c = '\n' → Rule c r .newline 0
  | whitespace : isGap c = true → Rule c r .whitespace (r.takeWhile isGap).length
  | line : c = '/' → r.head? = some '/' → Rule c r .comment (lineExtent r)
  | block {n} : c = '/' → r.head? = some '*' → commentExtent r.tail = some n →
      Rule c r .comment (n + 1)
  | string {n} : Literal.isQuote c = true → Literal.extent c r = .ok n → Rule c r .string n
  | number : c.isDigit = true → Rule c r .number (numberExtent r)
  | identifier : isNameStart c = true → Rule c r .identifier (r.takeWhile isNamePart).length
  | symbol : isMark c = true → (c = '/' → r.head? ≠ some '/' ∧ r.head? ≠ some '*') →
      Rule c r .symbol 0

theorem rule_of_extent {c : Char} {r : Text} {kind : Token.Kind} {n : Nat}
    (h : extent c r = .ok (kind, n)) : Rule c r kind n := by
  simp only [extent] at h
  by_cases hline : c = '\n'
  · rw [if_pos hline] at h
    cases h
    exact .newline hline
  by_cases hblank : Text.isBlank c = true
  · rw [if_neg hline, if_pos hblank] at h
    cases h
    exact .whitespace (by simp [isGap, hblank, hline])
  by_cases hslash : (c = '/' && r.head? = some '/') = true
  · rw [if_neg hline, if_neg hblank, if_pos hslash] at h
    cases h
    simp only [Bool.and_eq_true, decide_eq_true_eq] at hslash
    exact .line hslash.1 hslash.2
  by_cases hstar : (c = '/' && r.head? = some '*') = true
  · rw [if_neg hline, if_neg hblank, if_neg hslash, if_pos hstar] at h
    simp only [Bool.and_eq_true, decide_eq_true_eq] at hstar
    split at h
    case h_1 m hm =>
      cases h
      exact .block hstar.1 hstar.2 hm
    case h_2 => cases h
  by_cases hquote : Literal.isQuote c = true
  · rw [if_neg hline, if_neg hblank, if_neg hslash, if_neg hstar, if_pos hquote] at h
    cases hm : Literal.extent c r with
    | error e =>
      rw [hm] at h
      cases h
    | ok m =>
      rw [hm] at h
      cases h
      exact .string hquote hm
  by_cases hdigit : c.isDigit = true
  · rw [if_neg hline, if_neg hblank, if_neg hslash, if_neg hstar, if_neg hquote,
      if_pos hdigit] at h
    cases h
    exact .number hdigit
  by_cases hname : isNameStart c = true
  · rw [if_neg hline, if_neg hblank, if_neg hslash, if_neg hstar, if_neg hquote, if_neg hdigit,
      if_pos hname] at h
    cases h
    exact .identifier hname
  · rw [if_neg hline, if_neg hblank, if_neg hslash, if_neg hstar, if_neg hquote, if_neg hdigit,
      if_neg hname] at h
    cases h
    refine .symbol (by simp [isMark, hblank, hquote, hdigit, hname]) ?_
    rintro rfl
    simpa using And.intro hslash hstar

theorem extent_of_rule {c : Char} {r : Text} {kind : Token.Kind} {n : Nat}
    (h : Rule c r kind n) : extent c r = .ok (kind, n) := by
  cases h with
  | newline hc => simp [extent, hc]
  | whitespace hc =>
    simp only [isGap, Bool.and_eq_true, bne_iff_ne, ne_eq] at hc
    simp [extent, hc]
  | line hc hr =>
    subst hc
    have hblank : Text.isBlank '/' = false := by decide
    simp [extent, hblank, hr]
  | block hc hr hn =>
    subst hc
    have hblank : Text.isBlank '/' = false := by decide
    simp [extent, hblank, hr, hn]
  | string hc hn =>
    have hq : c = '\'' ∨ c = '"' := by simpa [Literal.isQuote] using hc
    have hblank : Text.isBlank c = false := by obtain rfl | rfl := hq <;> decide
    have hne : c ≠ '\n' ∧ c ≠ '/' := by obtain rfl | rfl := hq <;> decide
    simp [extent, hc, hblank, hne, hn, Except.map]
  | number hc =>
    have hblank := Text.isBlank_of_isDigit hc
    have hquote : Literal.isQuote c = false := by
      rw [Bool.eq_false_iff]
      intro hq
      have : c = '\'' ∨ c = '"' := by simpa [Literal.isQuote] using hq
      obtain rfl | rfl := this <;> simp at hc
    have hne : c ≠ '\n' ∧ c ≠ '/' := by
      constructor <;> rintro rfl <;> simp at hc
    simp [extent, hc, hblank, hquote, hne]
  | identifier hc =>
    have hblank := isBlank_of_isNamePart (isNamePart_of_isNameStart hc)
    have hdigit : c.isDigit = false := by
      rw [Bool.eq_false_iff]
      intro hd
      rw [isNameStart_of_isDigit hd] at hc
      cases hc
    have hquote : Literal.isQuote c = false := by
      rw [Bool.eq_false_iff]
      intro hq
      have : c = '\'' ∨ c = '"' := by simpa [Literal.isQuote] using hq
      obtain rfl | rfl := this <;> revert hc <;> decide
    have hne : c ≠ '\n' ∧ c ≠ '/' := by
      constructor <;> rintro rfl <;> revert hc <;> decide
    simp [extent, hc, hblank, hquote, hdigit, hne]
  | symbol hc hr =>
    simp only [isMark, Bool.and_eq_true, Bool.not_eq_true'] at hc
    obtain ⟨⟨⟨hblank, hquote⟩, hdigit⟩, hname⟩ := hc
    have hne : c ≠ '\n' := by
      rintro rfl
      revert hblank
      decide
    have hslash (d : Char) (hd : d = '/' ∨ d = '*') : ¬ (c = '/' ∧ r.head? = some d) := by
      rintro ⟨hc, hd'⟩
      obtain rfl | rfl := hd
      · exact (hr hc).1 hd'
      · exact (hr hc).2 hd'
    simp [extent, hblank, hquote, hdigit, hname, hne, hslash]

/-! ## No lexeme is longer than the text -/

private theorem numberExtent_le_length (r : Text) : numberExtent r ≤ r.length := by
  induction r with
  | nil => exact Nat.le_refl 0
  | cons c r ih =>
    simp only [numberExtent, List.length_cons]
    split <;> omega

private theorem commentExtent_le_length {r : Text} {n : Nat} (h : commentExtent r = some n) :
    n ≤ r.length := by
  fun_induction commentExtent r generalizing n with
  | case1 => cases h
  | case2 => cases h
  | case3 c d r hend =>
    cases h
    simp
  | case4 c d r hend ih =>
    obtain ⟨m, hm, rfl⟩ := Option.map_eq_some_iff.mp h
    have := ih hm
    simp only [List.length_cons] at this ⊢
    omega

private theorem Rule.le_length {c : Char} {r : Text} {kind : Token.Kind} {n : Nat}
    (h : Rule c r kind n) : n ≤ r.length := by
  have htake (p : Char → Bool) : (r.takeWhile p).length ≤ r.length :=
    (List.takeWhile_prefix p).length_le
  cases h with
  | newline _ => exact Nat.zero_le _
  | whitespace _ => exact htake isGap
  | line _ _ => exact htake _
  | block _ hr hn =>
    have hle := commentExtent_le_length hn
    cases r with
    | nil => cases hr
    | cons d r =>
      simp only [List.tail_cons, List.length_cons] at hle ⊢
      omega
  | string _ hn => exact Literal.extent_le_length hn
  | number _ => exact numberExtent_le_length r
  | identifier _ => exact htake isNamePart
  | symbol _ _ => exact Nat.zero_le _

/-! ## Cutting and laying end to end -/

private theorem ofBody_nil : ofBody [] = .ok [] := by rw [ofBody]

theorem ofBody_of_extent {c : Char} {a b : Text} {kind : Token.Kind}
    (h : extent c (a ++ b) = .ok (kind, a.length)) :
    ofBody (c :: (a ++ b)) = (ofBody b).map (⟨kind, c :: a⟩ :: ·) := by
  rw [ofBody, h]
  change Except.bind (ofBody ((a ++ b).drop a.length)) _ = _
  rw [List.drop_left, List.take_left]
  cases ofBody b <;> rfl

/-- Lexemes that stand in front of a text are cut off from it. -/
theorem ofBody_append {ls : List Lexeme} {rest : Text} (h : AllStand ls rest) :
    ofBody (texts ls ++ rest) = (ofBody rest).map (ls ++ ·) := by
  induction ls with
  | nil => cases hr : ofBody rest <;> simp [hr, Except.map]
  | cons l ls ih =>
    obtain ⟨⟨c, a, hl, hext⟩, hls⟩ := h
    have hcut := ofBody_of_extent hext
    rw [texts_cons, hl, List.append_assoc, List.cons_append, hcut, ih hls, ← hl]
    cases ofBody rest <;> rfl

theorem ofBody_texts {ls : List Lexeme} (h : AllStand ls []) : ofBody (texts ls) = .ok ls := by
  have := ofBody_append h
  simpa [ofBody_nil, Except.map] using this

private theorem allStand_of_ofBody {t : Text} {ls : List Lexeme} (h : ofBody t = .ok ls) :
    texts ls = t ∧ AllStand ls [] := by
  fun_induction ofBody t generalizing ls with
  | case1 =>
    cases h
    exact ⟨rfl, trivial⟩
  | case2 c r ih =>
    cases hext : extent c r with
    | error e => simp [hext, bind, Except.bind] at h
    | ok kn =>
      obtain ⟨kind, n⟩ := kn
      cases hrest : ofBody (r.drop n) with
      | error e => simp [hext, hrest, bind, Except.bind] at h
      | ok ks =>
        have hls : ⟨kind, c :: r.take n⟩ :: ks = ls := by
          simpa [hext, hrest, bind, Except.bind, pure, Except.pure] using h
        obtain ⟨htexts, hstand⟩ := ih n hrest
        have hlen : (r.take n).length = n :=
          List.length_take_of_le (rule_of_extent hext).le_length
        subst hls
        refine ⟨by simp [htexts], ⟨c, r.take n, rfl, ?_⟩, hstand⟩
        rw [htexts, List.append_nil, List.take_append_drop, hext, hlen]

theorem ofBody_eq_ok_iff {t : Text} {ls : List Lexeme} :
    ofBody t = .ok ls ↔ texts ls = t ∧ AllStand ls [] := by
  refine ⟨allStand_of_ofBody, ?_⟩
  rintro ⟨rfl, h⟩
  exact ofBody_texts h

/-! ## The line at the beginning of a script -/

theorem takeWhile_ne_append {line rest : Text} (hline : ∀ c ∈ line, c ≠ '\n')
    (hrest : ∀ c ∈ rest.head?, c = '\n') : (line ++ rest).takeWhile (· ≠ '\n') = line := by
  rw [List.takeWhile_append_of_pos (by simpa using hline)]
  cases rest with
  | nil => simp
  | cons c r =>
    obtain rfl := hrest c rfl
    simp

theorem ofSource_line {line rest : Text} (hline : ∀ c ∈ line, c ≠ '\n')
    (hrest : ∀ c ∈ rest.head?, c = '\n') :
    ofSource ('#' :: '!' :: (line ++ rest)) =
      (ofBody rest).map (⟨.comment, '#' :: '!' :: line⟩ :: ·) := by
  have hlen : lineExtent (line ++ rest) = line.length := by
    rw [lineExtent, takeWhile_ne_append hline hrest]
  rw [ofSource, hlen, List.drop_left, List.take_left]
  cases ofBody rest <;> rfl

theorem ofSource_eq_ofBody {t : Text} (h : ¬ ['#', '!'] <+: t) : ofSource t = ofBody t := by
  rw [ofSource]
  intro r hr
  exact h ⟨r, hr.symm⟩

/-- A script is cut like any text, except for a first line that is a comment. -/
theorem ofSource_eq_ok {t : Text} {ls : List Lexeme} (h : ofSource t = .ok ls) :
    (¬ ['#', '!'] <+: t ∧ ofBody t = .ok ls) ∨
      ∃ line rest ks, t = '#' :: '!' :: (line ++ rest) ∧ (∀ c ∈ line, c ≠ '\n') ∧
        (∀ c ∈ rest.head?, c = '\n') ∧ ofBody rest = .ok ks ∧
        ls = ⟨.comment, '#' :: '!' :: line⟩ :: ks := by
  by_cases hpre : ['#', '!'] <+: t
  · obtain ⟨r, rfl⟩ := hpre
    have hline : ∀ c ∈ r.takeWhile (· ≠ '\n'), c ≠ '\n' := fun c hc => by
      simpa using List.all_eq_true.mp List.all_takeWhile c hc
    have hrest : ∀ c ∈ (r.dropWhile (· ≠ '\n')).head?, c = '\n' := fun c hc => by
      have := List.head?_dropWhile_not (· ≠ '\n') r
      rw [Option.mem_def.mp hc] at this
      simpa using this
    have hcut := ofSource_line hline hrest
    rw [List.takeWhile_append_dropWhile] at hcut
    change ofSource ('#' :: '!' :: r) = _ at h
    rw [hcut] at h
    cases hks : ofBody (r.dropWhile (· ≠ '\n')) with
    | error e =>
      rw [hks] at h
      cases h
    | ok ks =>
      rw [hks] at h
      cases h
      exact .inr ⟨_, _, ks, by rw [List.takeWhile_append_dropWhile]; rfl, hline, hrest, hks, rfl⟩
  · exact .inl ⟨hpre, by rwa [ofSource_eq_ofBody hpre] at h⟩

theorem ofSource_texts {t : Text} {ls : List Lexeme} (h : ofSource t = .ok ls) :
    texts ls = t ∧ ∀ l ∈ ls, l.text ≠ [] := by
  obtain ⟨-, hbody⟩ | ⟨line, rest, ks, rfl, -, -, hbody, rfl⟩ := ofSource_eq_ok h
  · obtain ⟨htexts, hstand⟩ := allStand_of_ofBody hbody
    exact ⟨htexts, hstand.text_ne_nil⟩
  · obtain ⟨rfl, hstand⟩ := allStand_of_ofBody hbody
    refine ⟨rfl, ?_⟩
    intro l hl
    cases hl with
    | head => simp
    | tail _ hl => exact hstand.text_ne_nil l hl

end Graft.Lexeme
