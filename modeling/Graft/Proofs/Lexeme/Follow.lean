import Graft.Proofs.Lexeme

/-!
# What may follow a lexeme

Whether a lexeme stands depends on little of the text behind it: the first character, and for a
number the first two. The characters of the lexeme itself and what may follow it are separate
conditions, so a list of lexemes that stands in front of one text stands in front of another.
-/
namespace Graft.Lexeme

/-! ## Extents in front of a text -/

theorem length_takeWhile_append {p : Char → Bool} {a b : Text} :
    ((a ++ b).takeWhile p).length = a.length ↔
      (∀ c ∈ a, p c = true) ∧ ∀ c ∈ b.head?, p c = false := by
  induction a with
  | nil =>
    cases b with
    | nil => simp
    | cons c r => cases h : p c <;> simp [h]
  | cons x a ih =>
    cases h : p x with
    | false => simp [h]
    | true => simpa [h] using ih

theorem lineExtent_append {a b : Text} :
    lineExtent (a ++ b) = a.length ↔ (∀ c ∈ a, c ≠ '\n') ∧ ∀ c ∈ b.head?, c = '\n' := by
  simpa [lineExtent] using length_takeWhile_append (p := (· ≠ '\n')) (a := a) (b := b)

private theorem two_le_commentExtent {r : Text} {n : Nat} (h : commentExtent r = some n) :
    2 ≤ n := by
  fun_induction commentExtent r generalizing n with
  | case1 => cases h
  | case2 => cases h
  | case3 c d r hend =>
    cases h
    omega
  | case4 c d r hend ih =>
    obtain ⟨m, hm, rfl⟩ := Option.map_eq_some_iff.mp h
    have := ih hm
    omega

private theorem commentExtent_congr {a b : Text} (b' : Text)
    (h : commentExtent (a ++ b) = some a.length) : commentExtent (a ++ b') = some a.length := by
  induction a with
  | nil => exact absurd (two_le_commentExtent h) (by simp)
  | cons x a ih =>
    cases a with
    | nil => exact absurd (two_le_commentExtent h) (by simp)
    | cons y a =>
      simp only [List.cons_append, commentExtent] at h ih ⊢
      split at h
      case isTrue hend =>
        rw [if_pos hend]
        exact h
      case isFalse hend =>
        rw [if_neg hend]
        obtain ⟨m, hm, hlen⟩ := Option.map_eq_some_iff.mp h
        obtain rfl : m = a.length + 1 := by simpa using hlen
        rw [ih hm]
        rfl

/-- The character goes on a number before the text. -/
def goesOn (c : Char) (r : Text) : Bool :=
  c.isAlphanum || c == '_' || (c == '.' && r.head?.any Char.isDigit)

theorem numberExtent_cons (c : Char) (r : Text) :
    numberExtent (c :: r) = if goesOn c r then numberExtent r + 1 else 0 := rfl

private theorem numberExtent_ne_zero_of_digit {r : Text} (h : r.head?.any Char.isDigit = true) :
    numberExtent r ≠ 0 := by
  cases r with
  | nil => cases h
  | cons c r =>
    have hc : goesOn c r = true := by
      have hd : c.isDigit = true := h
      simp [goesOn, Char.isAlphanum, hd]
    simp [numberExtent_cons, hc]

/-- A number takes a point only together with the digit behind it. -/
theorem numberExtent_append {a b : Text} :
    numberExtent (a ++ b) = a.length ↔ numberExtent a = a.length ∧ numberExtent b = 0 := by
  induction a with
  | nil => simp [numberExtent]
  | cons x a ih =>
    rw [List.cons_append, numberExtent_cons, numberExtent_cons, List.length_cons]
    cases a with
    | cons y a =>
      have hsame : goesOn x (y :: a ++ b) = goesOn x (y :: a) := rfl
      rw [hsame]
      cases goesOn x (y :: a) with
      | false => simp
      | true => simpa using ih
    | nil =>
      have hdigit (h : goesOn x b = true) (hx : ¬ goesOn x [] = true) : numberExtent b ≠ 0 := by
        refine numberExtent_ne_zero_of_digit ?_
        simp_all [goesOn]
      cases hb : goesOn x b with
      | false =>
        have hnil : goesOn x [] = false := by
          simp_all [goesOn]
        simp [hb, hnil]
      | true =>
        cases hnil : goesOn x [] with
        | false => simpa [hb, hnil] using hdigit hb (by simp [hnil])
        | true => simp [hb, numberExtent]

/-! ## The lexeme and what follows it -/

/-- The text does not go on with the lexeme. -/
def Ends (l : Lexeme) (rest : Text) : Prop :=
  match l.kind with
  | .newline => True
  | .whitespace => ∀ c ∈ rest.head?, isGap c = false
  | .comment => ['/', '*'] <+: l.text ∨ ∀ c ∈ rest.head?, c = '\n'
  | .string => ∀ q, l.text = [q, q] → rest.head? ≠ some q
  | .number => numberExtent rest = 0
  | .identifier => ∀ c ∈ rest.head?, isNamePart c = false
  | .symbol => l.text = ['/'] → rest.head? ≠ some '/' ∧ rest.head? ≠ some '*'

private theorem rule_append {c : Char} {a rest : Text} {kind : Token.Kind}
    (h : Rule c (a ++ rest) kind a.length) :
    Rule c a kind a.length ∧ Ends ⟨kind, c :: a⟩ rest := by
  generalize hn : a.length = n at h
  cases h with
  | newline hc => exact ⟨.newline hc, trivial⟩
  | whitespace hc =>
    obtain ⟨hall, hend⟩ := length_takeWhile_append.mp hn.symm
    have hself : (a.takeWhile isGap).length = a.length := by
      simpa using (length_takeWhile_append (b := [])).mpr ⟨hall, by simp⟩
    rw [← hn, ← hself]
    exact ⟨.whitespace hc, hend⟩
  | line hc hr =>
    obtain ⟨hall, hend⟩ := lineExtent_append.mp hn.symm
    have hself : lineExtent a = a.length := by
      simpa using (lineExtent_append (b := [])).mpr ⟨hall, by simp⟩
    have hhead : a.head? = some '/' := by
      cases a with
      | nil =>
        have : '/' = '\n' := hend '/' hr
        cases this
      | cons x a => exact hr
    rw [← hn, ← hself]
    exact ⟨.line hc hhead, .inr hend⟩
  | @block m hc hr hm =>
    cases a with
    | nil => cases hn
    | cons x a =>
      obtain rfl : x = '*' := by simpa using hr
      obtain rfl : m = a.length := by simpa using hn.symm
      have hself := commentExtent_congr [] hm
      rw [List.append_nil] at hself
      exact ⟨.block hc rfl hself, .inl (by simp [hc])⟩
  | string hc hm =>
    subst hn
    have hself := Literal.extent_congr [] hm (by simp)
    rw [List.append_nil] at hself
    refine ⟨.string hc hself, ?_⟩
    intro q hq
    obtain ⟨rfl, rfl⟩ : c = q ∧ a = [q] := by simpa using hq
    exact Literal.head?_ne_of_extent hm
  | number hc =>
    obtain ⟨hself, hend⟩ := numberExtent_append.mp hn.symm
    rw [← hn, ← hself]
    exact ⟨.number hc, hend⟩
  | identifier hc =>
    obtain ⟨hall, hend⟩ := length_takeWhile_append.mp hn.symm
    have hself : (a.takeWhile isNamePart).length = a.length := by
      simpa using (length_takeWhile_append (b := [])).mpr ⟨hall, by simp⟩
    rw [← hn, ← hself]
    exact ⟨.identifier hc, hend⟩
  | symbol hc hr =>
    obtain rfl := List.length_eq_zero_iff.mp hn
    refine ⟨.symbol hc (by simp), ?_⟩
    intro hslash
    exact hr (by simpa using hslash)

private theorem rule_of_ends {c : Char} {a rest : Text} {kind : Token.Kind}
    (h : Rule c a kind a.length) (hends : Ends ⟨kind, c :: a⟩ rest) :
    Rule c (a ++ rest) kind a.length := by
  generalize hn : a.length = n at h
  cases h with
  | newline hc => exact .newline hc
  | whitespace hc =>
    obtain ⟨hall, -⟩ := length_takeWhile_append.mp
      (show ((a ++ []).takeWhile isGap).length = a.length by simpa using hn.symm)
    rw [← hn, ← length_takeWhile_append.mpr ⟨hall, hends⟩]
    exact .whitespace hc
  | line hc hr =>
    obtain ⟨hall, -⟩ := lineExtent_append.mp
      (show lineExtent (a ++ []) = a.length by simpa using hn.symm)
    have hend : ∀ c ∈ rest.head?, c = '\n' := by
      obtain ⟨r, hpre⟩ | hend := hends
      · obtain ⟨-, rfl⟩ := List.cons.inj hpre
        cases hr
      · exact hend
    rw [← hn, ← lineExtent_append.mpr ⟨hall, hend⟩]
    refine .line hc ?_
    rw [List.head?_append, hr]
    rfl
  | @block m hc hr hm =>
    cases a with
    | nil => cases hn
    | cons x a =>
      obtain rfl : m = a.length := by simpa using hn.symm
      have hself : commentExtent (a ++ []) = some a.length := by simpa using hm
      exact .block hc hr (commentExtent_congr rest hself)
  | string hc hm =>
    subst hn
    have hself : Literal.extent c (a ++ []) = .ok a.length := by simpa using hm
    exact .string hc (Literal.extent_congr rest hself fun ha => hends c (by rw [ha]))
  | number hc =>
    rw [← hn, ← numberExtent_append.mpr ⟨hn.symm, hends⟩]
    exact .number hc
  | identifier hc =>
    obtain ⟨hall, -⟩ := length_takeWhile_append.mp
      (show ((a ++ []).takeWhile isNamePart).length = a.length by simpa using hn.symm)
    rw [← hn, ← length_takeWhile_append.mpr ⟨hall, hends⟩]
    exact .identifier hc
  | symbol hc _ =>
    obtain rfl := List.length_eq_zero_iff.mp hn
    exact .symbol hc fun hslash => hends (by rw [hslash])

/-- A lexeme stands where its characters make one and the text does not go on with it. -/
theorem stands_iff {l : Lexeme} {rest : Text} : Stands l rest ↔ Stands l [] ∧ Ends l rest := by
  obtain ⟨kind, text⟩ := l
  constructor
  · rintro ⟨c, a, rfl, h⟩
    obtain ⟨hrule, hends⟩ := rule_append (rule_of_extent h)
    exact ⟨⟨c, a, rfl, by rw [List.append_nil]; exact extent_of_rule hrule⟩, hends⟩
  · rintro ⟨⟨c, a, rfl, h⟩, hends⟩
    rw [List.append_nil] at h
    exact ⟨c, a, rfl, extent_of_rule (rule_of_ends (rule_of_extent h) hends)⟩

/-! ## Exchanging what follows -/

/-- Whatever ends before the one text ends before the other, also with one character between. -/
structure Replaces (rest rest' : Text) : Prop where
  ends : ∀ l, Stands l [] → Ends l rest → Ends l rest'
  digit : rest'.head?.any Char.isDigit = true → rest.head?.any Char.isDigit = true

theorem numberExtent_eq_zero_iff {c : Char} {r : Text} :
    numberExtent (c :: r) = 0 ↔ goesOn c r = false := by
  rw [numberExtent_cons]
  cases goesOn c r <;> simp

theorem ends_cons {l : Lexeme} {c : Char} {r r' : Text}
    (hdigit : r'.head?.any Char.isDigit = true → r.head?.any Char.isDigit = true)
    (h : Ends l (c :: r)) : Ends l (c :: r') := by
  obtain ⟨kind, text⟩ := l
  cases kind with
  | number =>
    have hold : goesOn c r = false := numberExtent_eq_zero_iff.mp h
    refine numberExtent_eq_zero_iff.mpr ?_
    cases hd : r'.head?.any Char.isDigit with
    | false => simp_all [goesOn]
    | true => simp_all [goesOn]
  | newline => exact h
  | whitespace => exact h
  | comment => exact h
  | string => exact h
  | identifier => exact h
  | symbol => exact h

theorem replaces_cons {c : Char} {r r' : Text}
    (hdigit : r'.head?.any Char.isDigit = true → r.head?.any Char.isDigit = true) :
    Replaces (c :: r) (c :: r') :=
  ⟨fun _ _ => ends_cons hdigit, id⟩

theorem AllStand.congr {ls : List Lexeme} {rest rest' : Text} (h : AllStand ls rest)
    (hr : Replaces rest rest') : AllStand ls rest' := by
  induction ls with
  | nil => trivial
  | cons l ls ih =>
    obtain ⟨hl, hls⟩ := h
    obtain ⟨hself, hends⟩ := stands_iff.mp hl
    refine ⟨stands_iff.mpr ⟨hself, ?_⟩, ih hls⟩
    cases hx : texts ls with
    | nil =>
      rw [hx] at hends
      exact hr.ends l hself hends
    | cons x xs =>
      rw [hx] at hends
      refine ends_cons ?_ hends
      cases xs with
      | nil => exact hr.digit
      | cons y ys => exact id

theorem replaces_nil (rest : Text) : Replaces rest [] :=
  ⟨fun _ hl _ => (stands_iff.mp hl).2, by simp⟩

theorem isQuote_of_stands {l : Lexeme} {rest : Text} (h : Stands l rest) (hk : l.kind = .string) :
    ∀ q ∈ l.text.head?, Literal.isQuote q = true := by
  obtain ⟨c, a, hl, hext⟩ := h
  rw [hk] at hext
  intro q hq
  obtain rfl : c = q := by simpa [hl] using hq
  cases rule_of_extent hext with
  | string hc _ => exact hc

theorem replaces_newline (rest r : Text) : Replaces rest ('\n' :: r) := by
  refine ⟨?_, by simp⟩
  intro l hl _
  have hquote := isQuote_of_stands hl
  obtain ⟨kind, text⟩ := l
  cases kind with
  | newline => trivial
  | whitespace => simp [Ends, isGap]
  | comment => exact .inr (by simp)
  | string =>
    rintro q rfl hq
    obtain rfl : '\n' = q := by simpa using hq
    exact absurd (hquote rfl _ rfl) (by decide)
  | number => exact numberExtent_eq_zero_iff.mpr (by simp [goesOn])
  | identifier =>
    intro c hc
    obtain rfl : '\n' = c := by simpa using hc
    decide
  | symbol => simp [Ends]

end Graft.Lexeme
