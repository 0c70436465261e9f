import Graft.Proofs.Reading
import Graft.Proofs.Spans

/-!
# Scanning token by token

The tokens of a script cover its source from end to end. How far a token reaches is a matter of its
own characters: the text of a token, scanned alone, is that token again. So a look ahead (at a third
quote, at the digit behind a point, at the end of a comment) never leaves the token it belongs to.
-/
namespace Graft

namespace Lexeme

/-! ## Lexemes on their own -/

private theorem AllStand.stands {ls : List Lexeme} {rest : Text} (h : AllStand ls rest) {l : Lexeme}
    (hl : l ∈ ls) : Stands l [] := by
  induction ls with
  | nil => cases hl
  | cons k ks ih =>
    cases hl with
    | head => exact (stands_iff.mp h.1).1
    | tail _ hl => exact ih h.2 hl

/-- A lexeme of a script stands on its own or is the first line. -/
theorem Begins.stands_or_line {ls : List Lexeme} {rest : Text} (h : Begins ls rest) {l : Lexeme}
    (hl : l ∈ ls) :
    Stands l [] ∨ ∃ r, l = ⟨.comment, '#' :: '!' :: r⟩ ∧ ∀ c ∈ r, c ≠ '\n' := by
  cases h with
  | plain _ hstand => exact .inl (hstand.stands hl)
  | @line r ks _ hline _ hstand =>
    cases hl with
    | head => exact .inr ⟨r, rfl, hline⟩
    | tail _ hl => exact .inl (hstand.stands hl)

private theorem Stands.not_line {l : Lexeme} {rest : Text} (h : Stands l rest) :
    ¬ ['#', '!'] <+: l.text := by
  rintro ⟨r, hr⟩
  obtain ⟨kind, text⟩ := l
  obtain ⟨c, a, hl, hext⟩ := h
  obtain ⟨rfl, ha⟩ := List.cons.inj (hr.trans hl)
  have hsymbol : extent '#' (a ++ rest) = .ok (.symbol, 0) :=
    extent_of_rule (.symbol (by decide) (by simp))
  -- a symbol is one character, so there is no place for the second one
  have hlength : a.length = 0 := by
    rw [hsymbol] at hext
    simpa using (congrArg Prod.snd (Except.ok.inj hext)).symm
  rw [List.length_eq_zero_iff.mp hlength] at ha
  cases ha

private theorem ofSource_text {ls : List Lexeme} {rest : Text} (h : Begins ls rest) {l : Lexeme}
    (hl : l ∈ ls) : ofSource l.text = .ok [l] := by
  refine ofSource_eq_ok_iff.mpr ⟨by simp, ?_⟩
  obtain hstand | ⟨r, rfl, hr⟩ := h.stands_or_line hl
  · exact .plain (by simpa using hstand.not_line) ⟨by simpa using hstand, trivial⟩
  · exact .line hr (by simp) trivial

theorem Stands.text_of_newline {l : Lexeme} (h : Stands l []) (hk : l.kind = .newline) :
    l.text = ['\n'] := by
  obtain ⟨kind, text⟩ := l
  obtain ⟨c, a, rfl, hext⟩ := h
  obtain rfl : kind = .newline := hk
  have hrule := rule_of_extent hext
  generalize hn : a.length = n at hrule
  cases hrule with
  | newline hc => rw [hc, List.length_eq_zero_iff.mp hn]

private theorem Stands.not_mem_of_whitespace {l : Lexeme} (h : Stands l [])
    (hk : l.kind = .whitespace) : '\n' ∉ l.text := by
  have hgap : ∀ c ∈ l.text, isGap c = true := by
    cases h.close with
    | newline hl => simp [hl] at hk
    | gap _ hgap => exact hgap
    | line hl _ _ => simp [hl] at hk
    | firm hne _ _ _ => exact absurd hk hne
  intro hmem
  exact absurd (hgap '\n' hmem) (by decide)

end Lexeme

namespace Token

/-- A token of the source whose text is scanned the same wherever it stands. -/
structure IsLocal (source : Text) (t : Token) : Prop where
  start_lt_stop : t.start < t.stop
  boundary_start : source.isBoundary t.start = true
  boundary_stop : source.isBoundary t.stop = true
  slice_eq : source.slice t.start t.stop = t.text
  newline : t.kind = .newline → t.text = ['\n']
  whitespace : t.kind = .whitespace → '\n' ∉ t.text
  scan_text : scan t.text = .ok [{ t with start := 0 }]

theorem StandsIn.boundaries {source : Text} {t : Token} (h : StandsIn source t) :
    source.isBoundary t.start = true ∧ source.isBoundary t.stop = true := by
  obtain ⟨a, b, rfl, ha⟩ := h
  rw [stop, ← ha]
  refine ⟨Text.isBoundary_size_append a _, ?_⟩
  rw [← Text.size_append, ← List.append_assoc]
  exact Text.isBoundary_size_append _ b

theorem toLexeme_of_mem_place {ls : List Lexeme} {p : Nat} {t : Token} (h : t ∈ place p ls) :
    t.toLexeme ∈ ls := by
  induction ls generalizing p with
  | nil => cases h
  | cons l ls ih =>
    cases h with
    | head => exact List.mem_cons_self
    | tail _ h => exact List.mem_cons_of_mem l (ih h)

theorem flatMap_text_place (p : Nat) (ls : List Lexeme) :
    (place p ls).flatMap (·.text) = Lexeme.texts ls := by
  induction ls generalizing p with
  | nil => rfl
  | cons l ls ih => simp [place, ih]

private theorem isLocal_of_place {ls : List Lexeme} (h : Lexeme.Begins ls []) {t : Token}
    (ht : t ∈ place 0 ls) : t.IsLocal (Lexeme.texts ls) := by
  have hl := toLexeme_of_mem_place ht
  have hin : StandsIn (Lexeme.texts ls) t := by
    simpa using standsIn_place (a := []) (b := []) ht
  have halone := Lexeme.ofSource_text h hl
  have hne : t.text ≠ [] := (Lexeme.ofSource_texts halone).2 _ (by simp)
  constructor
  case start_lt_stop =>
    rw [stop]
    have := Text.size_pos hne
    omega
  case boundary_start => exact hin.boundaries.1
  case boundary_stop => exact hin.boundaries.2
  case slice_eq => exact hin.slice_eq
  case newline =>
    intro hk
    obtain hstand | ⟨r, hr, -⟩ := h.stands_or_line hl
    · exact hstand.text_of_newline hk
    · simp [hr] at hk
  case whitespace =>
    intro hk
    obtain hstand | ⟨r, hr, -⟩ := h.stands_or_line hl
    · exact hstand.not_mem_of_whitespace hk
    · simp [hr] at hk
  case scan_text =>
    rw [scan, halone]
    rfl

/-- The tokens of a script lie end to end from its first to its last byte, their texts make up the
source, and each of them is a token in its own right. -/
theorem scan_tiles_local {source : Text} {tokens : List Token} (h : scan source = .ok tokens) :
    Tiles 0 tokens source.size ∧ tokens.flatMap (·.text) = source ∧
      ∀ t ∈ tokens, t.IsLocal source := by
  obtain ⟨ls, hls, rfl⟩ := scan_eq_ok h
  obtain ⟨rfl, hbegins⟩ := Lexeme.ofSource_eq_ok_iff.mp hls
  refine ⟨?_, flatMap_text_place 0 ls, fun t ht => isLocal_of_place hbegins ht⟩
  simpa using tiles_place (Lexeme.ofSource_texts hls).2 0

/-- A first line, a point without a digit, an empty literal before another one, a literal within a
hole and characters of more than one byte. -/
theorem scan_tiles_local_mixed :
    ∃ tokens, scan "#!é\n1.5.a ''\"$\x7b'\x7d'\x7d\" /*'*/".toList = .ok tokens ∧
      Tiles 0 tokens 27 ∧
      tokens.flatMap (·.text) = "#!é\n1.5.a ''\"$\x7b'\x7d'\x7d\" /*'*/".toList ∧
      ∀ t ∈ tokens, t.IsLocal "#!é\n1.5.a ''\"$\x7b'\x7d'\x7d\" /*'*/".toList := by
  have hscan : ∃ tokens, scan "#!é\n1.5.a ''\"$\x7b'\x7d'\x7d\" /*'*/".toList = .ok tokens :=
    ⟨_, by cbv⟩
  obtain ⟨tokens, htokens⟩ := hscan
  have h := scan_tiles_local htokens
  exact ⟨tokens, htokens, h⟩

end Token
end Graft
