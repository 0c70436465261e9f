import Graft.Proofs.Lexeme.Frame
import Graft.Proofs.Outline

/-!
# Scanning across a line break

A text that is set below another one is scanned as if it stood alone. No lexeme that is complete
reaches over the break, and none that begins behind it looks back, so the tokens of the lower text,
or the place where it goes wrong, are only moved down.
-/
namespace Graft

open Literal (Fault)

namespace Lexeme

/-! ## Faults of a text -/

private theorem extent_fault {c : Char} {r : Text} {e : Fault} (h : extent c r = .error e) :
    e.rest <:+ c :: r := by
  simp only [extent] at h
  by_cases hline : c = '\n'
  · rw [if_pos hline] at h
    cases h
  by_cases hblank : Text.isBlank c = true
  · rw [if_neg hline, if_pos hblank] at h
    cases h
  by_cases hslash : (c = '/' && r.head? = some '/') = true
  · rw [if_neg hline, if_neg hblank, if_pos hslash] at h
    cases h
  by_cases hstar : (c = '/' && r.head? = some '*') = true
  · rw [if_neg hline, if_neg hblank, if_neg hslash, if_pos hstar] at h
    split at h
    case h_1 => cases h
    case h_2 =>
      cases h
      exact List.suffix_rfl
  by_cases hquote : Literal.isQuote c = true
  · rw [if_neg hline, if_neg hblank, if_neg hslash, if_neg hstar, if_pos hquote] at h
    cases hm : Literal.extent c r with
    | ok m =>
      rw [hm] at h
      cases h
    | error e' =>
      rw [hm] at h
      cases h
      obtain ⟨_, _, hrest⟩ := Literal.extent_fault hm
      exact hrest
  · rw [if_neg hline, if_neg hblank, if_neg hslash, if_neg hstar, if_neg hquote] at h
    split at h
    · cases h
    · split at h <;> cases h

private theorem ofBody_fault {t : Text} {e : Fault} (h : ofBody t = .error e) : e.rest <:+ t := by
  fun_induction ofBody t with
  | case1 => cases h
  | case2 c r ih =>
    cases hext : extent c r with
    | error e' =>
      obtain rfl : e' = e := by simpa [hext, bind, Except.bind] using h
      exact extent_fault hext
    | ok kn =>
      obtain ⟨kind, n⟩ := kn
      cases hrest : ofBody (r.drop n) with
      | ok ls => simp [hext, hrest, bind, Except.bind, pure, Except.pure] at h
      | error e' =>
        obtain rfl : e' = e := by simpa [hext, hrest, bind, Except.bind] using h
        have hdrop := (ih n hrest).trans (List.drop_suffix n r)
        exact hdrop.trans (List.suffix_cons c r)

/-! ## A text below another one -/

private theorem ofBody_newline (b : Text) :
    ofBody ('\n' :: b) = (ofBody b).map (⟨.newline, ['\n']⟩ :: ·) :=
  ofBody_of_extent (a := []) (extent_of_rule (.newline rfl))

/-- Lexemes that begin a script are cut off in front of a line break, whatever follows it. -/
theorem ofSource_append_line {ls : List Lexeme} (h : Begins ls []) (b : Text) :
    ofSource (texts ls ++ '\n' :: b) = (ofBody b).map (ls ++ ⟨.newline, ['\n']⟩ :: ·) := by
  have hbody {ks : List Lexeme} (hks : AllStand ks []) :
      ofBody (texts ks ++ '\n' :: b) = (ofBody b).map (ks ++ ⟨.newline, ['\n']⟩ :: ·) := by
    rw [ofBody_append (hks.congr (replaces_newline [] b)), ofBody_newline]
    cases ofBody b <;> rfl
  cases h with
  | plain hpre hstand =>
    rw [List.append_nil] at hpre
    rw [ofSource_eq_ofBody (not_begins_append hpre (by decide) b), hbody hstand]
  | @line r ks _ hr hrest hstand =>
    have hhead : ∀ c ∈ (texts ks ++ '\n' :: b).head?, c = '\n' := by
      cases hks : texts ks with
      | nil => simp
      | cons x t => simpa [hks] using hrest
    rw [texts_cons, List.append_assoc]
    change ofSource ('#' :: '!' :: (r ++ (texts ks ++ '\n' :: b))) = _
    rw [ofSource_line hr hhead, hbody hstand]
    cases ofBody b <;> rfl

end Lexeme

/-! ## Positions below a text -/

namespace Position

/-- The position as it is when the text `a` and a line break stand in front. -/
def below (a : Text) (p : Position) : Position :=
  ⟨a.size + 1 + p.offset, a.count '\n' + 1 + p.line, p.column⟩

theorem after_append_line (a b : Text) : after (a ++ '\n' :: b) = (after b).below a := by
  have hsize : '\n'.utf8Size = 1 := by decide
  simp only [after, below, Text.size_append, Text.size_cons, hsize, List.count_append,
    List.count_cons_self, Text.lastLine_append_lineFeed, mk.injEq]
  exact ⟨by omega, by omega, trivial⟩

theorem locate_size_append (a b : Text) : locate (a ++ b) a.size = after a := by
  rw [locate, Text.takeBytes_size_append]

end Position

namespace LexError

/-- The same defect where it is when the text `a` and a line break stand in front. -/
def below (a : Text) (e : LexError) : LexError := ⟨e.defect, e.position.below a⟩

private theorem ofFault_append (a : Text) (f : Fault) :
    ofFault (a ++ f.rest) f = ⟨f.defect, .after a⟩ := by
  rw [ofFault, Text.size_append, Nat.add_sub_cancel, Position.locate_size_append]

private theorem ofFault_below {b : Text} {f : Fault} (a : Text) (h : f.rest <:+ b) :
    ofFault (a ++ '\n' :: b) f = (ofFault b f).below a := by
  obtain ⟨u, rfl⟩ := h
  have hcut : a ++ '\n' :: (u ++ f.rest) = (a ++ '\n' :: u) ++ f.rest := by simp
  rw [hcut, ofFault_append, ofFault_append, Position.after_append_line]
  rfl

end LexError

namespace Token

/-- A script and a text below it are scanned one after the other: the tokens of the script, the line
break, and the tokens of the lower text or what is wrong with it, moved down. -/
theorem scan_append_line {a b : Text} {ts : List Token} (ha : scan a = .ok ts)
    (hb : ¬ ['#', '!'] <+: b) :
    (∀ us, scan b = .ok us → scan (a ++ '\n' :: b) =
      .ok (ts ++ ⟨⟨.newline, ['\n']⟩, a.size⟩ :: us.map (shift (a.size + 1)))) ∧
    ∀ e, scan b = .error e → scan (a ++ '\n' :: b) = .error (e.below a) := by
  obtain ⟨ks, hks, rfl⟩ := scan_eq_ok ha
  obtain ⟨rfl, hbegins⟩ := Lexeme.ofSource_eq_ok_iff.mp hks
  have hcut := Lexeme.ofSource_append_line hbegins b
  have hbody := Lexeme.ofSource_eq_ofBody hb
  constructor
  · intro us hus
    obtain ⟨ms, hms, rfl⟩ := scan_eq_ok hus
    rw [hbody] at hms
    rw [hms] at hcut
    have hsize : '\n'.utf8Size = 1 := by decide
    rw [scan, hcut, map_shift_place, Nat.zero_add]
    simp [Except.map, Lexeme.place_append, place, hsize]
  · intro e he
    rw [scan, hbody] at he
    cases hf : Lexeme.ofBody b with
    | ok ms => simp [hf] at he
    | error f =>
      obtain rfl : LexError.ofFault b f = e := by simpa [hf] using he
      rw [scan, hcut, hf, ← LexError.ofFault_below _ (Lexeme.ofBody_fault hf)]
      rfl

/-- A point before the break and a digit behind it, which are one number without the break, and a
lower text whose own literal is complete or is not. -/
theorem scan_append_line_literals :
    ∃ ts us, scan "#!é\nx '' 1.".toList = .ok ts ∧ scan "5 \"\"".toList = .ok us ∧
      scan "5 '''".toList = .error ⟨.string, ⟨2, 1, 3⟩⟩ ∧
      scan ("#!é\nx '' 1.".toList ++ '\n' :: "5 \"\"".toList) =
        .ok (ts ++ ⟨⟨.newline, ['\n']⟩, 12⟩ :: us.map (shift 13)) ∧
      scan ("#!é\nx '' 1.".toList ++ '\n' :: "5 '''".toList) =
        .error ⟨.string, ⟨15, 3, 3⟩⟩ := by
  have hupper : ∃ ts, scan "#!é\nx '' 1.".toList = .ok ts := ⟨_, by cbv⟩
  have hlower : ∃ us, scan "5 \"\"".toList = .ok us := ⟨_, by cbv⟩
  have herror : scan "5 '''".toList = .error ⟨.string, ⟨2, 1, 3⟩⟩ := by cbv
  obtain ⟨ts, hts⟩ := hupper
  obtain ⟨us, hus⟩ := hlower
  exact ⟨ts, us, hts, hus, herror, (scan_append_line hts (by decide)).1 us hus,
    (scan_append_line hts (by decide)).2 _ herror⟩

end Token
end Graft
