import Graft.Proofs.Lexeme.Literal

/-!
# What a character does inside a literal

The reader of a literal has one rule for each kind of character in each kind of frame. `Turn` lists
the rules with their conditions, so that a fact about all of them is a case split over the list.
-/
namespace Graft.Literal

theorem isQuote_iff {c : Char} : isQuote c = true ↔ c = '\'' ∨ c = '"' := by
  simp [isQuote]

theorem isTripled_iff {q : Char} {r : Text} : isTripled q r = true ↔ ∃ s, r = q :: q :: s := by
  rw [isTripled, List.isPrefixOf_iff_prefix]
  constructor
  · rintro ⟨s, rfl⟩
    exact ⟨s, rfl⟩
  · rintro ⟨s, rfl⟩
    exact ⟨s, rfl⟩

/-- The rules: the move that the character `c` before `r` makes in a frame within the frames
`fs`. -/
inductive Turn (fs : List Frame) (c : Char) (r : Text) : Frame → Move → Prop where
  | escape {q triple o} : c = '\\' →
      Turn fs c r (.quoted q triple o) (.next 1 (.quoted q triple o) fs)
  | broken {q o} : c = '\n' → Turn fs c r (.quoted q false o) (.fail ⟨.string, o⟩)
  | single {q o} : c = q → c ≠ '\\' → c ≠ '\n' → Turn fs c r (.quoted q false o) (leave 0 fs)
  | triple {q o} : c = q → c ≠ '\\' → isTripled q r = true →
      Turn fs c r (.quoted q true o) (leave 2 fs)
  | quote {q o} : c = q → c ≠ '\\' → isTripled q r = false →
      Turn fs c r (.quoted q true o) (.next 0 (.quoted q true o) fs)
  | interpolation {triple o} : c = '$' → r.head? = some '{' →
      Turn fs c r (.quoted '"' triple o) (.next 1 (.hole (c :: r)) (.quoted '"' triple o :: fs))
  | character {q triple o} : c ≠ '\\' → (triple = false → c ≠ '\n') → c ≠ q →
      ¬ (q = '"' ∧ c = '$' ∧ r.head? = some '{') →
      Turn fs c r (.quoted q triple o) (.next 0 (.quoted q triple o) fs)
  | opening {o} : c = '{' → Turn fs c r (.hole o) (.next 0 (.hole o) (.hole o :: fs))
  | closing {o} : c = '}' → Turn fs c r (.hole o) (leave 0 fs)
  | literal {o} : isQuote c = true → isTripled c r = false →
      Turn fs c r (.hole o) (.next 0 (.quoted c false (c :: r)) (.hole o :: fs))
  | tripled {o} : isQuote c = true → isTripled c r = true →
      Turn fs c r (.hole o) (.next 2 (.quoted c true (c :: r)) (.hole o :: fs))
  | other {o} : c ≠ '{' → c ≠ '}' → isQuote c = false → Turn fs c r (.hole o) (.next 0 (.hole o) fs)

/-- Every move is made by one of the rules. -/
theorem turn_move (f : Frame) (fs : List Frame) (c : Char) (r : Text) :
    Turn fs c r f (move f fs c r) := by
  cases f with
  | quoted q triple o =>
    simp only [move]
    by_cases hesc : c = '\\'
    · rw [if_pos hesc]
      exact .escape hesc
    rw [if_neg hesc]
    by_cases hend : (c = '\n' && !triple) = true
    · rw [if_pos hend]
      simp only [Bool.and_eq_true, decide_eq_true_eq, Bool.not_eq_true'] at hend
      obtain ⟨hc, rfl⟩ := hend
      exact .broken hc
    have hline : triple = false → c ≠ '\n' := by
      rintro rfl rfl
      exact hend rfl
    rw [if_neg hend]
    by_cases hq : c = q
    · rw [if_pos hq]
      cases triple with
      | false => exact .single hq hesc (hline rfl)
      | true =>
        rw [if_pos rfl]
        cases ht : isTripled q r with
        | false => exact .quote hq hesc ht
        | true => exact .triple hq hesc ht
    rw [if_neg hq]
    by_cases hopen : (c = '$' && q = '"' && r.head? = some '{') = true
    · rw [if_pos hopen]
      simp only [Bool.and_eq_true, decide_eq_true_eq] at hopen
      obtain ⟨⟨hc, rfl⟩, hr⟩ := hopen
      exact .interpolation hc hr
    · rw [if_neg hopen]
      refine .character hesc hline hq ?_
      rintro ⟨rfl, rfl, hr⟩
      exact hopen (by simp [hr])
  | hole o =>
    simp only [move]
    by_cases hopen : c = '{'
    · rw [if_pos hopen]
      exact .opening hopen
    rw [if_neg hopen]
    by_cases hclose : c = '}'
    · rw [if_pos hclose]
      exact .closing hclose
    rw [if_neg hclose]
    cases hq : isQuote c with
    | false => exact .other hopen hclose hq
    | true =>
      rw [if_pos rfl]
      cases ht : isTripled c r with
      | false => exact .literal hq ht
      | true => exact .tripled hq ht

/-! ## Which frames are open -/

def Frame.Proper : Frame → Prop
  | .quoted q _ _ => isQuote q = true
  | .hole _ => True

private theorem mem_of_leave {more skip : Nat} {fs gs : List Frame} {g h : Frame}
    (hleave : leave more fs = .next skip g gs) (hh : h ∈ g :: gs) : h ∈ fs := by
  cases fs with
  | nil => cases hleave
  | cons f fs =>
    cases hleave
    exact hh

private theorem Turn.mem_frames {f g h : Frame} {fs gs : List Frame} {c : Char} {r : Text}
    {m : Move}
    {skip : Nat} (hturn : Turn fs c r f m) (hm : m = .next skip g gs) (hh : h ∈ g :: gs) :
    h ∈ f :: fs ∨ h.fault.rest = c :: r ∧ h.Proper := by
  cases hturn with
  | broken _ => cases hm
  | single _ _ _ | triple _ _ _ | closing _ =>
    exact .inl (List.mem_cons_of_mem _ (mem_of_leave hm hh))
  | escape _ | quote _ _ _ | character _ _ _ _ | other _ _ _ =>
    cases hm
    exact .inl hh
  | opening _ =>
    cases hm
    exact .inl (by simpa using hh)
  | interpolation _ _ =>
    cases hm
    obtain rfl | hh := List.mem_cons.mp hh
    · exact .inr ⟨rfl, trivial⟩
    · exact .inl hh
  | literal hc _ | tripled hc _ =>
    cases hm
    obtain rfl | hh := List.mem_cons.mp hh
    · exact .inr ⟨rfl, hc⟩
    · exact .inl hh

theorem Turn.proper {f g : Frame} {fs gs : List Frame} {c : Char} {r : Text} {m : Move} {skip : Nat}
    (h : Turn fs c r f m) (hm : m = .next skip g gs) (hfs : ∀ f' ∈ f :: fs, f'.Proper) :
    ∀ g' ∈ g :: gs, g'.Proper := by
  intro g' hg'
  obtain hold | ⟨-, hnew⟩ := h.mem_frames hm hg'
  · exact hfs g' hold
  · exact hnew

/-! ## Where a fault is reported -/

private theorem leave_ne_fail {more : Nat} {fs : List Frame} {e : Fault} :
    leave more fs ≠ .fail e := by
  cases fs <;> simp [leave]

private theorem Turn.fail_eq {f : Frame} {fs : List Frame} {c : Char} {r : Text} {m : Move}
    {e : Fault} (h : Turn fs c r f m) (hm : m = .fail e) : e = f.fault := by
  cases h with
  | broken _ => exact (Move.fail.inj hm).symm
  | single _ _ _ | triple _ _ _ | closing _ => exact absurd hm leave_ne_fail
  | _ => cases hm

private theorem closing_eq_error {f : Frame} {fs : List Frame} {c : Char} {r : Text} {e : Fault}
    (h : closing 0 f fs (c :: r) = .error e) :
    move f fs c r = .fail e ∨
      ∃ skip g gs, move f fs c r = .next skip g gs ∧ closing skip g gs r = .error e := by
  rw [closing] at h
  cases hmove : move f fs c r with
  | close more => simp [hmove] at h
  | fail e' =>
    obtain rfl : e' = e := by simpa [hmove] using h
    exact .inl rfl
  | next skip g gs =>
    cases hrest : closing skip g gs r with
    | ok n => simp [hmove, hrest, Except.map] at h
    | error e' =>
      obtain rfl : e' = e := by simpa [hmove, hrest, Except.map] using h
      exact .inr ⟨skip, g, gs, rfl, hrest⟩

private theorem closing_succ_eq_error {skip : Nat} {f : Frame} {fs : List Frame} {c : Char}
    {r : Text} {e : Fault} (h : closing (skip + 1) f fs (c :: r) = .error e) :
    closing skip f fs r = .error e := by
  rw [closing] at h
  cases hrest : closing skip f fs r with
  | ok n => simp [hrest, Except.map] at h
  | error e' => simpa [hrest, Except.map] using h

/-- A fault is that of a frame and is reported at its beginning, which is in the text that is
read. -/
theorem closing_fault {skip : Nat} {f : Frame} {fs : List Frame} {r t : Text} {e : Fault}
    (h : closing skip f fs r = .error e) (hr : r <:+ t)
    (hfs : ∀ g ∈ f :: fs, g.fault.rest <:+ t) : ∃ g : Frame, g.fault = e ∧ e.rest <:+ t := by
  induction r generalizing skip f fs with
  | nil =>
    cases h
    exact ⟨f, rfl, hfs f List.mem_cons_self⟩
  | cons c r ih =>
    have hr' : r <:+ t := (List.suffix_cons c r).trans hr
    cases skip with
    | succ skip => exact ih (closing_succ_eq_error h) hr' hfs
    | zero =>
      obtain hfail | ⟨skip, g, gs, hnext, hrest⟩ := closing_eq_error h
      · rw [(turn_move f fs c r).fail_eq hfail]
        exact ⟨f, rfl, hfs f List.mem_cons_self⟩
      · refine ih hrest hr' fun h hh => ?_
        obtain hold | ⟨hnew, -⟩ := (turn_move f fs c r).mem_frames hnext hh
        · exact hfs h hold
        · rw [hnew]
          exact hr

theorem extent_fault {q : Char} {r : Text} {e : Fault} (h : extent q r = .error e) :
    ∃ g : Frame, g.fault = e ∧ e.rest <:+ q :: r := by
  simp only [extent] at h
  split at h
  all_goals
    refine closing_fault h (List.suffix_cons q r) fun g hg => ?_
    obtain rfl := List.mem_singleton.mp hg
    exact List.suffix_rfl

end Graft.Literal
