import Graft.Token.Literal
import Mathlib

/-!
# What a literal depends on

Where a literal ends does not depend on the text behind it: every frame that is open needs
characters for its end, and the reader never looks further ahead than these. The one exception is
the empty literal, which a third quote would make the beginning of another one.
-/
namespace Graft.Literal

/-! ## How far the end is at least -/

/-- The fewest characters that end a frame. -/
def Frame.weight : Frame → Nat
  | .quoted _ triple _ => if triple then 3 else 1
  | .hole _ => 1

def weights (fs : List Frame) : Nat := (fs.map Frame.weight).sum

/-- The characters that are certain to follow the present one. -/
def Move.need : Move → Nat
  | .fail _ => 0
  | .close more => more
  | .next skip top below => skip + top.weight + weights below

@[simp] theorem weight_quoted (q : Char) (triple : Bool) (r : Text) :
    (Frame.quoted q triple r).weight = if triple then 3 else 1 := rfl

@[simp] theorem weight_hole (r : Text) : (Frame.hole r).weight = 1 := rfl

@[simp] theorem weights_nil : weights [] = 0 := rfl

@[simp] theorem weights_cons (f : Frame) (fs : List Frame) :
    weights (f :: fs) = f.weight + weights fs := by
  simp [weights]

@[simp] theorem need_close (more : Nat) : (Move.close more).need = more := rfl

@[simp] theorem need_next (skip : Nat) (f : Frame) (fs : List Frame) :
    (Move.next skip f fs).need = skip + f.weight + weights fs := rfl

@[simp] theorem need_leave (more : Nat) (fs : List Frame) :
    (leave more fs).need = more + weights fs := by
  cases fs with
  | nil => simp [leave]
  | cons f fs => simp [leave, Nat.add_assoc]

/-- One character brings the end of the frames nearer by one at most. -/
theorem weight_le_need (f : Frame) (fs : List Frame) (c : Char) (r : Text)
    (h : ∀ e, move f fs c r ≠ .fail e) : f.weight + weights fs ≤ (move f fs c r).need + 1 := by
  cases f with
  | quoted q triple opening =>
    simp only [move] at h ⊢
    repeat' split
    all_goals simp_all <;> omega
  | hole opening =>
    simp only [move]
    repeat' split
    all_goals simp <;> omega

theorem closing_eq_ok {f : Frame} {fs : List Frame} {c : Char} {r : Text} {n : Nat}
    (h : closing 0 f fs (c :: r) = .ok n) :
    (∃ more, move f fs c r = .close more ∧ n = more + 1) ∨
      ∃ skip g gs m, move f fs c r = .next skip g gs ∧ closing skip g gs r = .ok m ∧ n = m + 1 := by
  rw [closing] at h
  cases hm : move f fs c r with
  | fail e => simp [hm] at h
  | close more =>
    simp only [hm, Except.ok.injEq] at h
    exact .inl ⟨more, rfl, h.symm⟩
  | next skip g gs =>
    cases hr : closing skip g gs r with
    | error e => simp [hm, hr, Except.map] at h
    | ok m =>
      simp only [hm, hr, Except.map, Except.ok.injEq] at h
      exact .inr ⟨skip, g, gs, m, rfl, hr, h.symm⟩

theorem closing_succ_eq_ok {skip : Nat} {f : Frame} {fs : List Frame} {c : Char} {r : Text}
    {n : Nat} (h : closing (skip + 1) f fs (c :: r) = .ok n) :
    ∃ m, closing skip f fs r = .ok m ∧ n = m + 1 := by
  rw [closing] at h
  cases hr : closing skip f fs r with
  | error e => simp [hr, Except.map] at h
  | ok m =>
    simp only [hr, Except.map, Except.ok.injEq] at h
    exact ⟨m, rfl, h.symm⟩

theorem weight_le_closing {skip : Nat} {f : Frame} {fs : List Frame} {t : Text} {n : Nat}
    (h : closing skip f fs t = .ok n) : skip + f.weight + weights fs ≤ n := by
  induction t generalizing skip f fs n with
  | nil => cases h
  | cons c r ih =>
    cases skip with
    | succ skip =>
      obtain ⟨m, hr, rfl⟩ := closing_succ_eq_ok h
      have := ih hr
      omega
    | zero =>
      obtain ⟨more, hm, rfl⟩ | ⟨skip, g, gs, m, hm, hr, rfl⟩ := closing_eq_ok h
      · have := weight_le_need f fs c r (by simp [hm])
        simp only [hm, need_close] at this
        omega
      · have := weight_le_need f fs c r (by simp [hm])
        have := ih hr
        simp only [hm, need_next] at *
        omega

/-! ## Independence of what follows -/

/-- A frame without the text it opens with, which only a fault mentions. -/
def Frame.bare : Frame → Frame
  | .quoted q triple _ => .quoted q triple []
  | .hole _ => .hole []

/-- Moves that are the same up to what a fault would say. -/
inductive Move.Alike : Move → Move → Prop where
  | fail {e e'} : Alike (.fail e) (.fail e')
  | close {more} : Alike (.close more) (.close more)
  | next {skip f f' fs fs'} : f.bare = f'.bare → fs.map Frame.bare = fs'.map Frame.bare →
      Alike (.next skip f fs) (.next skip f' fs')

theorem leave_alike {fs fs' : List Frame} (more : Nat)
    (h : fs.map Frame.bare = fs'.map Frame.bare) : (leave more fs).Alike (leave more fs') := by
  cases fs with
  | nil =>
    obtain rfl : fs' = [] := by simpa using h.symm
    exact .close
  | cons f fs =>
    obtain ⟨f', fs', rfl, hf, hfs⟩ := List.map_eq_cons_iff.mp h.symm
    exact .next hf.symm hfs.symm

theorem isTripled_append {a : Text} (q : Char) (b b' : Text) (h : 2 ≤ a.length) :
    isTripled q (a ++ b) = isTripled q (a ++ b') := by
  match a, h with
  | _ :: _ :: _, _ => simp only [isTripled, List.cons_append, List.isPrefixOf]

private theorem head?_append_congr {a : Text} (b b' : Text) (h : 1 ≤ a.length) :
    (a ++ b).head? = (a ++ b').head? := by
  match a, h with
  | _ :: _, _ => rfl

/-- The reader looks at no more characters than it needs. -/
theorem move_alike {f f' : Frame} {fs fs' : List Frame} {a b : Text} (b' : Text) (c : Char)
    (hf : f.bare = f'.bare) (hfs : fs.map Frame.bare = fs'.map Frame.bare)
    (h : (move f fs c (a ++ b)).need ≤ a.length) :
    (move f fs c (a ++ b)).Alike (move f' fs' c (a ++ b')) := by
  cases f with
  | quoted q triple opening =>
    cases f' with
    | hole _ => cases hf
    | quoted q' triple' opening' =>
      obtain ⟨rfl, rfl⟩ : q = q' ∧ triple = triple' := by simpa [Frame.bare] using hf
      simp only [move] at h ⊢
      by_cases hesc : c = '\\'
      · simp only [if_pos hesc]
        exact .next hf hfs
      by_cases hend : (c = '\n' && !triple) = true
      · simp only [if_neg hesc, if_pos hend]
        exact .fail
      by_cases hq : c = q
      · simp only [if_neg hesc, if_neg hend, if_pos hq] at h ⊢
        cases triple with
        | false => exact leave_alike 0 hfs
        | true =>
          have hlen : 2 ≤ a.length := by
            simp only [if_true] at h
            split at h
            · rw [need_leave] at h
              omega
            · simp at h
              omega
          simp only [if_true, isTripled_append q b b' hlen]
          split
          · exact leave_alike 2 hfs
          · exact .next hf hfs
      · simp only [if_neg hesc, if_neg hend, if_neg hq] at h ⊢
        have hlen : 1 ≤ a.length := by
          split at h <;> simp at h <;> split at h <;> omega
        simp only [head?_append_congr b b' hlen]
        split
        · exact .next rfl (by simp [hf, hfs])
        · exact .next hf hfs
  | hole opening =>
    cases f' with
    | quoted _ _ _ => cases hf
    | hole opening' =>
      simp only [move] at h ⊢
      by_cases hopen : c = '{'
      · simp only [if_pos hopen]
        exact .next hf (by simp [hf, hfs])
      by_cases hclose : c = '}'
      · simp only [if_neg hopen, if_pos hclose]
        exact leave_alike 0 hfs
      by_cases hq : isQuote c = true
      · simp only [if_neg hopen, if_neg hclose, if_pos hq] at h ⊢
        have hlen : 2 ≤ a.length := by
          split at h <;> simp at h <;> omega
        simp only [isTripled_append c b b' hlen]
        split <;> exact .next rfl (by simp [hf, hfs])
      · simp only [if_neg hopen, if_neg hclose, if_neg hq]
        exact .next hf hfs

/-- The outermost frame ends at the same place whatever follows. -/
theorem closing_congr {a b : Text} (b' : Text) {skip : Nat} {f f' : Frame} {fs fs' : List Frame}
    (hf : f.bare = f'.bare) (hfs : fs.map Frame.bare = fs'.map Frame.bare)
    (h : closing skip f fs (a ++ b) = .ok a.length) :
    closing skip f' fs' (a ++ b') = .ok a.length := by
  induction a generalizing skip f f' fs fs' with
  | nil =>
    have hle : skip + f.weight + weights fs ≤ 0 := weight_le_closing h
    have hpos : 1 ≤ f.weight := by
      cases f with
      | quoted q triple opening => cases triple <;> simp
      | hole opening => simp
    omega
  | cons c a ih =>
    rw [List.cons_append] at h ⊢
    cases skip with
    | succ skip =>
      obtain ⟨m, hr, hn⟩ := closing_succ_eq_ok h
      obtain rfl : a.length = m := by simpa using hn
      simp [closing, ih hf hfs hr, Except.map]
    | zero =>
      obtain ⟨more, hm, hn⟩ | ⟨skip, g, gs, m, hm, hr, hn⟩ := closing_eq_ok h
      · obtain rfl : a.length = more := by simpa using hn
        have hmove := move_alike b' c hf hfs (Nat.le_of_eq (by rw [hm, need_close]))
        rw [hm] at hmove
        generalize hm' : move f' fs' c (a ++ b') = m' at hmove
        cases hmove
        simp [closing, hm']
      · obtain rfl : a.length = m := by simpa using hn
        have hmove := move_alike b' c hf hfs (by rw [hm]; exact weight_le_closing hr)
        rw [hm] at hmove
        generalize hm' : move f' fs' c (a ++ b') = m' at hmove
        cases hmove with
        | next hg hgs => simp [closing, hm', ih hg hgs hr, Except.map]

private theorem closing_ne_zero {skip : Nat} {f : Frame} {fs : List Frame} {t : Text} :
    closing skip f fs t ≠ .ok 0 := by
  intro h
  cases t with
  | nil => cases h
  | cons c r =>
    cases skip with
    | succ skip =>
      obtain ⟨m, _, hm⟩ := closing_succ_eq_ok h
      omega
    | zero =>
      obtain ⟨more, _, hm⟩ | ⟨_, _, _, m, _, _, hm⟩ := closing_eq_ok h <;> omega

private theorem leave_eq_close {more n : Nat} {fs : List Frame} (h : leave n fs = .close more) :
    fs = [] ∧ more = n := by
  cases fs with
  | nil =>
    cases h
    exact ⟨rfl, rfl⟩
  | cons f fs => cases h

theorem quoted_close {q c : Char} {triple : Bool} {opening r : Text} {fs : List Frame} {more : Nat}
    (h : move (.quoted q triple opening) fs c r = .close more) :
    fs = [] ∧ c = q ∧ if triple then isTripled q r = true ∧ more = 2 else more = 0 := by
  simp only [move] at h
  by_cases hesc : c = '\\'
  · rw [if_pos hesc] at h
    cases h
  by_cases hend : (c = '\n' && !triple) = true
  · rw [if_neg hesc, if_pos hend] at h
    cases h
  by_cases hq : c = q
  · rw [if_neg hesc, if_neg hend, if_pos hq] at h
    cases triple with
    | false =>
      obtain ⟨hfs, hm⟩ := leave_eq_close h
      exact ⟨hfs, hq, hm⟩
    | true =>
      simp only [if_true] at h ⊢
      split at h
      case isTrue ht =>
        obtain ⟨hfs, hm⟩ := leave_eq_close h
        exact ⟨hfs, hq, ht, hm⟩
      case isFalse => cases h
  · rw [if_neg hesc, if_neg hend, if_neg hq] at h
    split at h <;> cases h

theorem hole_close {c : Char} {opening r : Text} {fs : List Frame} {more : Nat}
    (h : move (.hole opening) fs c r = .close more) : fs = [] ∧ more = 0 := by
  simp only [move] at h
  by_cases hopen : c = '{'
  · rw [if_pos hopen] at h
    cases h
  by_cases hclose : c = '}'
  · rw [if_neg hopen, if_pos hclose] at h
    exact leave_eq_close h
  · rw [if_neg hopen, if_neg hclose] at h
    repeat' split at h
    all_goals cases h

/-- A literal ends at the same place whatever follows, unless it is empty and a quote follows. -/
theorem extent_congr {q : Char} {a b : Text} (b' : Text) (h : extent q (a ++ b) = .ok a.length)
    (hempty : a = [q] → b'.head? ≠ some q) : extent q (a ++ b') = .ok a.length := by
  simp only [extent] at h ⊢
  by_cases hlen : 2 ≤ a.length
  · rw [isTripled_append q b b' hlen] at h
    split at h
    case isTrue ht =>
      rw [if_pos ht]
      exact closing_congr b' (by rfl) rfl h
    case isFalse ht =>
      rw [if_neg ht]
      exact closing_congr b' (by rfl) rfl h
  · split at h
    · have := weight_le_closing h
      omega
    · -- a literal of two characters: the second one is the quote
      cases a with
      | nil => exact absurd h closing_ne_zero
      | cons c a =>
        obtain rfl : a = [] := by
          rw [List.length_cons] at hlen
          exact List.length_eq_zero_iff.mp (by omega)
        obtain ⟨more, hm, hn⟩ | ⟨skip, g, gs, m, _, hr, hn⟩ := closing_eq_ok h
        · obtain ⟨_, rfl, _⟩ := quoted_close hm
          have ht : ¬ isTripled c ([c] ++ b') = true := by
            have := hempty rfl
            cases b' with
            | nil => simp [isTripled]
            | cons d r =>
              simp only [List.head?_cons, ne_eq, Option.some.injEq] at this
              simpa [isTripled] using fun h => this h.symm
          rw [if_neg ht]
          exact closing_congr b' (by rfl) rfl h
        · obtain rfl : m = 0 := by simpa using hn.symm
          exact absurd hr closing_ne_zero

theorem head?_ne_of_extent {q : Char} {rest : Text} (h : extent q (q :: rest) = .ok 1) :
    rest.head? ≠ some q := by
  intro hq
  obtain ⟨r, rfl⟩ := List.head?_eq_some_iff.mp hq
  have ht : isTripled q (q :: q :: r) = true := by simp [isTripled]
  rw [extent, if_pos ht] at h
  have := weight_le_closing h
  omega

/-! ## The characters of a literal -/

private theorem closing_le_length {skip : Nat} {f : Frame} {fs : List Frame} {t : Text} {n : Nat}
    (h : closing skip f fs t = .ok n) : n ≤ t.length := by
  induction t generalizing skip f fs n with
  | nil => cases h
  | cons c r ih =>
    rw [List.length_cons]
    cases skip with
    | succ skip =>
      obtain ⟨m, hr, rfl⟩ := closing_succ_eq_ok h
      have := ih hr
      omega
    | zero =>
      obtain ⟨more, hm, rfl⟩ | ⟨skip, g, gs, m, hm, hr, rfl⟩ := closing_eq_ok h
      · cases f with
        | hole opening =>
          obtain ⟨_, rfl⟩ := hole_close hm
          omega
        | quoted q triple opening =>
          obtain ⟨_, _, hmore⟩ := quoted_close hm
          cases triple with
          | false =>
            simp only [Bool.false_eq_true, if_false] at hmore
            omega
          | true =>
            obtain ⟨ht, rfl⟩ := hmore
            have := (List.isPrefixOf_iff_prefix.mp ht).length_le
            simp only [List.length_cons, List.length_nil] at this
            omega
      · have := ih hr
        omega

theorem extent_le_length {q : Char} {r : Text} {n : Nat} (h : extent q r = .ok n) :
    n ≤ r.length := by
  simp only [extent] at h
  split at h <;> exact closing_le_length h

private theorem move_outermost {f g : Frame} {fs gs : List Frame} {c : Char} {r : Text} {skip : Nat}
    (h : move f fs c r = .next skip g gs) : (g :: gs).getLast? = (f :: fs).getLast? := by
  have hleave {more : Nat} (h : leave more fs = .next skip g gs) :
      (g :: gs).getLast? = (f :: fs).getLast? := by
    cases fs with
    | nil => cases h
    | cons f' fs' =>
      cases h
      exact List.getLast?_cons_cons.symm
  cases f with
  | quoted q triple opening =>
    simp only [move] at h
    repeat' split at h
    all_goals first | exact hleave h | (cases h; try simp)
  | hole opening =>
    simp only [move] at h
    repeat' split at h
    all_goals first | exact hleave h | (cases h; try simp)

private theorem getLast?_of_closing {a b : Text} {skip : Nat} {f : Frame} {fs : List Frame}
    {q : Char} {triple : Bool} {opening : Text} (h : closing skip f fs (a ++ b) = .ok a.length)
    (hq : (f :: fs).getLast? = some (.quoted q triple opening)) : a.getLast? = some q := by
  induction a generalizing skip f fs with
  | nil => exact absurd h closing_ne_zero
  | cons c a ih =>
    rw [List.cons_append] at h
    rw [List.getLast?_cons]
    cases skip with
    | succ skip =>
      obtain ⟨m, hr, hn⟩ := closing_succ_eq_ok h
      obtain rfl : a.length = m := by simpa using hn
      rw [ih hr hq, Option.getD_some]
    | zero =>
      obtain ⟨more, hm, hn⟩ | ⟨skip, g, gs, m, hm, hr, hn⟩ := closing_eq_ok h
      · obtain rfl : a.length = more := by simpa using hn
        cases f with
        | hole opening' =>
          obtain ⟨rfl, _⟩ := hole_close hm
          cases hq
        | quoted q' triple' opening' =>
          obtain ⟨rfl, rfl, hmore⟩ := quoted_close hm
          cases hq
          cases triple with
          | false =>
            obtain rfl : a = [] := List.length_eq_zero_iff.mp hmore
            rfl
          | true =>
            obtain ⟨ht, hlen⟩ := hmore
            have ha : [q, q] <+: a :=
              List.prefix_of_prefix_length_le (List.isPrefixOf_iff_prefix.mp ht)
                (List.prefix_append a b) (by simp [hlen])
            simp [← ha.eq_of_length hlen.symm]
      · obtain rfl : a.length = m := by simpa using hn
        rw [ih hr ((move_outermost hm).trans hq), Option.getD_some]

theorem getLast?_of_extent {q : Char} {a b : Text} (h : extent q (a ++ b) = .ok a.length) :
    a.getLast? = some q := by
  simp only [extent] at h
  split at h <;> exact getLast?_of_closing h rfl

end Graft.Literal
