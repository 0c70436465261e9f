import Graft.Text

/-!
# Cutting a text

An offset at which a text falls into two parts is the size of the first part. Every cut of a text is
computed from its parts here, and later modules speak of parts only.
-/
namespace Graft.Text

theorem takeBytes_zero (t : Text) : takeBytes 0 t = [] := by
  cases t with
  | nil => rfl
  | cons c r => simp [takeBytes, c.utf8Size_pos]

private theorem dropBytes_zero (t : Text) : dropBytes 0 t = t := by
  cases t with
  | nil => rfl
  | cons c r => simp [dropBytes, c.utf8Size_pos]

@[simp] theorem takeBytes_size_append (a b : Text) : takeBytes (size a) (a ++ b) = a := by
  induction a with
  | nil => exact takeBytes_zero b
  | cons c r ih => simp [takeBytes, ih]

@[simp] theorem dropBytes_size_append (a b : Text) : dropBytes (size a) (a ++ b) = b := by
  induction a with
  | nil => exact dropBytes_zero b
  | cons c r ih =>
    have hle : ¬ c.utf8Size + size r < c.utf8Size := by omega
    simp [dropBytes, ih, hle]

theorem size_eq_zero {t : Text} (h : size t = 0) : t = [] := by
  cases t with
  | nil => rfl
  | cons c r =>
    have := c.utf8Size_pos
    simp only [size_cons] at h
    omega

theorem size_pos {t : Text} (h : t ≠ []) : 0 < size t := by
  have := mt size_eq_zero h
  omega

/-! ## Parts -/

theorem append_inj_of_size {a b c d : Text} (h : a ++ b = c ++ d) (hs : size a = size c) :
    a = c ∧ b = d := by
  have ha : a = c := by
    rw [← takeBytes_size_append a b, h, hs, takeBytes_size_append]
  subst ha
  exact ⟨rfl, List.append_cancel_left h⟩

theorem isBoundary_iff {n : Nat} {t : Text} :
    isBoundary n t = true ↔ ∃ a b, t = a ++ b ∧ size a = n := by
  simp only [isBoundary, beq_iff_eq]
  constructor
  · intro h
    exact ⟨_, _, (takeBytes_append_dropBytes n t).symm, h⟩
  · rintro ⟨a, b, rfl, rfl⟩
    rw [takeBytes_size_append]

theorem isBoundary_size_append (a b : Text) : isBoundary (size a) (a ++ b) = true :=
  isBoundary_iff.mpr ⟨a, b, rfl, rfl⟩

theorem slice_append (a m b : Text) : slice (size a) (size a + size m) (a ++ (m ++ b)) = m := by
  rw [slice, dropBytes_size_append, Nat.add_sub_cancel_left, takeBytes_size_append]

theorem asciiAt?_size_append {c : Char} (h : c.utf8Size = 1) (a b : Text) :
    asciiAt? (size a) (a ++ c :: b) = some c := by
  simp [asciiAt?, isBoundary_size_append, h]

theorem asciiAt?_eq_some_iff {n : Nat} {t : Text} {c : Char} :
    asciiAt? n t = some c ↔ ∃ a b, t = a ++ c :: b ∧ size a = n ∧ c.utf8Size = 1 := by
  constructor
  · intro h
    simp only [asciiAt?] at h
    split at h
    case isFalse => cases h
    case isTrue hb =>
      obtain ⟨a, b, rfl, rfl⟩ := isBoundary_iff.mp hb
      rw [dropBytes_size_append] at h
      cases b with
      | nil => cases h
      | cons d r =>
        simp only [Option.ite_none_right_eq_some, Option.some.injEq] at h
        obtain ⟨hd, rfl⟩ := h
        exact ⟨a, r, rfl, rfl, hd⟩
  · rintro ⟨a, b, rfl, rfl, h⟩
    exact asciiAt?_size_append h a b

/-! ## Cuts at boundaries -/

theorem takeBytes_size (t : Text) : takeBytes t.size t = t := by
  simpa using takeBytes_size_append t []

theorem isBoundary_size (t : Text) : t.isBoundary t.size = true := by
  simpa using isBoundary_size_append t []

theorem isBoundary_zero (t : Text) : t.isBoundary 0 = true := isBoundary_size_append [] t

theorem takeBytes_takeBytes_append {t : Text} {p : Nat} (hp : t.isBoundary p = true) (w : Text) :
    takeBytes p (takeBytes p t ++ w) = takeBytes p t := by
  obtain ⟨a, b, rfl, rfl⟩ := isBoundary_iff.mp hp
  rw [takeBytes_size_append, takeBytes_size_append]

/-- Two boundaries cut a text into three parts. -/
theorem exists_parts {t : Text} {p q : Nat} (hp : t.isBoundary p = true)
    (hq : t.isBoundary q = true) (hle : p ≤ q) :
    ∃ a m b, t = a ++ (m ++ b) ∧ size a = p ∧ size a + size m = q := by
  obtain ⟨a, b, rfl, ha⟩ := isBoundary_iff.mp hp
  obtain ⟨c, d, hcd, hc⟩ := isBoundary_iff.mp hq
  rcases List.append_eq_append_iff.mp hcd with ⟨m, rfl, rfl⟩ | ⟨m, rfl, rfl⟩
  · exact ⟨a, m, d, rfl, ha, by rw [← size_append, hc]⟩
  · have hm : size m = 0 := by
      rw [size_append] at ha
      omega
    refine ⟨c ++ m, [], b, rfl, ha, ?_⟩
    rw [size_append, hm, hc]
    rfl

section Cuts

variable {t : Text} {p q r : Nat} (hp : t.isBoundary p = true) (hq : t.isBoundary q = true)
  (hr : t.isBoundary r = true) (hpq : p ≤ q) (hqr : q ≤ r)

include hp hq hpq

theorem takeBytes_append_slice : t.takeBytes p ++ t.slice p q = t.takeBytes q := by
  obtain ⟨a, m, b, rfl, rfl, rfl⟩ := exists_parts hp hq hpq
  rw [slice_append, takeBytes_size_append, ← size_append, ← List.append_assoc,
    takeBytes_size_append]

include hr hqr

theorem slice_append_slice : t.slice p q ++ t.slice q r = t.slice p r := by
  have h : t.takeBytes p ++ (t.slice p q ++ t.slice q r) = t.takeBytes p ++ t.slice p r := by
    rw [← List.append_assoc, takeBytes_append_slice hp hq hpq, takeBytes_append_slice hq hr hqr,
      takeBytes_append_slice hp hr (Nat.le_trans hpq hqr)]
  exact List.append_cancel_left h

theorem slice_takeBytes : (t.takeBytes r).slice p q = t.slice p q := by
  rw [← takeBytes_append_slice hq hr hqr]
  generalize t.slice q r = w
  obtain ⟨a, m, b, rfl, rfl, rfl⟩ := exists_parts hp hq hpq
  rw [← size_append, ← List.append_assoc a m b, takeBytes_size_append, List.append_assoc,
    List.append_assoc, size_append, slice_append, slice_append]

end Cuts

/-! ## The end of a part -/

theorem exists_trailing (p : Char → Bool) (t : Text) :
    ∃ u, t = u ++ (t.reverse.takeWhile p).reverse ∧ ∀ c ∈ u.getLast?, p c = false := by
  refine ⟨(t.reverse.dropWhile p).reverse, ?_, ?_⟩
  · rw [← List.reverse_append, List.takeWhile_append_dropWhile, List.reverse_reverse]
  · intro c hc
    have hhead := List.head?_dropWhile_not p t.reverse
    rw [List.getLast?_reverse] at hc
    rw [Option.mem_def.mp hc] at hhead
    simpa using hhead

theorem of_mem_trailing {p : Char → Bool} {t : Text} {c : Char}
    (h : c ∈ (t.reverse.takeWhile p).reverse) : p c = true :=
  List.all_eq_true.mp List.all_takeWhile c (List.mem_reverse.mp h)

theorem exists_lastLine (t : Text) :
    ∃ u, t = u ++ lastLine t ∧ (u = [] ∨ ∃ v, u = v ++ ['\n']) := by
  obtain ⟨u, hu, hlast⟩ := exists_trailing (· ≠ '\n') t
  refine ⟨u, hu, ?_⟩
  cases List.eq_nil_or_concat u with
  | inl h => exact .inl h
  | inr h =>
    obtain ⟨v, c, rfl⟩ := h
    have hc : c = '\n' := by simpa using hlast c (by simp)
    exact .inr ⟨v, by rw [hc, List.concat_eq_append]⟩

theorem lineHead_append (a b : Text) : lineHead (size a) (a ++ b) = lastLine a := by
  rw [lineHead_eq, takeBytes_size_append]

theorem startsLine_append (a b : Text) :
    startsLine (size a) (a ++ b) = (lastLine a).all isIndent := by
  rw [startsLine, lineHead_append]

theorem lineStart_append {a u : Text} (b : Text) (h : a = u ++ lastLine a) :
    lineStart (size a) (a ++ b) = size u := by
  have hsize : size a = size u + size (lastLine a) := by rw [← size_append, ← h]
  rw [lineStart, lineHead_append]
  omega

theorem isIndent_of_mem_lineIndent {n : Nat} {t : Text} {c : Char} (h : c ∈ lineIndent n t) :
    isIndent c = true :=
  List.all_eq_true.mp List.all_takeWhile c h

end Graft.Text
