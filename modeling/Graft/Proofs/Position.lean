import Graft.Proofs.Break
import Mathlib

/-!
# Positions and offsets

A position stands for one boundary of its text. Going from boundary to boundary the line grows, or
it stays and the column grows, and the line and the column lead back to the offset.
-/
namespace Graft

/-! ## Boundaries -/

namespace Text

/-- The boundaries of a text: the offsets at which its UTF-8 form can be cut. -/
def boundaries (t : Text) : Set Nat := {n | String.Pos.Raw.IsValid (String.ofList t) ⟨n⟩}

private theorem utf8ByteSize_ofList (t : Text) : (String.ofList t).utf8ByteSize = t.size := by
  rw [String.utf8ByteSize_ofList]
  induction t with
  | nil => rfl
  | cons c r ih => rw [String.utf8Len, ih, size_cons, Nat.add_comm]

private theorem mem_boundaries_iff {t : Text} {n : Nat} :
    n ∈ t.boundaries ↔ t.isBoundary n = true := by
  rw [isBoundary_iff, boundaries, Set.mem_ofPred_eq, String.Pos.Raw.isValid_iff_exists_append]
  constructor
  · rintro ⟨s, s', hs, hn⟩
    refine ⟨s.toList, s'.toList, ?_, ?_⟩
    · rw [← String.toList_append, ← hs, String.toList_ofList]
    · rw [← utf8ByteSize_ofList, String.ofList_toList]
      exact (congrArg String.Pos.Raw.byteIdx hn).symm
  · rintro ⟨a, b, rfl, rfl⟩
    refine ⟨String.ofList a, String.ofList b, String.ofList_append, ?_⟩
    rw [← utf8ByteSize_ofList]
    rfl

private theorem takeBytes_append_of_size_le {a : Text} {n : Nat} (h : size a ≤ n) (b : Text) :
    takeBytes n (a ++ b) = a ++ takeBytes (n - size a) b := by
  induction a generalizing n with
  | nil => rfl
  | cons c r ih =>
    rw [size_cons] at h
    have hfits : ¬ n < c.utf8Size := by omega
    rw [List.cons_append, takeBytes, if_neg hfits, ih (by omega), size_cons, Nat.sub_sub]
    rfl

/-- A cut is made at the last boundary that is not behind the offset. -/
theorem isGreatest_size_takeBytes (n : Nat) (t : Text) :
    IsGreatest {m ∈ t.boundaries | m ≤ min n t.size} (size (takeBytes n t)) := by
  have hparts := takeBytes_append_dropBytes n t
  constructor
  · have hboundary : isBoundary (size (takeBytes n t)) t = true :=
      isBoundary_iff.mpr ⟨_, _, hparts.symm, rfl⟩
    have hsize := congrArg size hparts
    rw [size_append] at hsize
    exact ⟨mem_boundaries_iff.mpr hboundary, le_min (size_takeBytes_le n t) (by omega)⟩
  -- the part before another boundary is kept whole, so the cut cannot be before it
  · rintro m ⟨hm, hle⟩
    obtain ⟨a, b, rfl, rfl⟩ := isBoundary_iff.mp (mem_boundaries_iff.mp hm)
    rw [takeBytes_append_of_size_le (hle.trans (min_le_left _ _)), size_append]
    omega

/-! ## Lines -/

/-- The lines of a text, without the line feeds that end them. -/
def lines (t : Text) : List Text := t.splitOn '\n'

/-- The offset at which line `k` begins. Lines count from one, and each of those above has a line
feed. -/
def lineOffset (k : Nat) (t : Text) : Nat := ((t.lines.take (k - 1)).map (size · + 1)).sum

private theorem lines_append_line {s : Text} (h : '\n' ∉ s) (t : Text) :
    lines (s ++ '\n' :: t) = s :: lines t :=
  List.splitOn_append_cons_self_of_not_mem h t

private theorem exists_lines_append {s : Text} (h : '\n' ∉ s) (t : Text) :
    ∃ r ls, lines (s ++ t) = (s ++ r) :: ls := by
  by_cases ht : '\n' ∈ t
  · obtain ⟨u, v, rfl, hu⟩ := List.eq_append_cons_of_mem ht
    refine ⟨u, lines v, ?_⟩
    rw [← List.append_assoc, lines_append_line (by simp [h, hu])]
  · exact ⟨t, [], List.splitOn_eq_singleton (by simp [h, ht])⟩

private theorem lineOffset_append_line {s : Text} (h : '\n' ∉ s) (t : Text) {k : Nat} (hk : 0 < k) :
    lineOffset (k + 1) (s ++ '\n' :: t) = s.size + 1 + lineOffset k t := by
  obtain ⟨j, rfl⟩ := Nat.exists_eq_add_of_lt hk
  simp [lineOffset, lines_append_line h]

private theorem lastLine_concat {c : Char} (h : c ≠ '\n') (t : Text) :
    lastLine (t ++ [c]) = lastLine t ++ [c] := by
  simp [lastLine, h]

end Text

namespace Position

/-! ## The order of positions -/

/-- Line and column. -/
def coordinates (p : Position) : Nat × Nat := (p.line, p.column)

private theorem coordinates_lt_concat (a : Text) (c : Char) :
    toLex (after a).coordinates < toLex (after (a ++ [c])).coordinates := by
  rw [Prod.Lex.toLex_lt_toLex]
  by_cases hc : c = '\n'
  · left
    simp [coordinates, after, hc]
  · right
    simp [coordinates, after, hc, Text.lastLine_concat hc]

private theorem coordinates_lt_append (a : Text) {w : Text} (hw : w ≠ []) :
    toLex (after a).coordinates < toLex (after (a ++ w)).coordinates := by
  induction w generalizing a with
  | nil => exact absurd rfl hw
  | cons c w ih =>
    have hstep := coordinates_lt_concat a c
    rw [List.append_cons]
    by_cases hnil : w = []
    · rwa [hnil, List.append_nil]
    · exact hstep.trans (ih (a ++ [c]) hnil)

private theorem strictMonoOn_coordinates (source : Text) :
    StrictMonoOn (fun n => toLex (locate source n).coordinates) source.boundaries := by
  intro m hm n hn hlt
  obtain ⟨a, w, b, rfl, rfl, rfl⟩ :=
    Text.exists_parts (Text.mem_boundaries_iff.mp hm) (Text.mem_boundaries_iff.mp hn) hlt.le
  have hw : w ≠ [] := by
    rintro rfl
    simp at hlt
  have hlocate : locate (a ++ (w ++ b)) (a.size + Text.size w) = after (a ++ w) := by
    rw [← Text.size_append, ← List.append_assoc, locate_size_append]
  simp only [hlocate, locate_size_append]
  exact coordinates_lt_append a hw

/-! ## The way back -/

/-- The position is on the given line of the source, and line and column lead to its offset. -/
structure IsOn (p : Position) (source line : Text) : Prop where
  line_pos : 0 < p.line
  column_pos : 0 < p.column
  getElem?_lines : source.lines[p.line - 1]? = some line
  column_le : p.column - 1 ≤ line.length
  offset_eq : p.offset = source.lineOffset p.line + Text.size (line.take (p.column - 1))
  unbroken : '\n' ∉ line.take (p.column - 1)

private theorem exists_isOn_after_of_not_mem {a : Text} (h : '\n' ∉ a) (b : Text) :
    ∃ line, (after a).IsOn (a ++ b) line := by
  obtain ⟨r, ls, hlines⟩ := Text.exists_lines_append h b
  have hafter : after a = ⟨a.size, 1, a.length + 1⟩ := by
    rw [after, List.count_eq_zero.mpr h, Text.lastLine_of_all fun c hc hn => h (hn ▸ hc)]
  refine ⟨a ++ r, ?_⟩
  rw [hafter]
  constructor <;> simp [hlines, h, Text.lineOffset]

private theorem IsOn.below {p : Position} {v w line : Text} (h : p.IsOn w line) (hv : '\n' ∉ v) :
    (p.below v).IsOn (v ++ '\n' :: w) line := by
  have hbelow : p.below v = ⟨v.size + 1 + p.offset, p.line + 1, p.column⟩ := by
    rw [Position.below, List.count_eq_zero.mpr hv, Nat.zero_add, Nat.add_comm 1]
  rw [hbelow]
  refine ⟨Nat.succ_pos _, h.column_pos, ?_, h.column_le, ?_, h.unbroken⟩
  · have hget := h.getElem?_lines
    obtain ⟨k, hk⟩ := Nat.exists_eq_add_of_lt h.line_pos
    simpa [Text.lines_append_line hv, hk] using hget
  · simp only [Text.lineOffset_append_line hv w h.line_pos]
    rw [h.offset_eq]
    omega

private theorem exists_isOn_after (a b : Text) : ∃ line, (after a).IsOn (a ++ b) line := by
  -- what stands behind the first line feed is a text of its own, moved down by a line
  by_cases h : '\n' ∈ a
  · obtain ⟨v, w, ha, hv⟩ := List.eq_append_cons_of_mem h
    have hshorter : w.length < a.length := by
      rw [ha, List.length_append, List.length_cons]
      omega
    obtain ⟨line, hline⟩ := exists_isOn_after w b
    refine ⟨line, ?_⟩
    rw [ha, after_append_line, List.append_assoc, List.cons_append]
    exact hline.below hv
  · exact exists_isOn_after_of_not_mem h b
termination_by a.length

/-- Positions identify offsets. The offset of a position is the last boundary that is not behind the
given one; positions of boundaries are in the order of the boundaries, by line and then by column;
and line and column lead back to the offset. -/
theorem locate_identifies (source : Text) :
    (∀ offset, IsGreatest {n ∈ source.boundaries | n ≤ min offset source.size}
      (locate source offset).offset) ∧
    StrictMonoOn (fun n => toLex (locate source n).coordinates) source.boundaries ∧
    Set.InjOn (fun n => (locate source n).coordinates) source.boundaries ∧
    ∀ offset, ∃ line, (locate source offset).IsOn source line := by
  have hmono := strictMonoOn_coordinates source
  refine ⟨fun offset => Text.isGreatest_size_takeBytes offset source, hmono, ?_, ?_⟩
  · intro m hm n hn heq
    exact hmono.injOn hm hn (congrArg toLex heq)
  · intro offset
    have hon := exists_isOn_after (source.takeBytes offset) (source.dropBytes offset)
    rwa [Text.takeBytes_append_dropBytes] at hon

/-- An offset inside a character, the two sides of a line feed, and an offset far behind the end. -/
theorem locate_identifies_accented :
    IsGreatest {n ∈ Text.boundaries "é\nü".toList | n ≤ min 4 (Text.size "é\nü".toList)} 3 ∧
    (2 ∈ Text.boundaries "é\nü".toList ∧ 3 ∈ Text.boundaries "é\nü".toList ∧
      toLex (locate "é\nü".toList 2).coordinates < toLex (locate "é\nü".toList 3).coordinates) ∧
    ∃ line, (Position.mk 5 2 2).IsOn "é\nü".toList line := by
  obtain ⟨hgreatest, hmono, -, hon⟩ := locate_identifies "é\nü".toList
  have hbefore : 2 ∈ Text.boundaries "é\nü".toList := Text.mem_boundaries_iff.mpr (by decide)
  have hbehind : 3 ∈ Text.boundaries "é\nü".toList := Text.mem_boundaries_iff.mpr (by decide)
  have hinside : locate "é\nü".toList 4 = ⟨3, 2, 1⟩ := by decide
  have hend : locate "é\nü".toList 18446744073709551615 = ⟨5, 2, 2⟩ := by decide
  refine ⟨?_, ⟨hbefore, hbehind, hmono hbefore hbehind (by decide)⟩, ?_⟩
  · simpa only [hinside] using hgreatest 4
  · simpa only [hend] using hon 18446744073709551615

end Position
end Graft
