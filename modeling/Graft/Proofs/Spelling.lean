import Graft.Proofs.Path
import Mathlib

/-!
# Spellings of a location

One location has many spellings: relative or absolute, with `.` and `..`, with slashes repeated or
at the end. What they have in common is the list of names that is left when every `..` has taken
away a name. Locations are ordered name by name, and names character by character.
-/
namespace Graft

/-! ## Normal forms -/

namespace Path

/-- The names that are left of the parts of a path, which are given last first. Each `..` takes away
the nearest name before it that no other one takes; `ups` of them have not found theirs yet. -/
def remaining : Nat → List Text → Location
  | _, [] => []
  | ups, n :: before =>
    if n = [] ∨ n = ['.'] then remaining ups before
    else if n = ['.', '.'] then remaining (ups + 1) before
    else if ups = 0 then remaining 0 before ++ [n]
    else remaining (ups - 1) before

/-- The location that a path means for a reader who is at `root`. -/
def normal (root : Location) (path : Text) : Location :=
  remaining 0 (split '/' (under root.display path)).reverse

/-- The pieces of the parts of a path. -/
def piecesOf (parts : List Text) : List Piece := (parts.filter (!·.isEmpty)).map piece

private theorem piecesOf_append (as bs : List Text) :
    piecesOf (as ++ bs) = piecesOf as ++ piecesOf bs := by
  simp [piecesOf]

private theorem piecesOf_names {l : Location} (h : ∀ n ∈ l, IsName n) :
    piecesOf l = l.map .name := by
  have hparts : l.filter (!·.isEmpty) = l :=
    List.filter_eq_self.mpr fun n hn => by simpa using (h n hn).ne_nil
  rw [piecesOf, hparts]
  exact List.map_congr_left fun n hn => piece_of_isName (h n hn)

private theorem split_append_split (separator : Char) (a b : Text) :
    split separator (a ++ separator :: b) = split separator a ++ split separator b := by
  induction a with
  | nil =>
    obtain ⟨p, ps, hb, hcons⟩ := split_cons separator separator b
    rw [List.nil_append, hcons, hb, if_pos rfl]
    rfl
  | cons c r ih =>
    obtain ⟨p, ps, hr, hcons⟩ := split_cons separator c r
    obtain ⟨q, qs, hrb, hcons'⟩ := split_cons separator c (r ++ separator :: b)
    rw [List.cons_append, hcons, hcons']
    rw [ih, hr, List.cons_append] at hrb
    obtain ⟨rfl, rfl⟩ := List.cons.inj hrb
    split <;> rfl

private theorem piecesOf_split_display {l : Location} (h : ∀ n ∈ l, IsName n) :
    piecesOf (split '/' l.display) = l.map .name := by
  have hcut : split '/' l.display = [[]] ++ split '/' (Text.join ['/'] l) :=
    split_append_split '/' [] _
  have hparts : piecesOf (split '/' (Text.join ['/'] l)) = piecesOf l := by
    cases l with
    | nil => rfl
    | cons n ns => rw [split_join (by simp) fun m hm => (h m hm).no_slash]
  rw [hcut, piecesOf_append, hparts, piecesOf_names h]
  rfl

private theorem piecesOf_split_under (directory : Location) {path : Text}
    (h : path.head? ≠ some '/') : piecesOf (split '/' (under directory.display path)) =
      piecesOf (split '/' directory.display) ++ piecesOf (split '/' path) := by
  simp only [under, h, if_false, Bool.or_eq_true, List.isEmpty_iff, decide_eq_true_eq]
  split
  case isTrue hend =>
    obtain ⟨init, hinit⟩ : ∃ init, directory.display = init ++ ['/'] :=
      List.getLast?_eq_some_iff.mp (hend.resolve_left (by simp [Location.display]))
    rw [hinit, List.append_assoc, List.singleton_append, split_append_split, split_append_split]
    simp [piecesOf, split]
  case isFalse => rw [split_append_split, piecesOf_append]

end Path

namespace Location

open Graft.Path (IsName piecesOf remaining)

private theorem follow_append (l : Location) (ps qs : List Path.Piece) :
    follow l (ps ++ qs) = follow (follow l ps) qs :=
  List.foldl_append

private theorem follow_names (l m : Location) : follow l (m.map .name) = l ++ m := by
  induction m generalizing l with
  | nil => simp [follow]
  | cons n m ih =>
    change follow (l ++ [n]) (m.map .name) = _
    rw [ih]
    simp

/-- A slash at the end, which counts as `.`, leads nowhere else. -/
theorem follow_parse (l : Location) (t : Text) :
    follow l (Path.parse t).pieces = follow l (piecesOf (Path.split '/' t)) := by
  unfold Path.parse
  simp only
  split
  · rw [follow_append]
    rfl
  · rfl

/-- Going forward with every `..` at once leaves the names that are left when the parts are read
backwards. -/
theorem remaining_reverse (ups : Nat) (parts : List Text) :
    remaining ups parts.reverse = (follow [] (piecesOf parts)).rdrop ups := by
  induction parts using List.reverseRecOn generalizing ups with
  | nil => simp [remaining, piecesOf, follow]
  | append_singleton parts n ih =>
    rw [List.reverse_append, List.reverse_singleton, List.singleton_append, remaining,
      Path.piecesOf_append, follow_append]
    by_cases hskip : n = [] ∨ n = ['.']
    · have hstay (l : Location) : follow l (piecesOf [n]) = l := by
        obtain rfl | rfl := hskip <;> rfl
      rw [if_pos hskip, ih, hstay]
    · rw [if_neg hskip]
      rw [not_or] at hskip
      by_cases hup : n = ['.', '.']
      · have hback (l : Location) : follow l (piecesOf [n]) = l.dropLast := by
          subst hup
          rfl
        rw [if_pos hup, ih, hback]
        induction follow [] (piecesOf parts) using List.reverseRecOn with
        | nil => simp
        | append_singleton l m _ => rw [List.rdrop_concat_succ, List.dropLast_concat]
      · have hname (l : Location) : follow l (piecesOf [n]) = l ++ [n] := by
          have hpiece : piecesOf [n] = [.name n] := by
            simp [piecesOf, Path.piece, hskip.1]
            split <;> simp_all
          rw [hpiece]
          rfl
        rw [if_neg hup, hname]
        cases ups with
        | zero => simp [ih]
        | succ ups => simp [ih]

theorem ofPath_eq_normal {root : Location} (hroot : ∀ n ∈ root, IsName n) (path : Text) :
    ofPath root (Path.parse path) = Path.normal root path := by
  rw [ofPath, follow_parse, Path.normal, remaining_reverse, List.rdrop_zero]
  by_cases hhead : path.head? = some '/'
  · simp [Path.parse, Path.under, hhead]
  · rw [Path.piecesOf_split_under root hhead, Path.piecesOf_split_display hroot, follow_append,
      follow_names]
    simp [Path.parse, hhead]

/-! ## Order -/

private theorem compares_compareText (s t : Text) : (compareText s t).Compares s t := by
  fun_induction compareText s t with
  | case1 => rfl
  | case2 => exact List.nil_lt_cons _ _
  | case3 => exact List.nil_lt_cons _ _
  | case4 c r d s hlt => exact List.cons_lt_cons_iff.mpr (.inl hlt)
  | case5 c r d s _ hlt => exact List.cons_lt_cons_iff.mpr (.inl hlt)
  | case6 c r d s hle hge ih =>
    obtain rfl : c = d := le_antisymm (not_lt.mp hge) (not_lt.mp hle)
    cases h : compareText r s <;> rw [h] at ih
    · exact List.cons_lt_cons_iff.mpr (.inr ⟨rfl, ih⟩)
    · exact congrArg (c :: ·) ih
    · exact List.cons_lt_cons_iff.mpr (.inr ⟨rfl, ih⟩)

theorem compares_compare (l m : Location) : (compare l m).Compares l m := by
  fun_induction compare l m with
  | case1 => rfl
  | case2 => exact List.nil_lt_cons _ _
  | case3 => exact List.nil_lt_cons _ _
  | case4 n ns m ms hname ih =>
    obtain rfl : n = m := (compares_compareText n m).eq_eq.mp hname
    cases h : compare ns ms <;> rw [h] at ih
    · exact List.cons_lt_cons_iff.mpr (.inr ⟨rfl, ih⟩)
    · exact congrArg (n :: ·) ih
    · exact List.cons_lt_cons_iff.mpr (.inr ⟨rfl, ih⟩)
  | case5 n ns m ms hne =>
    have hname := compares_compareText n m
    cases h : compareText n m <;> rw [h] at hname
    · exact List.cons_lt_cons_iff.mpr (.inl hname)
    · exact absurd h hne
    · exact List.cons_lt_cons_iff.mpr (.inl hname)

end Location
end Graft
