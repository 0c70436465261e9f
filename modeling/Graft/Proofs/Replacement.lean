import Graft.Edit
import Graft.Proofs.Text
import Mathlib.Data.List.Chain
import Mathlib.Data.List.Nodup

/-!
# Simultaneous replacement

A list of edits replaces all its ranges at once. Taken by where they begin, and in the order of the
list where they begin together, the edits lie one behind the other. The result is what they leave of
the text, with the new texts in between. The splices give just that because they go from the end of
the text to its beginning: none of them moves what stands before its own range.
-/
namespace Graft.Edit

/-- The text that stands there is the expected one, or it has the expected digest. -/
def Expected.Matches (hash : Text → UInt64) (found : Text) : Expected → Prop
  | exact text => found = text
  | digest value => hash found = value

/-- The range of the edit lies in the text and between characters, and what the edit expects is
there. -/
structure Fits (t : Text) (hash : Text → UInt64) (e : Edit) : Prop where
  start_le_stop : e.start ≤ e.stop
  stop_le_size : e.stop ≤ t.size
  boundary_start : t.isBoundary e.start = true
  boundary_stop : t.isBoundary e.stop = true
  expected : e.expected.Matches hash (t.slice e.start e.stop)

/-- The edits by where they begin, in the order of the list where they begin together. -/
def inOrder (es : List Edit) : List Edit := es.mergeSort fun e f => e.start ≤ f.start

/-- What edits in order leave of the text from `start` on, with the new texts in between. -/
def weave (t : Text) : Nat → List Edit → Text
  | start, [] => t.slice start t.size
  | start, e :: es => t.slice start e.start ++ (e.text ++ weave t e.stop es)

/-! ## The order of edits -/

section Order

variable {es fs : List Edit}

private theorem eq_of_filter_start (hes : es.Pairwise fun e f => e.start ≤ f.start)
    (hfs : fs.Pairwise fun e f => e.start ≤ f.start)
    (h : ∀ k, (es.filter fun e => e.start = k) = fs.filter fun e => e.start = k) : es = fs := by
  have hmem {es fs : List Edit}
      (h : ∀ k, (es.filter fun e => e.start = k) = fs.filter fun e => e.start = k)
      {e : Edit} (he : e ∈ es) : e ∈ fs := by
    have : e ∈ es.filter fun f => f.start = e.start := by simp [he]
    rw [h] at this
    exact (List.mem_filter.mp this).1
  induction es generalizing fs with
  | nil =>
    cases fs with
    | nil => rfl
    | cons f fs => exact absurd (hmem (fun k => (h k).symm) List.mem_cons_self) (by simp)
  | cons e es ih =>
    cases fs with
    | nil => exact absurd (hmem h List.mem_cons_self) (by simp)
    | cons f fs =>
      rw [List.pairwise_cons] at hes hfs
      have hef : e.start ≤ f.start := by
        rcases List.mem_cons.mp (hmem (fun k => (h k).symm) List.mem_cons_self) with rfl | hf
        · exact Nat.le_refl _
        · exact hes.1 f hf
      have hfe : f.start ≤ e.start := by
        rcases List.mem_cons.mp (hmem h List.mem_cons_self) with rfl | he
        · exact Nat.le_refl _
        · exact hfs.1 e he
      have hstart : f.start = e.start := by omega
      have hhead := h e.start
      rw [List.filter_cons_of_pos (by simp), List.filter_cons_of_pos (by simp [hstart])] at hhead
      obtain rfl := (List.cons.inj hhead).1
      refine congrArg (e :: ·) (ih hes.2 hfs.2 fun k => ?_)
      have hk := h k
      rw [List.filter_cons, List.filter_cons] at hk
      split at hk
      · exact (List.cons.inj hk).2
      · exact hk

private theorem pairwise_inOrder (es : List Edit) :
    (inOrder es).Pairwise fun e f => e.start ≤ f.start := by
  have h : (inOrder es).Pairwise fun e f => decide (e.start ≤ f.start) = true :=
    List.pairwise_mergeSort (fun a b c => by simpa using Nat.le_trans)
      (fun a b => by simpa using Nat.le_total _ _) es
  simpa using h

private theorem perm_inOrder (es : List Edit) : (inOrder es).Perm es := List.mergeSort_perm _ _

private theorem mem_inOrder {e : Edit} : e ∈ inOrder es ↔ e ∈ es := (perm_inOrder es).mem_iff

private theorem pairwise_filter_start (es : List Edit) (k : Nat) :
    (es.filter fun e => e.start = k).Pairwise fun e f => e.start ≤ f.start := by
  rw [List.pairwise_filter]
  refine List.pairwise_of_forall fun e f => ?_
  simp only [decide_eq_true_eq]
  omega

private theorem filter_inOrder (es : List Edit) (k : Nat) :
    ((inOrder es).filter fun e => e.start = k) = es.filter fun e => e.start = k := by
  have hsub : (es.filter fun e => e.start = k).Sublist (inOrder es) :=
    List.sublist_mergeSort (fun a b c => by simpa using Nat.le_trans)
      (fun a b => by simpa using Nat.le_total _ _) (by simpa using pairwise_filter_start es k)
      List.filter_sublist
  have hfilter := hsub.filter fun e => e.start = k
  rw [List.filter_filter] at hfilter
  simp only [Bool.and_self] at hfilter
  exact (hfilter.eq_of_length ((perm_inOrder es).filter _).length_eq.symm).symm

private theorem pairwise_insertSorted (e : Edit) (h : fs.Pairwise fun e f => e.start ≤ f.start) :
    (insertSorted e fs).Pairwise fun e f => e.start ≤ f.start := by
  have hmem (e : Edit) (fs : List Edit) : ∀ g ∈ insertSorted e fs, g = e ∨ g ∈ fs := by
    induction fs with
    | nil => simp [insertSorted]
    | cons f fs ih =>
      rw [insertSorted]
      split <;> grind
  induction fs with
  | nil => simp [insertSorted]
  | cons f fs ih =>
    rw [List.pairwise_cons] at h
    rw [insertSorted]
    split
    case isTrue hle =>
      refine List.pairwise_cons.mpr ⟨?_, ih h.2⟩
      intro g hg
      rcases hmem e fs g hg with rfl | hg
      · exact hle
      · exact h.1 g hg
    case isFalse hlt =>
      refine List.pairwise_cons.mpr ⟨?_, List.pairwise_cons.mpr h⟩
      intro g hg
      rcases List.mem_cons.mp hg with rfl | hg
      · omega
      · have := h.1 g hg
        omega

private theorem filter_insertSorted (e : Edit) (h : fs.Pairwise fun e f => e.start ≤ f.start)
    (k : Nat) : ((insertSorted e fs).filter fun e => e.start = k) =
      (fs ++ [e]).filter fun e => e.start = k := by
  induction fs with
  | nil => rfl
  | cons f fs ih =>
    rw [List.pairwise_cons] at h
    rw [insertSorted]
    split
    · rw [List.cons_append, List.filter_cons, List.filter_cons, ih h.2]
    case isFalse hlt =>
      -- nothing from `f` on begins where `e` does
      by_cases hk : e.start = k
      · have hnone : ((f :: fs).filter fun e => e.start = k) = [] := by
          rw [List.filter_eq_nil_iff]
          intro g hg
          simp only [decide_eq_true_eq]
          rcases List.mem_cons.mp hg with rfl | hg
          · omega
          · have := h.1 g hg
            omega
        rw [List.filter_append, hnone, List.filter_cons_of_pos (by simp [hk]), hnone]
        simp [hk]
      · rw [List.filter_append, List.filter_cons_of_neg (by simp [hk])]
        simp [hk]

private theorem foldl_insertSorted (h : fs.Pairwise fun e f => e.start ≤ f.start) (es : List Edit) :
    ((es.foldl (fun acc e => insertSorted e acc) fs).Pairwise fun e f => e.start ≤ f.start) ∧
      ∀ k, ((es.foldl (fun acc e => insertSorted e acc) fs).filter fun e => e.start = k) =
        (fs ++ es).filter fun e => e.start = k := by
  induction es generalizing fs with
  | nil => simpa using h
  | cons e es ih =>
    obtain ⟨hpairwise, hfilter⟩ := ih (pairwise_insertSorted e h)
    refine ⟨hpairwise, fun k => ?_⟩
    rw [List.foldl_cons, hfilter, List.filter_append, filter_insertSorted e h, ← List.filter_append,
      List.append_assoc, List.singleton_append]

private theorem sorted_eq_inOrder (es : List Edit) : sorted es = inOrder es := by
  obtain ⟨hpairwise, hfilter⟩ := foldl_insertSorted .nil es
  refine eq_of_filter_start hpairwise (pairwise_inOrder es) fun k => ?_
  rw [filter_inOrder, sorted, hfilter, List.nil_append]

private theorem inOrder_eq_append (es : List Edit) (k : Nat) :
    inOrder es = inOrder (es.filter fun e => e.start < k) ++
      ((es.filter fun e => e.start = k) ++ inOrder (es.filter fun e => k < e.start)) := by
  refine eq_of_filter_start (pairwise_inOrder es) ?_ fun j => ?_
  · simp only [List.pairwise_append, List.mem_append, mem_inOrder, List.mem_filter,
      decide_eq_true_eq]
    refine ⟨pairwise_inOrder _, ⟨pairwise_filter_start es k, pairwise_inOrder _, ?_⟩, ?_⟩
    · intro e he f hf
      omega
    · intro e he f hf
      omega
  · have hall {q : Edit → Bool} (hq : ∀ e, e.start = j → q e = true) :
        (es.filter fun e => decide (e.start = j) && q e) = es.filter fun e => e.start = j :=
      List.filter_congr fun e _ => by by_cases he : e.start = j <;> simp [he, hq]
    have hnone {q : Edit → Bool} (hq : ∀ e, e.start = j → q e = false) :
        (es.filter fun e => decide (e.start = j) && q e) = [] :=
      List.filter_eq_nil_iff.mpr fun e _ => by by_cases he : e.start = j <;> simp [he, hq]
    simp only [List.filter_append, filter_inOrder, List.filter_filter]
    rcases Nat.lt_trichotomy j k with hj | hj | hj
    · rw [hall fun e he => by simp; omega, hnone fun e he => by simp; omega,
        hnone fun e he => by simp; omega, List.append_nil, List.append_nil]
    · rw [hnone fun e he => by simp; omega, hall fun e he => by simp; omega,
        hnone fun e he => by simp; omega, List.append_nil, List.nil_append]
    · rw [hnone fun e he => by simp; omega, hnone fun e he => by simp; omega,
        hall fun e he => by simp; omega, List.nil_append, List.nil_append]

private theorem inOrder_eq_of_perm (hperm : fs.Perm es) (h : (es.map start).Nodup) :
    inOrder fs = inOrder es := by
  refine List.Perm.eq_of_pairwise ?_ (pairwise_inOrder fs) (pairwise_inOrder es)
    (((perm_inOrder fs).trans hperm).trans (perm_inOrder es).symm)
  intro e f he hf hef hfe
  exact List.inj_on_of_nodup_map h (hperm.mem_iff.mp (mem_inOrder.mp he)) (mem_inOrder.mp hf)
    (Nat.le_antisymm hef hfe)

end Order

/-! ## The checks -/

section Checks

variable {t : Text} {hash : Text → UInt64} {e : Edit} {es : List Edit}

private theorem Expected.holds_eq_true_iff {x : Expected} {found : Text} :
    x.holds found hash = true ↔ x.Matches hash found := by
  cases x <;> simp [holds, Matches]

private theorem check_eq_ok_iff : check t e hash = .ok () ↔ e.Fits t hash := by
  simp only [check]
  constructor
  · intro h
    split at h
    case isTrue => cases h
    case isFalse hrange =>
      split at h
      case isTrue => cases h
      case isFalse hstart =>
        split at h
        case isTrue => cases h
        case isFalse hstop =>
          split at h
          case isTrue => cases h
          case isFalse hexpected =>
            simp only [Bool.or_eq_true, decide_eq_true_eq, not_or, Nat.not_lt, Bool.not_eq_true',
              Bool.not_eq_false] at hrange hstart hstop hexpected
            exact ⟨hrange.1, hrange.2, hstart, hstop, Expected.holds_eq_true_iff.mp hexpected⟩
  · intro h
    have hrange : ¬ (e.start > e.stop ∨ e.stop > t.size) := by
      have := h.start_le_stop
      have := h.stop_le_size
      omega
    have hexpected := Expected.holds_eq_true_iff.mpr h.expected
    simp [hrange, h.boundary_start, h.boundary_stop, hexpected]

private theorem forM_check_eq_ok_iff :
    es.forM (check t · hash) = .ok () ↔ ∀ e ∈ es, e.Fits t hash := by
  induction es with
  | nil => simp [pure, Except.pure]
  | cons e es ih =>
    rw [List.forM, List.forall_mem_cons, ← ih, ← check_eq_ok_iff]
    cases check t e hash with
    | error f => simp [bind, Except.bind]
    | ok u => simp [bind, Except.bind]

private theorem checkApart_eq_ok_iff :
    checkApart es = .ok () ↔ es.IsChain fun later earlier => earlier.stop ≤ later.start := by
  fun_induction checkApart es with
  | case1 later earlier es hlt =>
    rw [List.isChain_cons_cons]
    simp only [reduceCtorEq, false_iff, not_and_or]
    exact .inl (by omega)
  | case2 later earlier es hle ih =>
    rw [List.isChain_cons_cons, ih]
    simp only [iff_and_self]
    intro _
    omega
  | case3 es hes =>
    cases es with
    | nil => simp
    | cons e es =>
      cases es with
      | nil => simp
      | cons f es => exact absurd rfl (hes e f es)

private theorem apply_eq_ok_iff {out : Text} :
    apply t es hash = .ok out ↔ (∀ e ∈ es, e.Fits t hash) ∧
      ((inOrder es).IsChain fun e f => e.stop ≤ f.start) ∧
      out = (inOrder es).foldr (fun e u => splice u e) t := by
  have hchecks : (inOrder es).reverse.forM (check t · hash) = .ok () ↔
      ∀ e ∈ es, e.Fits t hash := by
    simp only [forM_check_eq_ok_iff, List.mem_reverse, mem_inOrder]
  have hapart : checkApart (inOrder es).reverse = .ok () ↔
      (inOrder es).IsChain fun e f => e.stop ≤ f.start := by
    rw [checkApart_eq_ok_iff, List.isChain_reverse]
  rw [apply, sorted_eq_inOrder, ← hchecks, ← hapart, ← List.foldl_reverse]
  cases (inOrder es).reverse.forM (check t · hash) with
  | error f => simp [bind, Except.bind]
  | ok u =>
    cases checkApart (inOrder es).reverse with
    | error f => simp [bind, Except.bind]
    | ok u => simp [bind, Except.bind, pure, Except.pure, eq_comm]

end Checks

/-! ## The splices -/

section Splices

variable {t : Text} {hash : Text → UInt64} {e : Edit} {es : List Edit}

/-- An edit asks only for the text up to the end of its range. -/
theorem Fits.congr (h : e.Fits t hash) {u : Text}
    (hu : u.takeBytes e.stop = t.takeBytes e.stop) : e.Fits u hash := by
  have hexpected := h.expected
  obtain ⟨a, m, b, rfl, ha, hm⟩ := Text.exists_parts h.boundary_start h.boundary_stop
    h.start_le_stop
  have hcut : Text.takeBytes e.stop (a ++ (m ++ b)) = a ++ m := by
    rw [← hm, ← Text.size_append, ← List.append_assoc, Text.takeBytes_size_append]
  obtain ⟨w, rfl⟩ : ∃ w, u = a ++ (m ++ w) := by
    refine ⟨u.dropBytes e.stop, ?_⟩
    rw [← List.append_assoc, ← hcut, ← hu, Text.takeBytes_append_dropBytes]
  rw [← ha, ← hm, Text.slice_append] at hexpected
  constructor
  case start_le_stop => exact h.start_le_stop
  case stop_le_size =>
    simp only [Text.size_append]
    omega
  case boundary_start =>
    rw [← ha]
    exact Text.isBoundary_size_append a _
  case boundary_stop =>
    rw [← hm, ← Text.size_append, ← List.append_assoc]
    exact Text.isBoundary_size_append _ w
  case expected =>
    rw [← ha, ← hm, Text.slice_append]
    exact hexpected

private theorem Fits.splice_eq (h : e.Fits t hash) (w : Text) :
    splice (t.takeBytes e.stop ++ w) e = t.takeBytes e.start ++ (e.text ++ w) := by
  obtain ⟨a, m, b, rfl, ha, hm⟩ := Text.exists_parts h.boundary_start h.boundary_stop
    h.start_le_stop
  rw [splice, ← ha, ← hm, ← Text.size_append, ← List.append_assoc a m b,
    Text.takeBytes_size_append, Text.dropBytes_size_append, List.append_assoc a m w,
    List.append_assoc a m b, Text.takeBytes_size_append, Text.takeBytes_size_append,
    List.append_assoc]

private theorem foldr_splice_eq {p : Nat} (hp : t.isBoundary p = true) (hle : p ≤ t.size)
    (hfits : ∀ e ∈ es, e.Fits t hash) (hstart : ∀ e ∈ es.head?, p ≤ e.start)
    (hchain : es.IsChain fun e f => e.stop ≤ f.start) :
    es.foldr (fun e u => splice u e) t = t.takeBytes p ++ weave t p es := by
  induction es generalizing p with
  | nil =>
    rw [List.foldr_nil, weave, Text.takeBytes_append_slice hp t.isBoundary_size hle,
      Text.takeBytes_size]
  | cons e es ih =>
    have he := hfits e List.mem_cons_self
    have hpe : p ≤ e.start := hstart e rfl
    rw [List.isChain_cons] at hchain
    have hrest := ih he.boundary_stop he.stop_le_size
      (fun f hf => hfits f (List.mem_cons_of_mem e hf)) hchain.1 hchain.2
    rw [List.foldr_cons, hrest, he.splice_eq, weave, ← List.append_assoc (t.takeBytes p),
      Text.takeBytes_append_slice hp he.boundary_start hpe]

private theorem pairwise_of_isChain (hle : ∀ e ∈ es, e.start ≤ e.stop)
    (hchain : es.IsChain fun e f => e.stop ≤ f.start) :
    es.Pairwise fun e f => e.stop ≤ f.start := by
  induction es with
  | nil => exact .nil
  | cons e es ih =>
    rw [List.isChain_cons] at hchain
    have hrest := ih (fun f hf => hle f (List.mem_cons_of_mem e hf)) hchain.2
    refine List.pairwise_cons.mpr ⟨fun f hf => ?_, hrest⟩
    cases es with
    | nil => cases hf
    | cons g gs =>
      have heg : e.stop ≤ g.start := hchain.1 g rfl
      rcases List.mem_cons.mp hf with rfl | hf
      · exact heg
      · have hg := hle g (by simp)
        have hgf := (List.pairwise_cons.mp hrest).1 f hf
        omega

private theorem weave_append {p k : Nat} {fs : List Edit} (hp : t.isBoundary p = true)
    (hk : t.isBoundary k = true) (hpk : p ≤ k) (hes : ∀ e ∈ es, e.Fits t hash)
    (hfs : ∀ f ∈ fs, f.Fits t hash) (hstart : ∀ e ∈ es.head?, p ≤ e.start)
    (hchain : es.IsChain fun e f => e.stop ≤ f.start) (hstop : ∀ e ∈ es, e.stop ≤ k)
    (hhead : ∀ f ∈ fs.head?, k ≤ f.start) (hsize : k ≤ t.size) :
    weave t p (es ++ fs) = weave (t.takeBytes k) p es ++ weave t k fs := by
  induction es generalizing p with
  | nil =>
    have hfirst : (t.takeBytes k).slice p (t.takeBytes k).size = t.slice p k := by
      have hcut : (t.takeBytes k).size = k := by simpa [Text.isBoundary] using hk
      rw [hcut, Text.slice_takeBytes hp hk hk hpk (Nat.le_refl k)]
    rw [List.nil_append, weave, hfirst]
    cases fs with
    | nil => rw [weave, weave, Text.slice_append_slice hp hk t.isBoundary_size hpk hsize]
    | cons f fs =>
      have hf := hfs f List.mem_cons_self
      rw [weave, weave, ← List.append_assoc (t.slice p k),
        Text.slice_append_slice hp hk hf.boundary_start hpk (hhead f rfl)]
  | cons e es ih =>
    have he := hes e List.mem_cons_self
    have hek := hstop e List.mem_cons_self
    have hpe : p ≤ e.start := hstart e rfl
    rw [List.isChain_cons] at hchain
    have hrest := ih he.boundary_stop hek (fun f hf => hes f (List.mem_cons_of_mem e hf))
      hchain.1 hchain.2 fun f hf => hstop f (List.mem_cons_of_mem e hf)
    rw [List.cons_append, weave, weave, hrest, Text.slice_takeBytes hp he.boundary_start hk hpe
      (Nat.le_trans he.start_le_stop hek)]
    simp only [List.append_assoc]

/-- Of edits that begin together all but the last one are insertions, so their texts follow one
another. -/
theorem exists_weave_append {k : Nat} (fs : List Edit) (h : ∀ e ∈ es, e.start = k)
    (hle : ∀ e ∈ es, e.start ≤ e.stop) (hchain : es.IsChain fun e f => e.stop ≤ f.start) :
    ∃ q, weave t k (es ++ fs) = es.flatMap (·.text) ++ weave t q fs := by
  induction es with
  | nil => exact ⟨k, rfl⟩
  | cons e es ih =>
    have hek := h e List.mem_cons_self
    have hslice : t.slice k k = [] := by rw [Text.slice, Nat.sub_self, Text.takeBytes_zero]
    rw [List.cons_append, weave, hek, hslice, List.nil_append]
    cases es with
    | nil => exact ⟨e.stop, by simp⟩
    | cons f es =>
      rw [List.isChain_cons_cons] at hchain
      have hstop : e.stop = k := by
        have := h f (by simp)
        have := hle e (by simp)
        omega
      obtain ⟨q, hq⟩ := ih (fun g hg => h g (List.mem_cons_of_mem e hg))
        (fun g hg => hle g (List.mem_cons_of_mem e hg)) hchain.2
      refine ⟨q, ?_⟩
      rw [hstop, hq]
      simp

private theorem apply_eq_ok_iff_weave {out : Text} :
    apply t es hash = .ok out ↔ (∀ e ∈ es, e.Fits t hash) ∧
      ((inOrder es).IsChain fun e f => e.stop ≤ f.start) ∧ out = weave t 0 (inOrder es) := by
  rw [apply_eq_ok_iff]
  refine and_congr_right fun hfits => and_congr_right fun hchain => ?_
  have hrun := foldr_splice_eq t.isBoundary_zero (Nat.zero_le _)
    (fun e he => hfits e (mem_inOrder.mp he)) (fun e _ => Nat.zero_le _) hchain
  rw [hrun, Text.takeBytes_zero, List.nil_append]

/-- When it is the turn of an edit, the text up to the end of its range is still as it was. -/
theorem fits_in_turn {earlier later : List Edit} (hfits : ∀ e ∈ es, e.Fits t hash)
    (hchain : (inOrder es).IsChain fun e f => e.stop ≤ f.start)
    (h : inOrder es = earlier ++ e :: later) : e.Fits (later.reverse.foldl splice t) hash := by
  have hmem : ∀ f ∈ e :: later, f.Fits t hash := by
    intro f hf
    exact hfits f (mem_inOrder.mp (h ▸ List.mem_append_right earlier hf))
  have he := hmem e List.mem_cons_self
  rw [h, List.isChain_append, List.isChain_cons] at hchain
  have hrun := foldr_splice_eq he.boundary_stop he.stop_le_size
    (fun f hf => hmem f (List.mem_cons_of_mem e hf)) hchain.2.1.1 hchain.2.1.2
  refine he.congr ?_
  rw [List.foldl_reverse, hrun, Text.takeBytes_takeBytes_append he.boundary_stop]

/-- The texts of the edits that begin at an offset follow one another in the order of the list,
behind what the edits that begin before it make of the text up to there. -/
theorem exists_texts_at {out : Text} (h : apply t es hash = .ok out) (he : e ∈ es) :
    ∃ before after, apply (t.takeBytes e.start) (es.filter fun f => f.start < e.start) hash =
        .ok before ∧
      out = before ++ ((es.filter fun f => f.start = e.start).flatMap (·.text) ++ after) := by
  obtain ⟨hfits, hchain, rfl⟩ := apply_eq_ok_iff_weave.mp h
  have hat := hfits e he
  have hpairwise := pairwise_of_isChain (fun f hf => (hfits f (mem_inOrder.mp hf)).start_le_stop)
    hchain
  rw [inOrder_eq_append es e.start] at hchain hpairwise ⊢
  rw [List.isChain_append, List.isChain_append] at hchain
  obtain ⟨hbefore, ⟨htogether, -, -⟩, -⟩ := hchain
  have hstop : ∀ f ∈ inOrder (es.filter fun f => f.start < e.start), f.stop ≤ e.start := by
    intro f hf
    exact (List.pairwise_append.mp hpairwise).2.2 f hf e (List.mem_append_left _ (by simp [he]))
  have hfirst : ∀ f ∈ es.filter fun f => f.start < e.start,
      f.Fits (t.takeBytes e.start) hash := by
    intro f hf
    have hft := hfits f (List.mem_filter.mp hf).1
    refine hft.congr ?_
    rw [← Text.takeBytes_append_slice hft.boundary_stop hat.boundary_start
      (hstop f (mem_inOrder.mpr hf)), Text.takeBytes_takeBytes_append hft.boundary_stop]
  obtain ⟨q, hq⟩ := exists_weave_append (t := t) (inOrder (es.filter fun f => e.start < f.start))
    (k := e.start) (fun f hf => by simpa using (List.mem_filter.mp hf).2)
    (fun f hf => (hfits f (List.mem_filter.mp hf).1).start_le_stop) htogether
  refine ⟨_, weave t q (inOrder (es.filter fun f => e.start < f.start)),
    apply_eq_ok_iff_weave.mpr ⟨hfirst, hbefore, rfl⟩, ?_⟩
  have hothers : ∀ f ∈ (es.filter fun f => f.start = e.start) ++
      inOrder (es.filter fun f => e.start < f.start), f ∈ es ∧ e.start ≤ f.start := by
    intro f hf
    simp only [List.mem_append, mem_inOrder, List.mem_filter, decide_eq_true_eq] at hf
    rcases hf with ⟨hf, hstart⟩ | ⟨hf, hstart⟩
    · exact ⟨hf, by omega⟩
    · exact ⟨hf, by omega⟩
  rw [← hq]
  exact weave_append t.isBoundary_zero hat.boundary_start (Nat.zero_le _)
    (fun f hf => hfits f (List.mem_filter.mp (mem_inOrder.mp hf)).1)
    (fun f hf => hfits f (hothers f hf).1) (fun f _ => Nat.zero_le _) hbefore hstop
    (fun f hf => (hothers f (List.mem_of_mem_head? hf)).2)
    (Nat.le_trans hat.start_le_stop hat.stop_le_size)

end Splices

/-- Edits are applied exactly when each of them fits the text and, in order, each ends before the
next one begins; the result is their weave. Each splice on the way meets a text that its edit still
fits. The order of the list does not matter when all edits begin at different offsets, and the texts
of edits that begin at one offset follow one another as in the list. -/
theorem apply_replaces_at_once (t : Text) (es : List Edit) (hash : Text → UInt64) :
    (∀ out, apply t es hash = .ok out ↔ (∀ e ∈ es, e.Fits t hash) ∧
      ((inOrder es).IsChain fun e f => e.stop ≤ f.start) ∧ out = weave t 0 (inOrder es)) ∧
    (∀ out earlier e later, apply t es hash = .ok out → inOrder es = earlier ++ e :: later →
      e.Fits (later.reverse.foldl splice t) hash) ∧
    (∀ fs, fs.Perm es → (es.map start).Nodup → apply t fs hash = apply t es hash) ∧
    ∀ out, apply t es hash = .ok out → ∀ e ∈ es, ∃ before after,
      apply (t.takeBytes e.start) (es.filter fun f => f.start < e.start) hash = .ok before ∧
        out = before ++ ((es.filter fun f => f.start = e.start).flatMap (·.text) ++ after) := by
  refine ⟨fun out => apply_eq_ok_iff_weave, ?_, ?_, fun out h e he => exists_texts_at h he⟩
  · intro out earlier e later h horder
    obtain ⟨hfits, hchain, -⟩ := apply_eq_ok_iff_weave.mp h
    exact fits_in_turn hfits hchain horder
  · intro fs hperm hnodup
    rw [apply, apply, sorted_eq_inOrder, sorted_eq_inOrder, inOrder_eq_of_perm hperm hnodup]

/-- Behind a character of two bytes: two insertions and a replacement at one offset, with an edit
from further back listed first. -/
theorem apply_replaces_at_once_tied :
    apply "é<>z".toList [replace 4 5 "Z".toList "z".toList, insertion 2 "a".toList,
        insertion 2 "b".toList, replace 2 3 "(".toList "<".toList] = .ok "éab(>Z".toList ∧
      ∃ before after, apply (Text.takeBytes 2 "é<>z".toList) [] = .ok before ∧
        "éab(>Z".toList = before ++ ("ab(".toList ++ after) := by
  have h : apply "é<>z".toList [replace 4 5 "Z".toList "z".toList, insertion 2 "a".toList,
      insertion 2 "b".toList, replace 2 3 "(".toList "<".toList] = .ok "éab(>Z".toList := by
    decide
  exact ⟨h, (apply_replaces_at_once _ _ _).2.2.2 _ h (insertion 2 "a".toList) (by simp)⟩

end Graft.Edit
