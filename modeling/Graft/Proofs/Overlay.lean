import Graft.Overlay
import Graft.Proofs.Guard

/-!
# Overlays that come about

An overlay comes about by opening a workspace and reading, staging, discarding and committing files,
while the disk may change in any way between two steps. All its files are known by locations made of
names, with paths short enough to be opened.
-/
namespace Graft

open Graft.Path (IsName Piece)

namespace Disk

private theorem Walks.names {d : Disk} {links : Nat} {here l : Location} {ps : List Piece}
    (h : Walks d links here ps (.ok l)) (hhere : ∀ n ∈ here, IsName n)
    (hps : ∀ n, Piece.name n ∈ ps → IsName n) : ∀ n ∈ l, IsName n := by
  generalize hr : Except.ok l = r at h
  induction h with
  | stop =>
    cases hr
    exact hhere
  | blocked _ => cases hr
  | here _ _ ih => exact ih hhere (fun n hn => hps n (List.mem_cons_of_mem _ hn)) hr
  | @up _ here _ _ _ _ ih =>
    exact ih (fun n hn => hhere n (List.dropLast_subset here hn))
      (fun n hn => hps n (List.mem_cons_of_mem _ hn)) hr
  | long _ _ => cases hr
  | missing _ _ _ => cases hr
  | @enter _ here n _ _ _ _ _ _ _ _ ih =>
    refine ih (fun m hm => ?_) (fun m hm => hps m (List.mem_cons_of_mem _ hm)) hr
    obtain hm | hm := List.mem_append.mp hm
    · exact hhere m hm
    · rw [List.mem_singleton.mp hm]
      exact hps n List.mem_cons_self
  | tired _ _ _ => cases hr
  | @link _ here n rest x _ _ _ _ _ ih =>
    refine ih (fun m hm => ?_) (fun m hm => ?_) hr
    · rw [origin] at hm
      split at hm
      · cases hm
      · exact hhere m hm
    · obtain hm | hm := List.mem_append.mp hm
      · exact (Path.isName_of_mem_parse hm).1
      · exact hps m (List.mem_cons_of_mem _ hm)

private theorem isName_of_canonicalize {d : Disk} {base l : Location} {t : Text}
    (h : d.canonicalize base t = .ok l)
    (hbase : (Path.parse t).absolute = false → ∀ n ∈ base, IsName n) : ∀ n ∈ l, IsName n := by
  simp only [canonicalize, locate] at h
  split at h
  · cases h
  · split at h
    · cases h
    · refine (walk_eq_iff.mp h).names (fun n hn => ?_) fun n hn => (Path.isName_of_mem_parse hn).1
      split at hn
      case isTrue => cases hn
      case isFalse hrelative => exact hbase (Bool.not_eq_true _ ▸ hrelative) n hn

/-- A path that is too long is refused, whatever there is. -/
theorem size_of_readText {d : Disk} {base : Location} {t : Text} {r : Except Fault Text}
    (h : d.readText base t = r) (hlong : r ≠ .error .nameTooLong) (hnul : r ≠ .error .nulInName) :
    Text.size t < maxPath := by
  by_cases hsize : Text.size t < maxPath
  · exact hsize
  have hge : Text.size t ≥ maxPath := Nat.le_of_not_lt hsize
  subst h
  by_cases hmem : '\x00' ∈ t
  · refine absurd ?_ hnul
    simp [readText, reach, canonicalize_of_nul hmem, hmem, bind, Except.bind]
  · refine absurd ?_ hlong
    simp [readText, reach, hge, hmem, bind, Except.bind]

end Disk

namespace Overlay

/-- The overlays that come about. The disk of each step is arbitrary. -/
inductive Reachable : Overlay → Prop where
  | create {d : Disk} {base : Location} {home root : Text} {o : Overlay} :
      (∀ n ∈ base, IsName n) → create d base home root = .ok o → Reachable o
  | read {o : Overlay} (d : Disk) (path : Text) : Reachable o → Reachable (o.read d path).2
  | write {o : Overlay} (d : Disk) (path content : Text) : Reachable o →
      Reachable (o.write d path content).2
  | discard {o : Overlay} : Reachable o → Reachable o.discard
  | commit {o : Overlay} (d : Disk) : Reachable o → Reachable (o.commit d).2.1

/-- The root and the locations of all files are made of names, and the files can be opened. -/
structure Keyed (o : Overlay) : Prop where
  root : ∀ n ∈ o.guard.root, IsName n
  names : ∀ p ∈ o.entries, ∀ n ∈ p.1, IsName n
  short : ∀ p ∈ o.entries, Text.size p.1.display < Disk.maxPath

theorem mem_insertEntry {l : Location} {e : Entry} {es : List (Location × Entry)}
    {p : Location × Entry} (h : p ∈ insertEntry l e es) : p = (l, e) ∨ p ∈ es := by
  fun_induction insertEntry l e es with
  | case1 => exact .inl (List.mem_singleton.mp h)
  | case2 m f rest _ => exact List.mem_cons.mp h
  | case3 m f rest _ =>
    obtain h | h := List.mem_cons.mp h
    · exact .inl h
    · exact .inr (List.mem_cons_of_mem _ h)
  | case4 m f rest _ ih =>
    obtain h | h := List.mem_cons.mp h
    · exact .inr (h ▸ List.mem_cons_self)
    · obtain h | h := ih h
      · exact .inl h
      · exact .inr (List.mem_cons_of_mem _ h)

theorem mem_of_get? {o : Overlay} {l : Location} {e : Entry} (h : o.get? l = some e) :
    (l, e) ∈ o.entries := by
  obtain ⟨front, rest, hentries, -⟩ := List.lookup_eq_some_iff.mp h
  simp [hentries]

theorem Keyed.key {o : Overlay} (h : o.Keyed) (path : Text) : ∀ n ∈ o.key path, IsName n := by
  refine Location.isName_of_mem_follow (fun n hn => ?_) fun n hn => (Path.isName_of_mem_parse hn).1
  split at hn
  · cases hn
  · exact h.root n hn

theorem Keyed.insert {o : Overlay} (h : o.Keyed) {l : Location} (hl : ∀ n ∈ l, IsName n)
    (hshort : Text.size l.display < Disk.maxPath) (e : Entry) : (o.insert l e).Keyed := by
  refine ⟨h.root, fun p hp => ?_, fun p hp => ?_⟩
  · obtain rfl | hp := mem_insertEntry hp
    · exact hl
    · exact h.names p hp
  · obtain rfl | hp := mem_insertEntry hp
    · exact hshort
    · exact h.short p hp

private theorem Keyed.read {o : Overlay} (h : o.Keyed) (d : Disk) (path : Text) :
    (o.read d path).2.Keyed := by
  simp only [Overlay.read]
  split
  · exact h
  · split
    case h_1 t ht =>
      exact h.insert (h.key path) (Disk.size_of_readText ht (by simp) (by simp)) _
    case h_2 => exact h

private theorem Keyed.write {o : Overlay} (h : o.Keyed) (d : Disk) (path content : Text) :
    (o.write d path content).2.Keyed := by
  simp only [Overlay.write]
  split
  · exact h
  · split
    case h_1 e he => exact h.insert (h.key path) (h.short _ (mem_of_get? he)) _
    case h_2 =>
      split
      case h_1 t ht =>
        exact h.insert (h.key path) (Disk.size_of_readText ht (by simp) (by simp)) _
      case h_2 ht =>
        exact h.insert (h.key path) (Disk.size_of_readText ht (by simp) (by simp)) _
      case h_3 => exact h

private theorem Keyed.commit {o : Overlay} (h : o.Keyed) (d : Disk) : (o.commit d).2.1.Keyed := by
  simp only [Overlay.commit]
  split
  · exact h
  · exact h
  · split
    · exact h
    · refine ⟨h.root, fun p hp => ?_, fun p hp => ?_⟩
      · obtain ⟨q, hq, rfl⟩ := List.mem_map.mp hp
        exact h.names q hq
      · obtain ⟨q, hq, rfl⟩ := List.mem_map.mp hp
        exact h.short q hq

theorem keyed_of_create {d : Disk} {base : Location} {home root : Text} {o : Overlay}
    (h : create d base home root = .ok o)
    (hbase : (Path.parse root).absolute = false → ∀ n ∈ base, IsName n) : o.Keyed := by
  simp only [create, Guard.create] at h
  split at h
  case h_1 g hg =>
    cases h
    split at hg
    case h_1 => cases hg
    case h_2 l hroot =>
      cases hg
      exact ⟨Disk.isName_of_canonicalize hroot hbase, by simp, by simp⟩
  case h_2 => cases h

theorem Reachable.keyed {o : Overlay} (h : o.Reachable) : o.Keyed := by
  induction h with
  | create hbase hcreate => exact keyed_of_create hcreate fun _ => hbase
  | read d path _ ih => exact ih.read d path
  | write d path content _ ih => exact ih.write d path content
  | discard _ ih => exact ⟨ih.root, by simp [Overlay.discard], by simp [Overlay.discard]⟩
  | commit d _ ih => exact ih.commit d

theorem reachable_stage {d : Disk} {base : Location} {home root : Text} {o o' : Overlay}
    (hbase : ∀ n ∈ base, IsName n) (h : create d base home root = .ok o)
    (files : List (Text × Text))
    (hfiles : files.foldl (fun o file => (o.write d file.1 file.2).2) o = o') : o'.Reachable := by
  have ho : o.Reachable := .create hbase h
  clear h
  induction files generalizing o with
  | nil => exact hfiles ▸ ho
  | cons file files ih => exact ih hfiles (ho.write d file.1 file.2)

end Overlay
end Graft
