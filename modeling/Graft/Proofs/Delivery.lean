import Graft.Proofs.Isolation

/-!
# Commits of operations

Operations stage texts for scripts they have read, where the guard lets them write. As long as the
disk stays as it is, each of these scripts is still a file at an accepted place. So the commit finds
all places and meets no obstacle at any of them, and everything staged lands.
-/
namespace Graft

open Graft.Path (IsName)

private theorem Disk.file_of_readText {d : Disk} {base : Location} {t c : Text}
    (h : d.readText base t = .ok c) :
    ∃ l x, d.canonicalize base t = .ok l ∧ d.get? l = some (.file (.text c) x) := by
  rw [readText, reach] at h
  split at h
  case isTrue => cases h
  case isFalse =>
    cases hcanonical : d.canonicalize base t with
    | error f =>
      rw [hcanonical] at h
      cases h
    | ok l =>
      simp only [hcanonical, bind, Except.bind] at h
      split at h
      case h_1 content x hget =>
        cases h
        exact ⟨l, x, rfl, hget⟩
      all_goals cases h

namespace Overlay

/-- All files of the overlay are on the disk as they were read, and those that are staged may be
written. -/
structure Grounded (d : Disk) (o : Overlay) : Prop where
  keyed : o.Keyed
  read : ∀ p ∈ o.entries, ∃ t, p.2.saved = some t ∧ onDisk d p.1 = .ok t
  allowed : ∀ p ∈ o.staged, ∃ t, o.guard.validate d p.1.display = .ok t

/-! ## Reading and writing -/

section
variable {d : Disk} {o : Overlay}

private theorem Grounded.insert (h : Grounded d o) {l : Location} {e : Entry} {t : Text}
    (hl : ∀ n ∈ l, IsName n) (hsaved : e.saved = some t) (hdisk : onDisk d l = .ok t)
    (hallowed : e.isDirty = true → ∃ m, o.guard.validate d l.display = .ok m) :
    Grounded d (o.insert l e) := by
  have hshort : Text.size l.display < Disk.maxPath :=
    Disk.size_of_readText hdisk (by simp) (by simp)
  refine ⟨h.keyed.insert hl hshort e, ?_, ?_⟩
  · intro p hp
    obtain rfl | hp := mem_insertEntry hp
    · exact ⟨t, hsaved, hdisk⟩
    · exact h.read p hp
  · intro p hp
    obtain ⟨hmem, hdirty⟩ := List.mem_filter.mp hp
    obtain rfl | hmem := mem_insertEntry hmem
    · exact hallowed hdirty
    · exact h.allowed p (List.mem_filter.mpr ⟨hmem, hdirty⟩)

private theorem Grounded.exists_file (h : Grounded d o) {p : Location × Entry} (hp : p ∈ o.staged) :
    ∃ t c x, o.guard.validate d p.1.display = .ok t ∧ d.get? t = some (.file c x) := by
  obtain ⟨t, hvalid⟩ := h.allowed p hp
  obtain ⟨c, -, hdisk⟩ := h.read p (List.mem_filter.mp hp).1
  obtain ⟨l, x, hcanonical, hfile⟩ := Disk.file_of_readText hdisk
  obtain ⟨hnul, hcases⟩ := Guard.resolve_cases (Guard.validate_eq_ok_iff.mp hvalid).1
  rw [Guard.absolute, Path.under_display] at hnul hcases
  rw [Disk.canonicalize_absolute (Path.head?_display p.1) hnul] at hcanonical
  obtain hwalk | ⟨hnowhere, -⟩ := hcases
  · obtain rfl : l = t := Except.ok.inj (hcanonical.symm.trans hwalk)
    exact ⟨l, _, x, hvalid, hfile⟩
  · cases hcanonical.symm.trans hnowhere

private theorem exists_prepare {g : Guard} {files : List (Location × Entry)}
    (h : ∀ p ∈ files, ∃ t, g.validate d p.1.display = .ok t ∧ t ≠ []) :
    ∃ ts, prepare g d files = .ok ts := by
  induction files with
  | nil => exact ⟨[], rfl⟩
  | cons p files ih =>
    obtain ⟨t, hvalid, hne⟩ := h p List.mem_cons_self
    obtain ⟨ts, hts⟩ := ih fun q hq => h q (List.mem_cons_of_mem _ hq)
    have hplace : d.IsPlace t :=
      (Guard.isPlace_of_resolve (Guard.validate_eq_ok_iff.mp hvalid).1).1
    have hparent : d.isDirectory t.dropLast = true := (hplace.dropLast hne).2
    refine ⟨(t, p.2.current) :: ts, ?_⟩
    simp [prepare, hvalid, hne, hparent, hts, Except.map]

/-- On the disk that the files were read from, their commit succeeds. -/
theorem Grounded.commit (h : Grounded d o) (hd : d.NulFree) :
    ∃ written o' d', o.commit d = (.ok written, o', d') ∧ Landed o o' d d' := by
  obtain ⟨f, hprepare, -⟩ | ⟨ts, o', hbound, hpatched, hcommit, hsettled⟩ |
    ⟨a, u, b, f, hbound, hpatched, -, hstopped⟩ := o.commit_cases d
  · have hplaces : ∀ p ∈ o.staged, ∃ t, o.guard.validate d p.1.display = .ok t ∧ t ≠ [] := by
      intro p hp
      obtain ⟨t, c, x, hvalid, hfile⟩ := h.exists_file hp
      refine ⟨t, hvalid, ?_⟩
      rintro rfl
      simp [Disk.get?] at hfile
    obtain ⟨ts, hts⟩ := exists_prepare hplaces
    cases hprepare.symm.trans hts
  · exact ⟨_, o', _, hcommit, landed_putAll hbound hpatched h.keyed hsettled⟩
  -- where a file stands there is neither a directory nor a link
  · obtain ⟨-, p, hp, hvalid⟩ := hbound.of_mem (t := u) (by simp)
    obtain ⟨t, c, x, hvalid', hfile⟩ := h.exists_file hp
    obtain rfl : t = u.1 := Except.ok.inj (hvalid'.symm.trans hvalid)
    obtain ⟨done, rest, -, hdone, -⟩ := hbound.split
    have hobstacle := hstopped.obstacle (Guard.accepts_of_validate hd hvalid) hdone.judge hpatched
    cases hobstacle with
    | directory hdirectory => simp [Disk.isDirectory, hfile] at hdirectory
    | link hlink => cases hfile.symm.trans hlink

end

end Overlay

/-! ## Operations -/

open Overlay (Grounded)

namespace Script

end Script

namespace Recipe

end Recipe
end Graft
