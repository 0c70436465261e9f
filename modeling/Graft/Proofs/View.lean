import Graft.Proofs.Contents
import Graft.Script

/-!
# What an overlay shows

Reading a file for the first time leaves an entry in the overlay, which holds what is on the disk
anyway. The view of an overlay puts such entries in for all files at once, so that it stays the same
when files are read. All that an overlay answers can be told from its view, for any overlay on any
disk, and so can what work on a script does to it.
-/
namespace Graft

namespace Overlay

/-! ## Views -/

/-- The entry of a file, or else the one that reading the file would make. -/
def view (d : Disk) (o : Overlay) (l : Location) : Option Entry :=
  (o.get? l).or ((onDisk d l).toOption.map fun t => ⟨some t, t⟩)

section
variable (d : Disk) (o : Overlay)

private theorem view_insert (l : Location) (e : Entry) :
    (o.insert l e).view d = Function.update (o.view d) l (some e) := by
  funext m
  by_cases h : m = l
  · subst h
    simp [view, get?_insert]
  · simp [view, get?_insert, h]

private theorem read_eq (path : Text) :
    (o.read d path).1 = match o.view d (o.key path) with
      | some e => .ok e.current
      | none => (onDisk d (o.key path)).mapError (.ofFault (o.key path)) := by
  simp only [read, view]
  cases o.get? (o.key path) with
  | some e => rfl
  | none => cases onDisk d (o.key path) <;> rfl

private theorem view_read (path : Text) : (o.read d path).2.view d = o.view d := by
  simp only [read]
  cases hget : o.get? (o.key path) with
  | some e => rfl
  | none =>
    cases hdisk : onDisk d (o.key path) with
    | error f => rfl
    | ok t =>
      rw [view_insert]
      refine Function.update_eq_self_iff.mpr ?_
      simp [view, hget, hdisk, Except.toOption]

private theorem write_eq (path content : Text) :
    o.write d path content = match o.guard.validate d (o.key path).display with
      | .error r => (.error (.refused r), o)
      | .ok _ =>
        match o.view d (o.key path), onDisk d (o.key path) with
        | some e, _ => (.ok (), o.insert (o.key path) { e with current := content })
        | none, .error .notFound => (.ok (), o.insert (o.key path) ⟨none, content⟩)
        | none, .error f => (.error (.ofFault (o.key path) f), o)
        | none, .ok t => (.ok (), o.insert (o.key path) ⟨some t, content⟩) := by
  simp only [write, view]
  cases o.guard.validate d (o.key path).display with
  | error r => rfl
  | ok _ =>
    cases o.get? (o.key path) with
    | some e => rfl
    | none =>
      cases onDisk d (o.key path) with
      | ok t => rfl
      | error f => cases f <;> rfl

private theorem write_of_error {path content : Text} {f : Failure}
    (h : (o.write d path content).1 = .error f) : (o.write d path content).2 = o := by
  rw [write_eq] at h ⊢
  split at h
  · rfl
  · split at h
    case h_3 => rfl
    all_goals cases h

end

/-! ## Sorted entries -/

section
variable {d : Disk} {o : Overlay}

private theorem Sorted.read (h : Sorted o.entries) (path : Text) :
    Sorted (o.read d path).2.entries := by
  simp only [Overlay.read]
  split
  · exact h
  · split
    · exact h.insertEntry _ _
    · exact h

private theorem Sorted.write (h : Sorted o.entries) (path content : Text) :
    Sorted (o.write d path content).2.entries := by
  simp only [Overlay.write]
  split
  · exact h
  · split
    · exact h.insertEntry _ _
    · split
      · exact h.insertEntry _ _
      · exact h.insertEntry _ _
      · exact h

private theorem Sorted.commit (h : Sorted o.entries) : Sorted (o.commit d).2.1.entries := by
  simp only [Overlay.commit]
  split
  · exact h
  · exact h
  · split
    · exact h
    · exact List.pairwise_map.mpr h

theorem Reachable.sorted (h : o.Reachable) : Sorted o.entries := by
  induction h with
  | @create d base home root o _ hcreate =>
    obtain ⟨-, -, hreflects⟩ := agrees_create hcreate d
    exact hreflects.sorted
  | read d path _ ih => exact ih.read path
  | write d path content _ ih => exact ih.write path content
  | discard _ _ => exact List.Pairwise.nil
  | commit d _ ih => exact ih.commit

/-- What is staged are the files whose entries in the view differ from the disk. -/
theorem mem_staged_iff_view (h : Sorted o.entries) {l : Location} {e : Entry} :
    (l, e) ∈ o.staged ↔ o.view d l = some e ∧ e.isDirty = true := by
  rw [staged, List.mem_filter, h.mem_iff]
  change o.get? l = some e ∧ e.isDirty = true ↔ _
  refine and_congr_left fun hdirty => ?_
  rw [view]
  cases o.get? l with
  | some f => simp
  | none =>
    -- an entry that only shows the disk is not dirty
    refine iff_of_false (by simp) ?_
    rintro hview
    obtain ⟨t, -, rfl⟩ := Option.map_eq_some_iff.mp (Option.none_or.symm.trans hview)
    simp [Entry.isDirty] at hdirty

end

/-! ## Overlays that show the same -/

/-- Two overlays that differ at most in what has been read. -/
structure Alike (d : Disk) (o o' : Overlay) : Prop where
  guard : o.guard = o'.guard
  sorted : Sorted o.entries
  sorted' : Sorted o'.entries
  view : o.view d = o'.view d

namespace Alike

variable {d : Disk} {o o' o'' : Overlay}

theorem refl (h : Sorted o.entries) : Alike d o o := ⟨rfl, h, h, rfl⟩

theorem symm (h : Alike d o o') : Alike d o' o := ⟨h.guard.symm, h.sorted', h.sorted, h.view.symm⟩

theorem trans (h : Alike d o o') (h' : Alike d o' o'') : Alike d o o'' :=
  ⟨h.guard.trans h'.guard, h.sorted, h'.sorted', h.view.trans h'.view⟩

private theorem key_eq (h : Alike d o o') (path : Text) : o.key path = o'.key path := by
  rw [key, key, h.guard]

private theorem insert (h : Alike d o o') (l : Location) (e : Entry) :
    Alike d (o.insert l e) (o'.insert l e) :=
  ⟨h.guard, h.sorted.insertEntry l e, h.sorted'.insertEntry l e,
    by rw [view_insert, view_insert, h.view]⟩

theorem staged_eq (h : Alike d o o') : o.staged = o'.staged :=
  Sorted.ext (h.sorted.filter _) (h.sorted'.filter _) fun l e => by
    rw [mem_staged_iff_view h.sorted, mem_staged_iff_view h.sorted', h.view]

theorem read_eq (h : Alike d o o') (path : Text) : (o.read d path).1 = (o'.read d path).1 := by
  rw [Overlay.read_eq, Overlay.read_eq, h.view, h.key_eq]

private theorem write (h : Alike d o o') (path content : Text) :
    (o.write d path content).1 = (o'.write d path content).1 ∧
      Alike d (o.write d path content).2 (o'.write d path content).2 := by
  rw [write_eq, write_eq, h.key_eq, h.guard, h.view]
  split
  · exact ⟨rfl, h⟩
  · split
    · exact ⟨rfl, h.insert _ _⟩
    · exact ⟨rfl, h.insert _ _⟩
    · exact ⟨rfl, h⟩
    · exact ⟨rfl, h.insert _ _⟩

end Alike

private theorem alike_read {d : Disk} {o : Overlay} (h : Sorted o.entries) (path : Text) :
    Alike d o (o.read d path).2 :=
  ⟨(guard_read o d path).symm, h, h.read path, (view_read d o path).symm⟩

theorem Reflects.alike {d : Disk} {w : Ledger} {o o' : Overlay} (h : Reflects d w o)
    (h' : Reflects d w o') (hguard : o.guard = o'.guard) : Alike d o o' := by
  have hview {o : Overlay} (h : Reflects d w o) (l : Location) : o.view d l =
      ((w l).map fun t => ⟨(onDisk d l).toOption, t⟩).or
        ((onDisk d l).toOption.map fun t => ⟨some t, t⟩) := by
    rw [view]
    cases hget : o.get? l with
    | none =>
      cases hw : w l with
      | none => rfl
      | some t =>
        obtain ⟨e, he⟩ := h.kept l t hw
        cases hget.symm.trans he
    | some e =>
      obtain ⟨hholds, hentry⟩ := h.found l e hget
      obtain ⟨saved, current⟩ := e
      have hsaved : (onDisk d l).toOption = saved := by
        cases saved <;> rw [show onDisk d l = _ from hholds] <;> rfl
      cases hw : w l with
      | none =>
        obtain rfl : saved = some current := by simpa [hw] using hentry
        simp [hsaved]
      | some t =>
        obtain rfl : t = current := by simpa [hw] using hentry
        simp [hsaved]
  exact ⟨hguard, h.sorted, h'.sorted, funext fun l => by rw [hview h, hview h']⟩

end Overlay

/-! ## Work on scripts -/

namespace Script

open Overlay (Alike Sorted alike_read)

variable {d : Disk} {o o' : Overlay} (s : Script)

private theorem alike_document (h : Sorted o.entries) : Alike d o (s.document d o).2 := by
  have hread := alike_read (d := d) h s.path
  rw [document]
  split
  · exact .refl h
  · split
    case h_1 hfail => exact (congrArg Prod.snd hfail) ▸ hread
    case h_2 hok => exact (congrArg Prod.snd hok) ▸ hread

theorem document_eq_of_alike (h : Alike d o o') : (s.document d o).1 = (s.document d o').1 := by
  have hread := h.read_eq s.path
  rw [document, document]
  cases s.parser.probe with
  | error e => rfl
  | ok u =>
    generalize o.read d s.path = r at hread
    generalize o'.read d s.path = r' at hread
    obtain ⟨a, p⟩ := r
    obtain ⟨a', q⟩ := r'
    obtain rfl : a = a' := hread
    cases a <;> rfl

variable (pattern : Pattern) (properties : List Property) (hash : Text → UInt64)

/-- An injection cannot tell overlays apart that show the same, nor can one after it. -/
theorem inject_of_alike (h : Alike d o o') :
    (s.inject d o pattern properties hash).1 = (s.inject d o' pattern properties hash).1 ∧
      Alike d (s.inject d o pattern properties hash).2
        (s.inject d o' pattern properties hash).2 := by
  have hdocument := s.document_eq_of_alike h
  have halike : Alike d (s.document d o).2 (s.document d o').2 :=
    ((s.alike_document h.sorted).symm.trans h).trans (s.alike_document h.sorted')
  rw [inject, inject]
  generalize s.document d o = r at hdocument halike
  generalize s.document d o' = r' at hdocument halike
  obtain ⟨a, p⟩ := r
  obtain ⟨a', q⟩ := r'
  obtain rfl : a = a' := hdocument
  cases a with
  | error e => exact ⟨rfl, halike⟩
  | ok doc =>
    simp only
    cases s.revise doc pattern properties hash with
    | error e => exact ⟨rfl, halike⟩
    | ok revised =>
      obtain ⟨plan, t⟩ := revised
      obtain ⟨hwrite, hafter⟩ := halike.write s.path t
      simp only
      split
      · exact ⟨rfl, halike⟩
      · generalize p.write d s.path t = x at hwrite hafter
        generalize q.write d s.path t = y at hwrite hafter
        obtain ⟨b, p'⟩ := x
        obtain ⟨b', q'⟩ := y
        obtain rfl : b = b' := hwrite
        cases b <;> exact ⟨rfl, hafter⟩

theorem alike_inject_of_error (h : Sorted o.entries) {e : ScriptError}
    (he : (s.inject d o pattern properties hash).1 = .error e) :
    Alike d o (s.inject d o pattern properties hash).2 := by
  have hdocument := s.alike_document (d := d) h
  rw [inject] at he ⊢
  generalize s.document d o = r at hdocument he ⊢
  obtain ⟨a, p⟩ := r
  cases a with
  | error f => exact hdocument
  | ok doc =>
    simp only at he ⊢
    cases hrevise : s.revise doc pattern properties hash with
    | error f => exact hdocument
    | ok revised =>
      obtain ⟨plan, t⟩ := revised
      simp only [hrevise] at he ⊢
      have hwrite (f : Overlay.Failure) (hf : (p.write d s.path t).1 = .error f) :
          (p.write d s.path t).2 = p := Overlay.write_of_error d p hf
      split at he
      · cases he
      · rename_i hnoop
        rw [if_neg hnoop]
        generalize p.write d s.path t = x at hwrite he ⊢
        obtain ⟨b, p'⟩ := x
        cases b with
        | error f =>
          obtain rfl : p' = p := hwrite f rfl
          exact hdocument
        | ok u => cases he

end Script
end Graft
