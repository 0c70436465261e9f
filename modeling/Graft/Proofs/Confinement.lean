import Graft.Proofs.Commit

/-!
# Confinement

What a guard accepts lies in the workspace, but not in the caches or the output of the build tool as
they stood when the workspace was opened. Whatever has become of the disk since then, a commit
changes nothing outside.
-/
namespace Graft

/-- A location in the workspace at `root` that is not in a cache or in the output of the build tool.
These are as found on the disk `d` at opening. -/
structure Confined (d : Disk) (base : Location) (home : Text) (root l : Location) : Prop where
  within : root <+: l
  outside : ∀ c ∈ [Path.under home ".gradle".toList, Path.under root.display ".gradle".toList,
      Path.under root.display "build".toList],
    ∀ f, d.canonicalize base c = .ok f → ¬ f <+: l

namespace Guard

section
variable {d₀ : Disk} {base : Location} {home root : Text} {g : Guard}

private theorem canonicalize_of_create (h : create d₀ base home root = .ok g) :
    d₀.canonicalize base root = .ok g.root := by
  unfold create at h
  split at h
  case h_1 => cases h
  case h_2 r hr =>
    cases h
    exact hr

private theorem judge_eq_ok_iff_confined (h : create d₀ base home root = .ok g) {l : Location} :
    g.judge l = .ok () ↔ Confined d₀ base home g.root l := by
  unfold create at h
  split at h
  case h_1 => cases h
  case h_2 r hr =>
    cases h
    simp only [judge_eq_ok_iff, ← Bool.not_eq_true, Location.isWithin_iff]
    constructor
    · rintro ⟨hwithin, hforbidden⟩
      refine ⟨hwithin, fun c hc f hf => hforbidden f (List.mem_filterMap.mpr ⟨c, hc, ?_⟩)⟩
      rw [hf]
      rfl
    · rintro ⟨hwithin, houtside⟩
      refine ⟨hwithin, fun f hf => ?_⟩
      obtain ⟨c, hc, hcanonical⟩ := List.mem_filterMap.mp hf
      refine houtside c hc f ?_
      cases hcase : d₀.canonicalize base c with
      | error e =>
        rw [hcase] at hcanonical
        cases hcanonical
      | ok m =>
        rw [hcase] at hcanonical
        cases hcanonical
        rfl

end

/-- What a guard accepts is confined, stands in a directory that is no link, and is accepted again
under its own path. A commit changes confined locations only, and no link takes it out of the
workspace. -/
theorem writes_confined {d₀ d : Disk} {base : Location} {home root : Text} {g : Guard}
    (hopen : create d₀ base home root = .ok g) (hd : d.NulFree) :
    d₀.canonicalize base root = .ok g.root ∧
    (∀ p t, g.validate d p = .ok t ↔
      g.resolve d p = .ok t ∧ Confined d₀ base home g.root t) ∧
    (∀ p t, g.validate d p = .ok t →
      (t ≠ [] → d.canonicalize [] (Location.display t.dropLast) = .ok t.dropLast) ∧
      g.validate d t.display = .ok t) ∧
    (∀ (o : Overlay) (l : Location), o.guard = g → (o.commit d).2.2.get? l ≠ d.get? l →
      Confined d₀ base home g.root l) ∧
    ∀ (o : Overlay) (s dest : Location) (x : Text), o.guard = g → d.get? s = some (.link x) →
      d.writable Disk.maxLinks s = .ok dest → ¬ g.root <+: dest →
      (o.commit d).2.2.get? dest = d.get? dest := by
  have hcommit (o : Overlay) (l : Location) (ho : o.guard = g)
      (hl : (o.commit d).2.2.get? l ≠ d.get? l) : Confined d₀ base home g.root l :=
    (judge_eq_ok_iff_confined hopen).mp (ho ▸ o.judge_of_commit hl)
  refine ⟨canonicalize_of_create hopen, fun p t => ?_, fun p t hvalid => ?_, hcommit, ?_⟩
  · rw [validate_eq_ok_iff, judge_eq_ok_iff_confined hopen]
  · have haccepts := accepts_of_validate hd hvalid
    exact ⟨fun ht => haccepts.canonicalize_dropLast ht [], haccepts.validate⟩
  · intro o s dest x ho _ _ hdest
    by_cases hsame : (o.commit d).2.2.get? dest = d.get? dest
    · exact hsame
    · exact absurd (hcommit o dest ho hsame).within hdest

/-- A link leads out of the workspace to a name that is not there. It is accepted for itself, and a
commit puts a file in its place, not where it leads. -/
theorem writes_confined_link :
    ∃ (d₀ d : Disk) (o : Overlay), create d₀ [] "/home".toList "/ws".toList = .ok o.guard ∧
      o.guard.forbidden = [["ws".toList, "build".toList]] ∧ d.NulFree ∧
      o.guard.validate d "l".toList = .ok ["ws".toList, "l".toList] ∧
      Confined d₀ [] "/home".toList o.guard.root ["ws".toList, "l".toList] ∧
      d.writable Disk.maxLinks ["ws".toList, "l".toList] = .ok ["out".toList] ∧
      (o.commit d).1 = .ok [["ws".toList, "l".toList]] ∧
      (o.commit d).2.2.get? ["out".toList] = d.get? ["out".toList] := by
  have hopen : create
      ((Overlay.linkedDisk "/out".toList).set ["ws".toList, "build".toList] .directory)
      [] "/home".toList "/ws".toList =
        .ok ⟨["ws".toList], [["ws".toList, "build".toList]]⟩ := by cbv
  have hd : (Overlay.linkedDisk "/out".toList).NulFree := by decide
  obtain ⟨-, hvalidate, -, -, hlink⟩ := writes_confined hopen hd
  have hvalid : validate ⟨["ws".toList], [["ws".toList, "build".toList]]⟩
      (Overlay.linkedDisk "/out".toList) "l".toList = .ok ["ws".toList, "l".toList] := by cbv
  have hwritable : (Overlay.linkedDisk "/out".toList).writable Disk.maxLinks
      ["ws".toList, "l".toList] = .ok ["out".toList] := by cbv
  exact ⟨_, Overlay.linkedDisk "/out".toList, ⟨⟨["ws".toList], [["ws".toList, "build".toList]]⟩,
      [(["ws".toList, "l".toList], ⟨none, "L".toList⟩)]⟩, hopen, rfl, hd, hvalid,
    ((hvalidate _ _).mp hvalid).2, hwritable, by cbv,
    hlink _ ["ws".toList, "l".toList] _ "/out".toList rfl (by decide) hwritable (by decide)⟩

end Guard
end Graft
