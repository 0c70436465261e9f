import Graft.Proofs.Overlay
import Mathlib

/-!
# Commits

A commit first finds the place of every staged file and then puts the files in place one after
another. So it changes the disk at places that the guard accepts and nowhere else. Where two staged
files have one place, the later one stays there. After the first file, the commit can still fail at
a directory, or at a link that led nowhere and now leads through one of the new files; what is in
place by then stays.
-/
namespace Graft

open Graft.Path (IsName)

namespace Disk

/-- The disk with files put in place one after another. -/
def putAll (d : Disk) (ts : List (Location × Text)) : Disk :=
  ts.foldl (fun d t => d.set t.1 (.file (.text t.2) false)) d

@[simp]
theorem putAll_nil (d : Disk) : d.putAll [] = d := rfl

@[simp]
theorem putAll_cons (d : Disk) (t : Location × Text) (ts : List (Location × Text)) :
    d.putAll (t :: ts) = (d.set t.1 (.file (.text t.2) false)).putAll ts := rfl

private theorem get?_putAll {ts : List (Location × Text)} (h : ∀ t ∈ ts, t.1 ≠ []) (d : Disk)
    (m : Location) :
    (d.putAll ts).get? m =
      ((ts.reverse.find? (·.1 = m)).map fun t => .file (.text t.2) false).or (d.get? m) := by
  induction ts generalizing d with
  | nil =>
    rw [putAll_nil]
    simp
  | cons t ts ih =>
    rw [putAll_cons, ih fun u hu => h u (List.mem_cons_of_mem _ hu),
      get?_set (h t List.mem_cons_self), List.reverse_cons, List.find?_append]
    by_cases hm : t.1 = m
    · cases ts.reverse.find? (·.1 = m) <;> simp [hm]
    · simp [hm, Ne.symm hm]

/-- Where a path has led, or where it may be written, the file put there is found by it. -/
theorem Patched.canonicalize {d d' : Disk} {ts : List Location} (h : Patched d ts d')
    (hplaces : ∀ t ∈ ts, d.IsPlace t) {g : Guard} {l t : Location} (hl : ∀ n ∈ l, IsName n)
    (hresolve : g.resolve d l.display = .ok t) (ht : t ∈ ts) :
    d'.canonicalize [] l.display = .ok t := by
  obtain ⟨hnul, hcases⟩ := Guard.resolve_cases hresolve
  rw [Guard.absolute, Path.under_display] at hnul hcases
  rw [canonicalize_absolute (Path.head?_display l) hnul]
  obtain hwalk | ⟨-, init, parent, n, hcomponents, hparent, rfl⟩ := hcases
  · exact (h.walks hplaces (walk_eq_iff.mp hwalk)).walk_eq
  · have hpieces : (Path.parse l.display).pieces = init ++ [.name n] := by
      rw [← hcomponents, Path.parse_display hl, Path.components_of_absolute rfl]
      exact (List.filter_eq_self.mpr (by simp)).symm
    have hplace := hplaces _ ht
    obtain ⟨-, hdir⟩ := hplace.dropLast (by simp)
    rw [List.dropLast_concat] at hdir
    obtain ⟨c, hfile⟩ := h.file _ ht
    obtain ⟨left, -, hrest⟩ := walk_append (h.walks hplaces (walk_eq_iff.mp hparent)).walk_eq
    rw [hpieces, hrest]
    exact (Walks.enter (by rw [h.isDirectory, hdir]) (hplace.names n (by simp)).2 hfile (by simp)
      .stop).walk_eq

end Disk

namespace Overlay

open Disk (Patched)

private theorem onDisk_of_canonicalize {d : Disk} {l t : Location} {c : Text} {r : Bool}
    (hshort : Text.size l.display < Disk.maxPath) (h : d.canonicalize [] l.display = .ok t)
    (hget : d.get? t = some (.file (.text c) r)) : onDisk d l = .ok c := by
  have hlong : ¬ Disk.maxPath ≤ Text.size l.display := Nat.not_le_of_lt hshort
  simp [onDisk, Disk.readText, Disk.reach, hlong, h, hget, bind, Except.bind]

/-! ## Finding the places -/

/-- Files and, in the same order, their places with the texts that are to stand there. -/
inductive Bound (g : Guard) (d : Disk) :
    List (Location × Entry) → List (Location × Text) → Prop where
  | nil : Bound g d [] []
  | cons {p files t ts} : g.validate d p.1.display = .ok t → t ≠ [] → Bound g d files ts →
      Bound g d (p :: files) ((t, p.2.current) :: ts)

/-- Whether a location is the place of a file. -/
def leadsTo (g : Guard) (d : Disk) (m : Location) (p : Location × Entry) : Bool :=
  (g.validate d p.1.display).toOption == some m

private theorem leadsTo_iff {g : Guard} {d : Disk} {m : Location} {p : Location × Entry} :
    leadsTo g d m p = true ↔ g.validate d p.1.display = .ok m := by
  cases h : g.validate d p.1.display <;> simp [leadsTo, h, Except.toOption]

/-- The text of the last of the files that have their place at a location. -/
def landing (g : Guard) (d : Disk) (files : List (Location × Entry)) (m : Location) : Option Text :=
  (files.reverse.find? (leadsTo g d m)).map (·.2.current)

section
variable {g : Guard} {d : Disk} {files : List (Location × Entry)} {ts : List (Location × Text)}

private theorem bound_of_prepare (h : prepare g d files = .ok ts) : Bound g d files ts := by
  induction files generalizing ts with
  | nil =>
    cases h
    exact .nil
  | cons p files ih =>
    simp only [prepare] at h
    split at h
    case h_1 => cases h
    case h_2 t ht =>
      split at h
      case isTrue => cases h
      case isFalse hne =>
        split at h
        case isTrue => cases h
        case isFalse =>
          cases hrest : prepare g d files with
          | error f =>
            rw [hrest] at h
            cases h
          | ok rest =>
            rw [hrest] at h
            cases h
            exact .cons ht hne (ih hrest)

private theorem Bound.exists_of_mem (h : Bound g d files ts) {p : Location × Entry}
    (hp : p ∈ files) : ∃ t, g.validate d p.1.display = .ok t ∧ (t, p.2.current) ∈ ts := by
  induction h with
  | nil => cases hp
  | @cons q files t ts ht _ _ ih =>
    obtain rfl | hp := List.mem_cons.mp hp
    · exact ⟨t, ht, List.mem_cons_self⟩
    · obtain ⟨u, hu, hmem⟩ := ih hp
      exact ⟨u, hu, List.mem_cons_of_mem _ hmem⟩

theorem Bound.of_mem (h : Bound g d files ts) {t : Location × Text} (ht : t ∈ ts) :
    t.1 ≠ [] ∧ ∃ p ∈ files, g.validate d p.1.display = .ok t.1 := by
  induction h with
  | nil => cases ht
  | @cons q files u ts hu hne _ ih =>
    obtain rfl | ht := List.mem_cons.mp ht
    · exact ⟨hne, q, List.mem_cons_self, hu⟩
    · obtain ⟨hne, p, hp, hvalid⟩ := ih ht
      exact ⟨hne, p, List.mem_cons_of_mem _ hp, hvalid⟩

private theorem Bound.isPlace (h : Bound g d files ts) : ∀ l ∈ ts.map (·.1), d.IsPlace l := by
  intro l hl
  obtain ⟨t, ht, rfl⟩ := List.mem_map.mp hl
  obtain ⟨-, p, -, hvalid⟩ := h.of_mem ht
  exact (Guard.isPlace_of_resolve (Guard.validate_eq_ok_iff.mp hvalid).1).1

theorem Bound.judge (h : Bound g d files ts) : ∀ l ∈ ts.map (·.1), g.judge l = .ok () := by
  intro l hl
  obtain ⟨t, ht, rfl⟩ := List.mem_map.mp hl
  obtain ⟨-, p, -, hvalid⟩ := h.of_mem ht
  exact (Guard.validate_eq_ok_iff.mp hvalid).2

theorem Bound.split {a b : List (Location × Text)} (h : Bound g d files (a ++ b)) :
    ∃ done rest, files = done ++ rest ∧ Bound g d done a ∧ Bound g d rest b := by
  induction a generalizing files with
  | nil => exact ⟨[], files, rfl, .nil, h⟩
  | cons t a ih =>
    cases h with
    | @cons p files u _ hu hne h =>
      obtain ⟨done, rest, rfl, hdone, hrest⟩ := ih h
      exact ⟨p :: done, rest, rfl, .cons hu hne hdone, hrest⟩

private theorem Bound.landing (h : Bound g d files ts) (m : Location) :
    landing g d files m = (ts.reverse.find? (·.1 = m)).map (·.2) := by
  induction h with
  | nil => rfl
  | @cons p files t ts ht _ _ ih =>
    rw [Overlay.landing] at ih ⊢
    rw [List.reverse_cons, List.reverse_cons, List.find?_append, List.find?_append, Option.map_or,
      Option.map_or, ih]
    have hleads : leadsTo g d m p = decide (t = m) := by
      rw [Bool.eq_iff_iff, leadsTo_iff, ht, decide_eq_true_iff, Except.ok.injEq]
    by_cases hm : t = m <;> simp [hleads, hm]

private theorem Bound.get?_putAll (h : Bound g d files ts) (m : Location) :
    (d.putAll ts).get? m =
      ((Overlay.landing g d files m).map fun c => .file (.text c) false).or (d.get? m) := by
  rw [Disk.get?_putAll (fun t ht => (h.of_mem ht).1), h.landing, Option.map_map]
  rfl

end

/-! ## Putting the files in place -/

/-- What stops files from being put in place: `f` is reported for the location `t`. -/
inductive Stopped (g : Guard) (d : Disk) (t : Location) : Failure → Prop where
  | directory : d.isDirectory t = true → Stopped g d t (.fault t .isDirectory)
  | refused {r} : g.validate d t.display = .error r → Stopped g d t (.refused r)

/-- The files are put in place up to one that is stopped, each of them in place of no directory. -/
theorem install_cases {g : Guard} {d₀ d : Disk} {done : List Location}
    (hpatched : Patched d₀ done d) {ts : List (Location × Text)} (hts : ∀ t ∈ ts, t.1 ≠ []) :
    (install g d ts = (.ok (), d.putAll ts) ∧
      Patched d₀ (done ++ ts.map (·.1)) (d.putAll ts)) ∨
    ∃ a t b f, ts = a ++ t :: b ∧ install g d ts = (.error f, d.putAll a) ∧
      Patched d₀ (done ++ a.map (·.1)) (d.putAll a) ∧ Stopped g (d.putAll a) t.1 f := by
  induction ts generalizing d done with
  | nil => exact .inl ⟨rfl, by simpa using hpatched⟩
  | cons t ts ih =>
    cases hvalid : g.validate d t.1.display with
    | error r =>
      exact .inr ⟨[], t, ts, .refused r, rfl, by simp [install, hvalid], by simpa using hpatched,
        .refused hvalid⟩
    | ok l =>
      cases hdir : d.isDirectory t.1 with
      | true =>
        exact .inr ⟨[], t, ts, .fault t.1 .isDirectory, rfl,
          by simp [install, hvalid, Disk.replaceFile, hdir, Failure.ofFault],
          by simpa using hpatched, .directory hdir⟩
      | false =>
        have hstep : install g d (t :: ts) =
            install g (d.set t.1 (.file (.text t.2) false)) ts := by
          simp [install, hvalid, Disk.replaceFile, hdir]
        have hplain : d₀.isDirectory t.1 = false := by rw [← hpatched.isDirectory, hdir]
        have hnext := hpatched.set (hts t List.mem_cons_self) hplain t.2
        obtain ⟨hok, hall⟩ | ⟨a, u, b, f, rfl, herror, hsome, hstopped⟩ :=
          ih hnext fun u hu => hts u (List.mem_cons_of_mem _ hu)
        · exact .inl ⟨by rw [hstep, hok, Disk.putAll_cons], by simpa using hall⟩
        · exact .inr ⟨t :: a, u, b, f, rfl, by rw [hstep, herror, Disk.putAll_cons],
            by simpa using hsome, by simpa using hstopped⟩

private theorem staged_settled (g : Guard) (entries : List (Location × Entry)) :
    staged ⟨g, entries.map fun (l, e) => (l, { e with saved := some e.current })⟩ = [] := by
  rw [staged, List.filter_eq_nil_iff]
  intro p hp
  obtain ⟨q, -, rfl⟩ := List.mem_map.mp hp
  simp [Entry.isDirty]

/-- A commit changes nothing at all, or it puts in place the staged files up to one that is
stopped. -/
theorem commit_cases (o : Overlay) (d : Disk) :
    (∃ f, prepare o.guard d o.staged = .error f ∧ o.commit d = (.error f, o, d)) ∨
    (∃ ts o', Bound o.guard d o.staged ts ∧ Patched d (ts.map (·.1)) (d.putAll ts) ∧
      o.commit d = (.ok (ts.map (·.1)), o', d.putAll ts) ∧ o'.staged = []) ∨
    ∃ a t b f, Bound o.guard d o.staged (a ++ t :: b) ∧
      Patched d (a.map (·.1)) (d.putAll a) ∧ o.commit d = (.error f, o, d.putAll a) ∧
      Stopped o.guard (d.putAll a) t.1 f := by
  cases hprepare : prepare o.guard d o.staged with
  | error f => exact .inl ⟨f, rfl, by simp only [commit, hprepare]⟩
  | ok ts =>
    have hbound := bound_of_prepare hprepare
    refine .inr ?_
    cases ts with
    | nil =>
      cases hstaged : o.staged with
      | nil =>
        rw [hstaged] at hbound
        exact .inl ⟨[], o, hbound, Disk.patched_nil d, by simp only [commit, hprepare]; rfl,
          hstaged⟩
      | cons p files =>
        rw [hstaged] at hbound
        cases hbound
    | cons t ts =>
      obtain ⟨hok, hall⟩ | ⟨a, u, b, f, hts, herror, hsome, hstopped⟩ :=
        install_cases (Disk.patched_nil d) (g := o.guard) fun u hu => (hbound.of_mem hu).1
      · exact .inl ⟨_, _, hbound, hall, by simp only [commit, hprepare, hok],
          staged_settled o.guard o.entries⟩
      · rw [hts] at hbound
        exact .inr ⟨a, u, b, f, hbound, hsome, by simp only [commit, hprepare, herror], hstopped⟩

theorem judge_of_commit (o : Overlay) {d : Disk} {l : Location}
    (h : (o.commit d).2.2.get? l ≠ d.get? l) : o.guard.judge l = .ok () := by
  obtain ⟨f, -, hcommit⟩ | ⟨ts, o', hbound, hpatched, hcommit, -⟩ |
    ⟨a, t, b, f, hbound, hpatched, hcommit, -⟩ := o.commit_cases d
  · rw [hcommit] at h
    exact absurd rfl h
  · rw [hcommit] at h
    exact hbound.judge l (Decidable.not_not.mp fun hmem => h (hpatched.outside l hmem))
  · rw [hcommit] at h
    obtain ⟨done, rest, -, hdone, -⟩ := hbound.split
    exact hdone.judge l (Decidable.not_not.mp fun hmem => h (hpatched.outside l hmem))

/-- Of the files with one place, the text of the last one lands. -/
theorem exists_landing {g : Guard} {d : Disk} {files : List (Location × Entry)}
    {p : Location × Entry} {t : Location} (hp : p ∈ files)
    (hvalid : g.validate d p.1.display = .ok t) :
    ∃ front q rest, files = front ++ q :: rest ∧ g.validate d q.1.display = .ok t ∧
      (∀ r ∈ rest, g.validate d r.1.display ≠ .ok t) ∧
      landing g d files t = some q.2.current := by
  have hfound : (files.reverse.find? (leadsTo g d t)).isSome = true :=
    List.find?_isSome.mpr ⟨p, List.mem_reverse.mpr hp, leadsTo_iff.mpr hvalid⟩
  obtain ⟨q, hq⟩ := Option.isSome_iff_exists.mp hfound
  obtain ⟨hleads, later, earlier, hreverse, hlater⟩ := List.find?_eq_some_iff_append.mp hq
  refine ⟨earlier.reverse, q, later.reverse, ?_, leadsTo_iff.mp hleads, fun r hr hvalid => ?_, ?_⟩
  · rw [List.reverse_eq_iff.mp hreverse]
    simp
  · have hno := hlater r (List.mem_reverse.mp hr)
    rw [leadsTo_iff.mpr hvalid] at hno
    cases hno
  · rw [landing, hq]
    rfl

/-! ## What a commit leaves behind -/

/-- Why no file can be put at the place `t` that the guard accepted on the disk `d`, when the disk
has become `d'`. -/
inductive Obstacle (d d' : Disk) (t : Location) : Failure → Prop where
  | directory : d.isDirectory t = true → Obstacle d d' t (.fault t .isDirectory)
  /-- A link that led nowhere leads through one of the new files. -/
  | link {x} : d.get? t = some (.link x) → d'.canonicalize [] t.display = .error .notDirectory →
      Obstacle d d' t (.refused (.unresolved .notDirectory))

theorem Stopped.obstacle {g : Guard} {d d' : Disk} {ts : List Location} {t : Location} {f : Failure}
    (h : Stopped g d' t f) (ht : g.Accepts d t) (hts : ∀ u ∈ ts, g.judge u = .ok ())
    (hpatched : Patched d ts d') : Obstacle d d' t f := by
  cases h with
  | directory hdir =>
    rw [hpatched.isDirectory] at hdir
    exact .directory hdir
  | refused hrefused =>
    obtain ⟨l, hok⟩ | ⟨⟨x, hlink⟩, -, hnowhere, herror⟩ := ht.patched hts hpatched
    · cases hrefused.symm.trans hok
    · cases hrefused.symm.trans herror
      exact .link hlink hnowhere

/-- A commit stopped on the way: exactly the staged files before one that met an obstacle are in
place, at least one of them. -/
def CutShort (o : Overlay) (d d' : Disk) (f : Failure) : Prop :=
  ∃ done p rest t, o.staged = done ++ p :: rest ∧ done ≠ [] ∧
    (∀ m, d'.get? m =
      ((landing o.guard d done m).map fun c => .file (.text c) false).or (d.get? m)) ∧
    o.guard.validate d p.1.display = .ok t ∧ Obstacle d d' t f

/-- A commit that fails leaves the overlay as it is, and the disk as well unless it was cut
short. -/
theorem commit_error_leaves {o o' : Overlay} {d d' : Disk} {f : Failure} (hd : d.NulFree)
    (h : o.commit d = (.error f, o', d')) : o' = o ∧ (d' = d ∨ CutShort o d d' f) := by
  obtain ⟨f', -, hcommit⟩ | ⟨ts, o₁, -, -, hcommit, -⟩ |
    ⟨a, t, b, f', hbound, hpatched, hcommit, hstopped⟩ := o.commit_cases d
  · cases hcommit.symm.trans h
    exact ⟨rfl, .inl rfl⟩
  · cases hcommit.symm.trans h
  · cases hcommit.symm.trans h
    refine ⟨rfl, ?_⟩
    obtain ⟨done, files, hstaged, hdone, hrest⟩ := hbound.split
    cases hrest with
    | @cons p rest u _ hvalid _ _ =>
      by_cases hnil : done = []
      · subst hnil
        cases hdone
        exact .inl rfl
      · exact .inr ⟨done, p, rest, u, hstaged, hnil, hdone.get?_putAll, hvalid,
          hstopped.obstacle (Guard.accepts_of_validate hd hvalid) hdone.judge hpatched⟩

/-- A workspace `ws` with a file `f` and a link `l`. -/
def linkedDisk (target : Text) : Disk :=
  ⟨[(["ws".toList], .directory), (["ws".toList, "f".toList], .file (.text "f".toList) false),
    (["ws".toList, "l".toList], .link target)]⟩

theorem create_linkedDisk (target : Text) :
    create (linkedDisk target) [] "/home".toList "/ws".toList = .ok ⟨⟨["ws".toList], []⟩, []⟩ := by
  cbv

/-- The link leads through a new file that is staged as well. -/
theorem commit_error_leaves_link :
    ∃ (o : Overlay) (d' : Disk) (f : Failure), (linkedDisk "k/x".toList).NulFree ∧
      o.commit (linkedDisk "k/x".toList) = (.error f, o, d') ∧ d' ≠ linkedDisk "k/x".toList ∧
      CutShort o (linkedDisk "k/x".toList) d' f := by
  have hrun : ∃ (o : Overlay) (d' : Disk) (f : Failure),
      o.commit (linkedDisk "k/x".toList) = (.error f, o, d') ∧ d' ≠ linkedDisk "k/x".toList :=
    ⟨⟨⟨["ws".toList], []⟩, [(["ws".toList, "k".toList], ⟨none, "K".toList⟩),
      (["ws".toList, "l".toList], ⟨none, "L".toList⟩)]⟩, _, _, by cbv, by decide⟩
  obtain ⟨o, d', f, hcommit, hne⟩ := hrun
  have hd : (linkedDisk "k/x".toList).NulFree := by decide
  have h := commit_error_leaves hd hcommit
  exact ⟨o, d', f, hd, hcommit, hne, h.2.resolve_left hne⟩

/-- When the link gives way to a directory after texts have been staged, the commit fails there and
leaves the other text on the disk. -/
theorem commit_error_changes_disk :
    ∃ (o : Overlay) (d d' : Disk) (f : Failure), o.Reachable ∧ d.NulFree ∧
      o.commit d = (.error f, o, d') ∧ ∃ l, d'.get? l ≠ d.get? l := by
  have hreachable : Reachable ⟨⟨["ws".toList], []⟩,
      [(["ws".toList, "f".toList], ⟨some "f".toList, "F".toList⟩),
        (["ws".toList, "l".toList], ⟨none, "L".toList⟩)]⟩ :=
    reachable_stage (by simp) (create_linkedDisk "m".toList)
      [("f".toList, "F".toList), ("l".toList, "L".toList)] (by cbv)
  exact ⟨_, (linkedDisk "m".toList).set ["ws".toList, "l".toList] .directory, _, _, hreachable,
    by decide, by cbv, ["ws".toList, "f".toList], by decide⟩

/-- What a commit from `d` to `d'` does to the overlay `o` and to the disk. -/
structure Landed (o o' : Overlay) (d d' : Disk) : Prop where
  /-- Under its path each staged file has the text of the last one with the same place. -/
  found : ∀ p ∈ o.staged, ∃ front q rest t, o.staged = front ++ q :: rest ∧
    o.guard.validate d p.1.display = .ok t ∧ o.guard.validate d q.1.display = .ok t ∧
    (∀ r ∈ rest, o.guard.validate d r.1.display ≠ .ok t) ∧ onDisk d' p.1 = .ok q.2.current
  settled : o'.staged = []
  kept : ∀ m, (∀ p ∈ o.staged, o.guard.validate d p.1.display ≠ .ok m) → d'.get? m = d.get? m

section
variable {o o' : Overlay} {d : Disk} {ts : List (Location × Text)}

private theorem Bound.onDisk_putAll (hbound : Bound o.guard d o.staged ts)
    (hpatched : Patched d (ts.map (·.1)) (d.putAll ts)) (ho : o.Keyed) {p : Location × Entry}
    (hp : p ∈ o.staged) {t : Location} (hvalid : o.guard.validate d p.1.display = .ok t) {c : Text}
    (hlanding : Overlay.landing o.guard d o.staged t = some c) :
    onDisk (d.putAll ts) p.1 = .ok c := by
  obtain ⟨u, hu, hmem⟩ := hbound.exists_of_mem hp
  obtain rfl : u = t := Except.ok.inj (hu.symm.trans hvalid)
  have hentry : p ∈ o.entries := (List.mem_filter.mp hp).1
  have hcanonical : (d.putAll ts).canonicalize [] p.1.display = .ok u :=
    hpatched.canonicalize hbound.isPlace (ho.names p hentry)
      (Guard.validate_eq_ok_iff.mp hvalid).1 (List.mem_map_of_mem hmem)
  have hfile : (d.putAll ts).get? u = some (.file (.text c) false) := by
    rw [hbound.get?_putAll, hlanding]
    rfl
  exact onDisk_of_canonicalize (ho.short p hentry) hcanonical hfile

theorem landed_putAll (hbound : Bound o.guard d o.staged ts)
    (hpatched : Patched d (ts.map (·.1)) (d.putAll ts)) (ho : o.Keyed) (hsettled : o'.staged = []) :
    Landed o o' d (d.putAll ts) := by
  constructor
  case found =>
    intro p hp
    obtain ⟨t, hvalid, -⟩ := hbound.exists_of_mem hp
    obtain ⟨front, q, rest, hstaged, hq, hlast, hlanding⟩ := exists_landing hp hvalid
    exact ⟨front, q, rest, t, hstaged, hvalid, hq, hlast,
      hbound.onDisk_putAll hpatched ho hp hvalid hlanding⟩
  case settled => exact hsettled
  case kept =>
    intro m hm
    apply hpatched.outside
    intro hmem
    obtain ⟨t, ht, rfl⟩ := List.mem_map.mp hmem
    obtain ⟨-, p, hp, hvalid⟩ := hbound.of_mem ht
    exact hm p hp hvalid

end

theorem commit_ok_lands {o o' : Overlay} {d d' : Disk} {written : List Location}
    (ho : o.Reachable) (h : o.commit d = (.ok written, o', d')) : Landed o o' d d' := by
  obtain ⟨f', -, hcommit⟩ | ⟨ts, o₁, hbound, hpatched, hcommit, hsettled⟩ |
    ⟨a, t, b, f', -, -, hcommit, -⟩ := o.commit_cases d
  · cases hcommit.symm.trans h
  · cases hcommit.symm.trans h
    exact landed_putAll hbound hpatched ho.keyed hsettled
  · cases hcommit.symm.trans h

/-- The link leads nowhere, so it is a place of its own beside the new file it names. -/
theorem commit_ok_lands_link :
    ∃ (o o' : Overlay) (d' : Disk) (written : List Location), o.Reachable ∧
      o.commit (linkedDisk "m".toList) = (.ok written, o', d') ∧ o.staged.length = 3 ∧
      Landed o o' (linkedDisk "m".toList) d' := by
  have hreachable : Reachable ⟨⟨["ws".toList], []⟩,
      [(["ws".toList, "f".toList], ⟨some "f".toList, "F".toList⟩),
        (["ws".toList, "l".toList], ⟨none, "L".toList⟩),
        (["ws".toList, "m".toList], ⟨none, "M".toList⟩)]⟩ :=
    reachable_stage (by simp) (create_linkedDisk "m".toList)
      [("f".toList, "F".toList), ("l".toList, "L".toList), ("m".toList, "M".toList)] (by cbv)
  have hrun : ∃ (o o' : Overlay) (d' : Disk) (written : List Location), o.Reachable ∧
      o.commit (linkedDisk "m".toList) = (.ok written, o', d') ∧ o.staged.length = 3 :=
    ⟨_, _, _, _, hreachable, by cbv, by decide⟩
  obtain ⟨o, o', d', written, ho, hcommit, hlength⟩ := hrun
  exact ⟨o, o', d', written, ho, hcommit, hlength, commit_ok_lands ho hcommit⟩

/-- The link leads to the file: the commit succeeds, but the text staged for the file is lost. -/
theorem commit_ok_loses_text :
    ∃ (o o' : Overlay) (d d' : Disk) (written : List Location), o.Reachable ∧ d.NulFree ∧
      o.commit d = (.ok written, o', d') ∧
      ∃ p ∈ o.staged, ∃ c, onDisk d' p.1 = .ok c ∧ c ≠ p.2.current := by
  have hreachable : Reachable ⟨⟨["ws".toList], []⟩,
      [(["ws".toList, "f".toList], ⟨some "f".toList, "F".toList⟩),
        (["ws".toList, "l".toList], ⟨some "f".toList, "L".toList⟩)]⟩ :=
    reachable_stage (by simp) (create_linkedDisk "f".toList)
      [("f".toList, "F".toList), ("l".toList, "L".toList)] (by cbv)
  exact ⟨_, _, linkedDisk "f".toList, _, _, hreachable, by decide, by cbv,
    (["ws".toList, "f".toList], ⟨some "f".toList, "F".toList⟩), by decide, "L".toList, by cbv,
    by decide⟩

end Overlay
end Graft
