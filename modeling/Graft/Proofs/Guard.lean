import Graft.Guard
import Graft.Proofs.Place

/-!
# What a guard accepts

A path that a guard resolves leads to a place for a file, and the path of that place is resolved to
the same place again. When files have been put at other places, a place that was accepted is
accepted once more, but for one case: a link that led nowhere may now lead through one of the new
files.
-/
namespace Graft

private theorem Path.fileName?_eq_some {p : Path} {n : Text} (h : p.fileName? = some n) :
    p.components = p.components.dropLast ++ [.name n] := by
  unfold fileName? at h
  split at h
  case h_1 m hm =>
    cases h
    obtain ⟨init, hinit⟩ := List.getLast?_eq_some_iff.mp hm
    rw [hinit, List.dropLast_concat]
  case h_2 => cases h

namespace Guard

open Graft.Path (Piece IsName)
open Disk (IsPlace IsReal Walks Patched maxLinks walk_eq_iff)

/-! ## Resolving -/

private theorem head?_absolute (g : Guard) (t : Text) : (g.absolute t).head? = some '/' :=
  Path.head?_under (Path.head?_display g.root) t

/-- A path is resolved to what it leads to, or to its last name in what the rest of it leads to. -/
theorem resolve_cases {g : Guard} {d : Disk} {t : Text} {l : Location}
    (h : g.resolve d t = .ok l) :
    '\x00' ∉ g.absolute t ∧
      (d.walk true maxLinks [] (Path.parse (g.absolute t)).pieces = .ok l ∨
        (d.walk true maxLinks [] (Path.parse (g.absolute t)).pieces = .error .notFound ∧
          ∃ init parent n, (Path.parse (g.absolute t)).components = init ++ [.name n] ∧
            d.walk true maxLinks [] init = .ok parent ∧ l = parent ++ [n])) := by
  have hhead := g.head?_absolute t
  generalize hwhole : g.absolute t = whole at hhead
  simp only [resolve, hwhole] at h
  by_cases hnul : '\x00' ∈ whole
  · rw [Disk.canonicalize_of_nul hnul] at h
    cases h
  rw [Disk.canonicalize_absolute hhead hnul] at h
  refine ⟨hnul, ?_⟩
  split at h
  case h_1 m hwalk =>
    cases h
    exact .inl hwalk
  case h_2 hwalk =>
    split at h
    case h_1 => cases h
    case h_2 n hn =>
      split at h
      case h_1 parent hparent =>
        cases h
        exact .inr ⟨hwalk, _, parent, n, Path.fileName?_eq_some hn, hparent, rfl⟩
      case h_2 => cases h
  case h_3 => cases h

theorem isPlace_of_resolve {g : Guard} {d : Disk} {t : Text} {l : Location}
    (h : g.resolve d t = .ok l) : d.IsPlace l ∧ (d.NulFree → ∀ n ∈ l, '\x00' ∉ n) := by
  have hhead := g.head?_absolute t
  obtain ⟨hnul, hcases⟩ := resolve_cases h
  generalize g.absolute t = whole at hhead hnul hcases
  have hnames {n : Text} (hn : Piece.name n ∈ (Path.parse whole).pieces) :
      IsName n ∧ '\x00' ∉ n := by
    obtain ⟨hname, hchars⟩ := Path.isName_of_mem_parse hn
    exact ⟨hname, fun hmem => hnul (hchars _ hmem)⟩
  obtain hwalk | ⟨hwalk, init, parent, name, hsplit, hparent, rfl⟩ := hcases
  · have hreal : d.IsReal l :=
      (walk_eq_iff.mp hwalk).isReal (Disk.isReal_nil d) fun n hn => (hnames hn).1
    obtain ⟨item, hget, -⟩ := hreal.item
    exact ⟨.found hreal, fun hd => hd.of_get? hget⟩
  · have habsolute : (Path.parse whole).absolute = true := by simp [Path.parse, hhead]
    have hcomponents := Path.components_of_absolute habsolute
    have hmem {n : Text} (hn : Piece.name n ∈ init ++ [.name name]) : IsName n ∧ '\x00' ∉ n := by
      rw [← hsplit, hcomponents] at hn
      exact hnames (List.mem_filter.mp hn).1
    have hreal : d.IsReal parent := (walk_eq_iff.mp hparent).isReal (Disk.isReal_nil d)
      fun n hn => (hmem (List.mem_append_left _ hn)).1
    -- without its `.` pieces the path leads nowhere just the same
    have hthin : Walks d maxLinks [] (init ++ [.name name]) (.error .notFound) := by
      rw [← hsplit, hcomponents]
      exact (walk_eq_iff.mp hwalk).thin (by simp) (Disk.thins_filter _)
    have hvacant : Walks d maxLinks parent [.name name] (.error .notFound) := by
      obtain ⟨left, hle, hrest⟩ := Disk.walk_append hparent
      have hlast := hthin.walk_eq
      rw [hrest] at hlast
      exact (walk_eq_iff.mp hlast).mono (by simp) hle
    have hlast := hmem (n := name) (by simp)
    refine ⟨.vacant hreal hlast.1 hvacant, fun hd n hn => ?_⟩
    obtain hn | hn := List.mem_append.mp hn
    · obtain ⟨item, hget, -⟩ := hreal.item
      exact hd.of_get? hget n hn
    · rw [List.mem_singleton.mp hn]
      exact hlast.2

private theorem resolve_display {g : Guard} {d : Disk} {l : Location} (h : d.IsPlace l)
    (hnul : ∀ n ∈ l, '\x00' ∉ n) : g.resolve d l.display = .ok l := by
  have hnames : ∀ n ∈ l, IsName n := fun n hn => (h.names n hn).1
  simp only [resolve, absolute, Path.under_display, Disk.canonicalize_display hnames hnul]
  cases h with
  | found hreal => rw [Disk.walk_of_isReal hreal]
  | @vacant parent n hreal _ hwalks =>
    have hnowhere : d.walk true maxLinks [] ((parent ++ [n]).map .name) = .error .notFound := by
      rw [List.map_append, Disk.walk_names (a := []) hreal]
      exact hwalks.walk_eq
    have hcomponents : (Path.parse (Location.display (parent ++ [n]))).components =
        parent.map .name ++ [.name n] := by
      rw [Path.parse_display hnames, Path.components_of_absolute rfl]
      simp
    have hname : (Path.parse (Location.display (parent ++ [n]))).fileName? = some n := by
      simp [Path.fileName?, hcomponents]
    rw [hnowhere]
    simp only [hname, hcomponents, List.dropLast_concat, Disk.walk_of_isReal hreal]

/-! ## Judging -/

theorem judge_eq_ok_iff {g : Guard} {l : Location} :
    g.judge l = .ok () ↔ l.isWithin g.root = true ∧ ∀ f ∈ g.forbidden, l.isWithin f = false := by
  unfold judge
  split
  case isTrue hout => simp_all
  case isFalse hin =>
    have hroot : l.isWithin g.root = true := by simpa using hin
    split
    case h_1 f hf =>
      have hmem := List.mem_of_find?_eq_some hf
      have hwithin := List.find?_some hf
      simp only [reduceCtorEq, false_iff, not_and, hroot, true_implies]
      intro hall
      rw [hall f hmem] at hwithin
      cases hwithin
    case h_2 hnone =>
      simp only [hroot, true_and, true_iff]
      intro f hf
      simpa using List.find?_eq_none.mp hnone f hf

theorem validate_eq_ok_iff {g : Guard} {d : Disk} {t : Text} {l : Location} :
    g.validate d t = .ok l ↔ g.resolve d t = .ok l ∧ g.judge l = .ok () := by
  unfold validate
  cases hresolve : g.resolve d t with
  | error r => simp [bind, Except.bind]
  | ok m =>
    cases hjudge : g.judge m with
    | error r =>
      simp only [bind, Except.bind, hjudge, reduceCtorEq, Except.ok.injEq, false_iff, not_and]
      rintro rfl
      simp [hjudge]
    | ok u =>
      simp only [bind, Except.bind, hjudge, pure, Except.pure, Except.ok.injEq]
      constructor
      · rintro rfl
        exact ⟨rfl, hjudge⟩
      · exact And.left

private theorem validate_eq_error {g : Guard} {d : Disk} {t : Text} {r : Refusal}
    (h : g.resolve d t = .error r) : g.validate d t = .error r := by
  simp [validate, h, bind, Except.bind]

/-- A location that the guard accepts for some path. -/
structure Accepts (g : Guard) (d : Disk) (l : Location) : Prop where
  isPlace : d.IsPlace l
  nulFree : ∀ n ∈ l, '\x00' ∉ n
  judge : g.judge l = .ok ()

theorem accepts_of_validate {g : Guard} {d : Disk} {t : Text} {l : Location} (hd : d.NulFree)
    (h : g.validate d t = .ok l) : g.Accepts d l := by
  obtain ⟨hresolve, hjudge⟩ := validate_eq_ok_iff.mp h
  obtain ⟨hplace, hnul⟩ := isPlace_of_resolve hresolve
  exact ⟨hplace, hnul hd, hjudge⟩

theorem Accepts.validate {g : Guard} {d : Disk} {l : Location} (h : g.Accepts d l) :
    g.validate d l.display = .ok l :=
  validate_eq_ok_iff.mpr ⟨resolve_display h.isPlace h.nulFree, h.judge⟩

theorem Accepts.canonicalize_dropLast {g : Guard} {d : Disk} {l : Location} (h : g.Accepts d l)
    (hl : l ≠ []) (base : Location) :
    d.canonicalize base (Location.display l.dropLast) = .ok l.dropLast := by
  obtain ⟨hreal, -⟩ := h.isPlace.dropLast hl
  rw [Disk.canonicalize_display (fun n hn => (hreal.names n hn).1)
    (fun n hn => h.nulFree n (List.dropLast_subset l hn)), Disk.walk_of_isReal hreal]

/-- Once more a location is accepted after files have been put at locations that were, unless a link
at it leads through one of the new files. -/
theorem Accepts.patched {g : Guard} {d d' : Disk} {ts : List Location} {t : Location}
    (h : g.Accepts d t) (hts : ∀ u ∈ ts, g.judge u = .ok ()) (hpatched : Patched d ts d') :
    (∃ l, g.validate d' t.display = .ok l) ∨
      ((∃ x, d.get? t = some (.link x)) ∧ ts ≠ [] ∧
        d'.canonicalize [] t.display = .error .notDirectory ∧
        g.validate d' t.display = .error (.unresolved .notDirectory)) := by
  have hcanonical (base : Location) :
      d'.canonicalize base t.display = d'.walk true maxLinks [] (t.map .name) :=
    Disk.canonicalize_display (fun n hn => (h.isPlace.names n hn).1) h.nulFree
  obtain hplace | ⟨u, hu, hwalk⟩ | ⟨hlink, hne, hwalk⟩ := hpatched.isPlace h.isPlace
  · exact .inl ⟨t, validate_eq_ok_iff.mpr ⟨resolve_display hplace h.nulFree, h.judge⟩⟩
  · refine .inl ⟨u, validate_eq_ok_iff.mpr ⟨?_, hts u hu⟩⟩
    simp only [resolve, absolute, Path.under_display, hcanonical, hwalk]
  · refine .inr ⟨hlink, hne, ?_, validate_eq_error ?_⟩
    · rw [hcanonical, hwalk]
    · simp only [resolve, absolute, Path.under_display, hcanonical, hwalk]

end Guard
end Graft
