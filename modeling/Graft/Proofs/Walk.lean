import Graft.Disk
import Graft.Proofs.Path

/-!
# Following paths

`Walks` says how a path is followed through all links, one rule for each thing that can stand in the
way. From it come the laws of `walk`: a path is followed part by part, an answer stays the same when
more links are allowed, and what a path leads to is real, that is, no link stands on the way to it.
-/
namespace Graft.Disk

open Graft.Path (Piece IsName)

/-- The directory from which the text of a link in `here` is followed. -/
def origin (here : Location) (x : Text) : Location :=
  if (Path.parse x).absolute then [] else here

/-- Following `pieces` from `here` with at most `links` links on the way comes to the answer. -/
inductive Walks (d : Disk) : Nat → Location → List Piece → Except Fault Location → Prop where
  | stop {links here} : Walks d links here [] (.ok here)
  | blocked {links here p rest} : d.isDirectory here = false →
      Walks d links here (p :: rest) (.error .notDirectory)
  | here {links here rest r} : d.isDirectory here = true → Walks d links here rest r →
      Walks d links here (.here :: rest) r
  | up {links here rest r} : d.isDirectory here = true → Walks d links here.dropLast rest r →
      Walks d links here (.up :: rest) r
  | long {links here n rest} : d.isDirectory here = true → maxName < Text.size n →
      Walks d links here (.name n :: rest) (.error .nameTooLong)
  | missing {links here n rest} : d.isDirectory here = true → Text.size n ≤ maxName →
      d.get? (here ++ [n]) = none → Walks d links here (.name n :: rest) (.error .notFound)
  | enter {links here n rest item r} : d.isDirectory here = true → Text.size n ≤ maxName →
      d.get? (here ++ [n]) = some item → (∀ x, item ≠ .link x) →
      Walks d links (here ++ [n]) rest r → Walks d links here (.name n :: rest) r
  | tired {here n rest x} : d.isDirectory here = true → Text.size n ≤ maxName →
      d.get? (here ++ [n]) = some (.link x) →
      Walks d 0 here (.name n :: rest) (.error .tooManyLinks)
  | link {links here n rest x r} : d.isDirectory here = true → Text.size n ≤ maxName →
      d.get? (here ++ [n]) = some (.link x) →
      Walks d links (origin here x) ((Path.parse x).pieces ++ rest) r →
      Walks d (links + 1) here (.name n :: rest) r

theorem Walks.walk_eq {d : Disk} {links : Nat} {here : Location} {pieces : List Piece}
    {r : Except Fault Location} (h : Walks d links here pieces r) :
    d.walk true links here pieces = r := by
  have short {n : Text} (hn : Text.size n ≤ maxName) : ¬ maxName < Text.size n := by omega
  induction h with
  | stop => rw [walk]
  | blocked hdir => simp [walk.eq_def, hdir]
  | here hdir _ ih => simp [walk.eq_def d true _ _ (_ :: _), hdir, ih]
  | up hdir _ ih => simp [walk.eq_def d true _ _ (_ :: _), hdir, ih]
  | long hdir hn => simp [walk.eq_def, hdir, hn]
  | missing hdir hn hget => simp [walk.eq_def, hdir, short hn, hget]
  | @enter links here n rest item r hdir hn hget hitem _ ih =>
    cases item with
    | file content executable =>
      simp [walk.eq_def d true _ _ (_ :: _), hdir, short hn, hget, ih]
    | directory => simp [walk.eq_def d true _ _ (_ :: _), hdir, short hn, hget, ih]
    | link x => exact absurd rfl (hitem x)
  | tired hdir hn hget => simp [walk.eq_def, hdir, short hn, hget]
  | link hdir hn hget _ ih =>
    rw [origin] at ih
    simp [walk.eq_def d true _ _ (_ :: _), hdir, short hn, hget, ih]

private theorem walks_walk (d : Disk) (links : Nat) (here : Location) (pieces : List Piece) :
    Walks d links here pieces (d.walk true links here pieces) := by
  suffices h : ∃ r, Walks d links here pieces r by
    obtain ⟨r, hr⟩ := h
    rwa [hr.walk_eq]
  have found {l : Location} (h : ¬ (!d.isDirectory l) = true) : d.isDirectory l = true := by
    simpa using h
  induction links, here, pieces using walk.induct d true with
  | case1 links here => exact ⟨_, .stop⟩
  | case2 links here p rest h => exact ⟨_, .blocked (by simpa using h)⟩
  | case3 links here rest h ih =>
    obtain ⟨r, hr⟩ := ih
    exact ⟨r, .here (found h) hr⟩
  | case4 links here rest h ih =>
    obtain ⟨r, hr⟩ := ih
    exact ⟨r, .up (found h) hr⟩
  | case5 links here rest h n hn => exact ⟨_, .long (found h) hn⟩
  | case6 links here rest h n hn hget =>
    exact ⟨_, .missing (found h) (Nat.le_of_not_lt hn) hget⟩
  | case7 links here rest h n hn x hget hlast => simp at hlast
  | case8 here rest h n hn x hget _ => exact ⟨_, .tired (found h) (Nat.le_of_not_lt hn) hget⟩
  | case9 here rest h n hn x hget _ links path ih =>
    obtain ⟨r, hr⟩ := ih
    exact ⟨r, .link (found h) (Nat.le_of_not_lt hn) hget hr⟩
  | case10 links here rest h n hn item hitem hget ih =>
    obtain ⟨r, hr⟩ := ih
    exact ⟨r, .enter (found h) (Nat.le_of_not_lt hn) hget hitem hr⟩

theorem walk_eq_iff {d : Disk} {links : Nat} {here : Location} {pieces : List Piece}
    {r : Except Fault Location} :
    d.walk true links here pieces = r ↔ Walks d links here pieces r := by
  refine ⟨?_, Walks.walk_eq⟩
  rintro rfl
  exact walks_walk d links here pieces

/-! ## Part by part -/

private theorem Walks.append {d : Disk} {links : Nat} {here l : Location} {ps : List Piece}
    (h : Walks d links here ps (.ok l)) :
    ∃ left ≤ links, ∀ qs r, Walks d left l qs r → Walks d links here (ps ++ qs) r := by
  generalize hr : Except.ok l = r at h
  induction h with
  | @stop links here =>
    cases hr
    exact ⟨links, Nat.le_refl _, fun _ _ h => h⟩
  | blocked _ => cases hr
  | here hdir _ ih =>
    obtain ⟨left, hle, hrest⟩ := ih hr
    exact ⟨left, hle, fun qs r h => .here hdir (hrest qs r h)⟩
  | up hdir _ ih =>
    obtain ⟨left, hle, hrest⟩ := ih hr
    exact ⟨left, hle, fun qs r h => .up hdir (hrest qs r h)⟩
  | long _ _ => cases hr
  | missing _ _ _ => cases hr
  | enter hdir hn hget hitem _ ih =>
    obtain ⟨left, hle, hrest⟩ := ih hr
    exact ⟨left, hle, fun qs r h => .enter hdir hn hget hitem (hrest qs r h)⟩
  | tired _ _ _ => cases hr
  | link hdir hn hget _ ih =>
    obtain ⟨left, hle, hrest⟩ := ih hr
    refine ⟨left, by omega, fun qs r h => ?_⟩
    rw [List.cons_append]
    refine .link hdir hn hget ?_
    rw [← List.append_assoc]
    exact hrest qs r h

private theorem Walks.append_error {d : Disk} {links : Nat} {here : Location} {ps : List Piece}
    {f : Fault} (h : Walks d links here ps (.error f)) (qs : List Piece) :
    Walks d links here (ps ++ qs) (.error f) := by
  generalize hr : Except.error f = r at h
  induction h with
  | stop => cases hr
  | blocked hdir =>
    cases hr
    exact .blocked hdir
  | here hdir _ ih => exact .here hdir (ih hr)
  | up hdir _ ih => exact .up hdir (ih hr)
  | long hdir hn =>
    cases hr
    exact .long hdir hn
  | missing hdir hn hget =>
    cases hr
    exact .missing hdir hn hget
  | enter hdir hn hget hitem _ ih => exact .enter hdir hn hget hitem (ih hr)
  | tired hdir hn hget =>
    cases hr
    exact .tired hdir hn hget
  | link hdir hn hget _ ih =>
    rw [List.cons_append]
    refine .link hdir hn hget ?_
    rw [← List.append_assoc]
    exact ih hr

theorem walk_append {d : Disk} {links : Nat} {here l : Location} {ps : List Piece}
    (h : d.walk true links here ps = .ok l) :
    ∃ left ≤ links, ∀ qs, d.walk true links here (ps ++ qs) = d.walk true left l qs := by
  obtain ⟨left, hle, hrest⟩ := (walk_eq_iff.mp h).append
  exact ⟨left, hle, fun qs => (hrest qs _ (walks_walk d left l qs)).walk_eq⟩

theorem exists_of_walk_append {d : Disk} {links : Nat} {here l : Location} {ps qs : List Piece}
    (h : Walks d links here (ps ++ qs) (.ok l)) : ∃ m, Walks d links here ps (.ok m) := by
  cases hps : d.walk true links here ps with
  | ok m => exact ⟨m, walk_eq_iff.mp hps⟩
  | error f =>
    have herror := (walk_eq_iff.mp hps).append_error qs
    cases h.walk_eq.symm.trans herror.walk_eq

theorem Walks.mono {d : Disk} {links more : Nat} {here : Location} {ps : List Piece}
    {r : Except Fault Location} (h : Walks d links here ps r) (hr : r ≠ .error .tooManyLinks)
    (hle : links ≤ more) : Walks d more here ps r := by
  induction h generalizing more with
  | stop => exact .stop
  | blocked hdir => exact .blocked hdir
  | here hdir _ ih => exact .here hdir (ih hr hle)
  | up hdir _ ih => exact .up hdir (ih hr hle)
  | long hdir hn => exact .long hdir hn
  | missing hdir hn hget => exact .missing hdir hn hget
  | enter hdir hn hget hitem _ ih => exact .enter hdir hn hget hitem (ih hr hle)
  | tired _ _ _ => exact absurd rfl hr
  | link hdir hn hget _ ih =>
    obtain ⟨more, rfl⟩ : ∃ k, more = k + 1 := ⟨more - 1, by omega⟩
    exact .link hdir hn hget (ih hr (by omega))

/-- No path leads somewhere with some number of links allowed and nowhere with another. -/
theorem Walks.ne_notFound {d : Disk} {j k : Nat} {here l : Location} {ps : List Piece}
    (h : Walks d j here ps (.ok l)) : ¬ Walks d k here ps (.error .notFound) := by
  intro h'
  have hok := h.mono (by simp) (Nat.le_max_left j k)
  have herror := h'.mono (by simp) (Nat.le_max_right j k)
  cases hok.walk_eq.symm.trans herror.walk_eq

/-! ## Steps that stay where they are -/

/-- The second list is the first without some of its `.` pieces. -/
inductive Thins : List Piece → List Piece → Prop where
  | nil : Thins [] []
  | keep {ps qs} (p : Piece) : Thins ps qs → Thins (p :: ps) (p :: qs)
  | drop {ps qs} : Thins ps qs → Thins (.here :: ps) qs

private theorem Thins.append_left {ps qs : List Piece} (h : Thins ps qs) (front : List Piece) :
    Thins (front ++ ps) (front ++ qs) := by
  induction front with
  | nil => exact h
  | cons p front ih => exact .keep p ih

theorem thins_filter (ps : List Piece) : Thins ps (ps.filter (· ≠ .here)) := by
  induction ps with
  | nil => exact .nil
  | cons p ps ih =>
    by_cases hp : p = .here
    · subst hp
      simpa using Thins.drop ih
    · rw [List.filter_cons_of_pos (by simpa using hp)]
      exact .keep p ih

/-- Without its `.` pieces a path can only get past more, namely past what is no directory. -/
theorem Walks.thin {d : Disk} {links : Nat} {here : Location} {ps qs : List Piece}
    {r : Except Fault Location} (h : Walks d links here ps r) (hr : r ≠ .error .notDirectory)
    (hthin : Thins ps qs) : Walks d links here qs r := by
  induction h generalizing qs with
  | stop =>
    cases hthin
    exact .stop
  | blocked _ => exact absurd rfl hr
  | here hdir _ ih =>
    cases hthin with
    | keep _ hthin => exact .here hdir (ih hr hthin)
    | drop hthin => exact ih hr hthin
  | up hdir _ ih =>
    cases hthin with
    | keep _ hthin => exact .up hdir (ih hr hthin)
  | long hdir hn =>
    cases hthin with
    | keep _ _ => exact .long hdir hn
  | missing hdir hn hget =>
    cases hthin with
    | keep _ _ => exact .missing hdir hn hget
  | enter hdir hn hget hitem _ ih =>
    cases hthin with
    | keep _ hthin => exact .enter hdir hn hget hitem (ih hr hthin)
  | tired hdir hn hget =>
    cases hthin with
    | keep _ _ => exact .tired hdir hn hget
  | link hdir hn hget _ ih =>
    cases hthin with
    | keep _ hthin => exact .link hdir hn hget (ih hr (hthin.append_left _))

/-! ## Real locations -/

/-- A location that paths lead to: the locations above it are directories, and what stands at it is
no link. -/
structure IsReal (d : Disk) (l : Location) : Prop where
  above : ∀ a n b, l = a ++ n :: b → d.isDirectory a = true
  names : ∀ n ∈ l, IsName n ∧ Text.size n ≤ maxName
  item : ∃ item, d.get? l = some item ∧ ∀ x, item ≠ .link x

private theorem isDirectory_iff {d : Disk} {l : Location} :
    d.isDirectory l = true ↔ d.get? l = some .directory := by
  simp [isDirectory]

theorem isReal_nil (d : Disk) : d.IsReal [] :=
  ⟨by simp, by simp, .directory, rfl, by simp⟩

theorem IsReal.of_above {d : Disk} {a b : Location} (h : d.IsReal (a ++ b)) (hb : b ≠ []) :
    d.IsReal a ∧ d.isDirectory a = true := by
  obtain ⟨n, b, rfl⟩ := List.exists_cons_of_ne_nil hb
  have hdir := h.above a n b rfl
  refine ⟨⟨?_, fun m hm => h.names m (by simp [hm]), .directory, isDirectory_iff.mp hdir, by simp⟩,
    hdir⟩
  intro a' n' b' hl
  exact h.above a' n' (b' ++ n :: b) (by simp [hl])

private theorem IsReal.dropLast {d : Disk} {l : Location} (h : d.IsReal l) :
    d.IsReal l.dropLast := by
  obtain rfl | ⟨a, n, rfl⟩ := List.eq_nil_or_concat l
  · exact h
  · rw [List.concat_eq_append] at h
    simpa using (h.of_above (by simp)).1

private theorem IsReal.snoc {d : Disk} {a : Location} {n : Text} {item : Item} (h : d.IsReal a)
    (hdir : d.isDirectory a = true) (hn : IsName n ∧ Text.size n ≤ maxName)
    (hget : d.get? (a ++ [n]) = some item) (hitem : ∀ x, item ≠ .link x) :
    d.IsReal (a ++ [n]) := by
  refine ⟨?_, ?_, item, hget, hitem⟩
  · intro a' n' b' hl
    obtain rfl | ⟨b, m, rfl⟩ := List.eq_nil_or_concat b'
    · obtain ⟨rfl, -⟩ := List.append_inj' hl rfl
      exact hdir
    · rw [List.concat_eq_append, ← List.cons_append, ← List.append_assoc] at hl
      obtain ⟨rfl, -⟩ := List.append_inj' hl rfl
      exact h.above a' n' b rfl
  · intro m hm
    obtain hm | hm := List.mem_append.mp hm
    · exact h.names m hm
    · obtain rfl := List.mem_singleton.mp hm
      exact hn

theorem Walks.isReal {d : Disk} {links : Nat} {here l : Location} {ps : List Piece}
    (h : Walks d links here ps (.ok l)) (hreal : d.IsReal here)
    (hps : ∀ n, Piece.name n ∈ ps → IsName n) : d.IsReal l := by
  generalize hr : Except.ok l = r at h
  induction h with
  | stop =>
    cases hr
    exact hreal
  | blocked _ => cases hr
  | here _ _ ih => exact ih hreal (fun n hn => hps n (List.mem_cons_of_mem _ hn)) hr
  | up _ _ ih => exact ih hreal.dropLast (fun n hn => hps n (List.mem_cons_of_mem _ hn)) hr
  | long _ _ => cases hr
  | missing _ _ _ => cases hr
  | @enter _ here n rest item _ hdir hn hget hitem _ ih =>
    have hname := hps n List.mem_cons_self
    exact ih (hreal.snoc hdir ⟨hname, hn⟩ hget hitem)
      (fun m hm => hps m (List.mem_cons_of_mem _ hm)) hr
  | tired _ _ _ => cases hr
  | @link _ here n rest x _ _ _ _ _ ih =>
    have horigin : d.IsReal (origin here x) := by
      rw [origin]
      split
      · exact isReal_nil d
      · exact hreal
    refine ih horigin (fun m hm => ?_) hr
    obtain hm | hm := List.mem_append.mp hm
    · exact (Path.isName_of_mem_parse hm).1
    · exact hps m (List.mem_cons_of_mem _ hm)

/-- A real location is reached by its names, without a link. -/
theorem walk_names {d : Disk} {a b : Location} (h : d.IsReal (a ++ b)) (links : Nat)
    (qs : List Piece) :
    d.walk true links a (b.map .name ++ qs) = d.walk true links (a ++ b) qs := by
  induction b generalizing a with
  | nil => rw [List.append_nil, List.map_nil, List.nil_append]
  | cons n b ih =>
    have hdir := (h.of_above (by simp)).2
    have hrest : d.IsReal (a ++ [n] ++ b) := by simpa using h
    obtain ⟨item, hget, hitem⟩ : ∃ item, d.get? (a ++ [n]) = some item ∧ ∀ x, item ≠ .link x := by
      cases b with
      | nil => simpa using hrest.item
      | cons m b => exact (hrest.of_above (by simp)).1.item
    have henter := (Walks.enter hdir (h.names n (by simp)).2 hget hitem
      (walks_walk d links _ (b.map .name ++ qs))).walk_eq
    rw [List.map_cons, List.cons_append, henter, ih hrest, List.append_assoc]
    rfl

theorem walk_of_isReal {d : Disk} {l : Location} (h : d.IsReal l) (links : Nat) :
    d.walk true links [] (l.map .name) = .ok l := by
  have hnames := walk_names (a := []) h links []
  rwa [List.append_nil, List.nil_append, walk] at hnames

end Graft.Disk
