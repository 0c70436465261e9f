import Graft.Proofs.Walk

/-!
# Places for files

A place is where a file can be put: a real location, or a name in a real directory that leads
nowhere so far. Putting files at places changes what stands there and nothing else, and it keeps
every path that leads somewhere: such a path never passes a link that leads nowhere.
-/
namespace Graft.Disk

open Graft.Path (Piece IsName)

/-! ## Names without NUL -/

/-- No name on the disk holds a NUL; a file system ends names with it. -/
def NulFree (d : Disk) : Prop := ∀ e ∈ d.entries, ∀ n ∈ e.1, '\x00' ∉ n

instance (d : Disk) : Decidable d.NulFree :=
  inferInstanceAs (Decidable (∀ e ∈ d.entries, ∀ n ∈ e.1, '\x00' ∉ n))

theorem NulFree.of_get? {d : Disk} (hd : d.NulFree) {l : Location} {item : Item}
    (h : d.get? l = some item) : ∀ n ∈ l, '\x00' ∉ n := by
  unfold get? at h
  split at h
  case isTrue hl => simp [hl]
  case isFalse =>
    obtain ⟨front, rest, hentries, -⟩ := List.lookup_eq_some_iff.mp h
    exact hd (l, item) (by simp [hentries])

theorem canonicalize_absolute {d : Disk} {base : Location} {t : Text} (h : t.head? = some '/')
    (hnul : '\x00' ∉ t) :
    d.canonicalize base t = d.walk true maxLinks [] (Path.parse t).pieces := by
  have habsolute : (Path.parse t).absolute = true := by simp [Path.parse, h]
  obtain ⟨r, rfl⟩ := List.head?_eq_some_iff.mp h
  simp only [canonicalize, locate, habsolute]
  rw [if_neg (by simpa using hnul)]
  rfl

theorem canonicalize_of_nul {d : Disk} {base : Location} {t : Text} (hnul : '\x00' ∈ t) :
    d.canonicalize base t = .error .nulInName := by
  rw [canonicalize, locate, if_pos (by simpa using hnul)]

theorem canonicalize_display {d : Disk} {base l : Location} (h : ∀ n ∈ l, IsName n)
    (hnul : ∀ n ∈ l, '\x00' ∉ n) :
    d.canonicalize base l.display = d.walk true maxLinks [] (l.map .name) := by
  have hdisplay : '\x00' ∉ l.display := by
    intro hmem
    obtain heq | ⟨n, hn, hmem⟩ := Path.mem_display hmem
    · cases heq
    · exact hnul n hn hmem
  rw [canonicalize_absolute (Path.head?_display l) hdisplay, Path.parse_display h]

/-! ## Places -/

/-- A location where a file can be put. -/
inductive IsPlace (d : Disk) : Location → Prop where
  | found {l} : d.IsReal l → IsPlace d l
  | vacant {l n} : d.IsReal l → IsName n → Walks d maxLinks l [.name n] (.error .notFound) →
      IsPlace d (l ++ [n])

/-- A name that leads nowhere is missing or that of a link. -/
theorem Walks.of_notFound {d : Disk} {links : Nat} {l : Location} {n : Text}
    (h : Walks d links l [.name n] (.error .notFound)) :
    d.isDirectory l = true ∧ Text.size n ≤ maxName ∧ (d.get? (l ++ [n]) = none ∨
      ∃ x left, d.get? (l ++ [n]) = some (.link x) ∧
        Walks d left (origin l x) (Path.parse x).pieces (.error .notFound)) := by
  cases h with
  | missing hdir hn hget => exact ⟨hdir, hn, .inl hget⟩
  | enter _ _ _ _ hrest => cases hrest
  | @link links _ _ _ x _ hdir hn hget hrest =>
    rw [List.append_nil] at hrest
    exact ⟨hdir, hn, .inr ⟨x, links, hget, hrest⟩⟩

theorem IsPlace.names {d : Disk} {l : Location} (h : d.IsPlace l) :
    ∀ n ∈ l, IsName n ∧ Text.size n ≤ maxName := by
  cases h with
  | found hreal => exact hreal.names
  | vacant hreal hn hwalks =>
    intro m hm
    obtain hm | hm := List.mem_append.mp hm
    · exact hreal.names m hm
    · obtain rfl := List.mem_singleton.mp hm
      exact ⟨hn, hwalks.of_notFound.2.1⟩

theorem IsPlace.dropLast {d : Disk} {l : Location} (h : d.IsPlace l) (hl : l ≠ []) :
    d.IsReal l.dropLast ∧ d.isDirectory l.dropLast = true := by
  cases h with
  | found hreal =>
    obtain rfl | ⟨a, n, rfl⟩ := List.eq_nil_or_concat l
    · exact absurd rfl hl
    · rw [List.concat_eq_append] at hreal ⊢
      simpa using hreal.of_above (by simp)
  | vacant hreal _ hwalks => simpa using ⟨hreal, hwalks.of_notFound.1⟩

private theorem IsPlace.link {d : Disk} {l : Location} {n x : Text} (h : d.IsPlace (l ++ [n]))
    (hget : d.get? (l ++ [n]) = some (.link x)) :
    ∃ left, Walks d left (origin l x) (Path.parse x).pieces (.error .notFound) := by
  generalize hl : l ++ [n] = m at h hget
  cases h with
  | found hreal =>
    obtain ⟨item, hitem, hlink⟩ := hreal.item
    exact absurd (Option.some.inj (hitem.symm.trans hget)) (hlink x)
  | vacant _ _ hwalks =>
    obtain ⟨rfl, hn⟩ := List.append_inj' hl rfl
    obtain ⟨-, -, hnone | ⟨y, left, hlink, hrest⟩⟩ := hwalks.of_notFound
    · cases hnone.symm.trans hget
    · cases hlink.symm.trans hget
      exact ⟨left, hrest⟩

/-! ## Putting files in place -/

private theorem lookup_replaced {es : List (Location × Item)} {l m : Location} (item : Item)
    (h : m = l → es.any (·.1 == l) = true) :
    (es.map fun e => if e.1 == l then (l, item) else e).lookup m =
      if m = l then some item else es.lookup m := by
  induction es with
  | nil =>
    have hne : m ≠ l := fun hm => by simp at h; exact h hm
    simp [hne]
  | cons e es ih =>
    obtain ⟨k, old⟩ := e
    by_cases hk : k = l
    · subst hk
      by_cases hm : m = k
      · simp [hm]
      · have hbeq : (m == k) = false := by simpa using hm
        simpa [List.lookup_cons, hbeq, hm] using ih fun hm' => absurd hm' hm
    · have hrest : m = l → es.any (·.1 == l) = true := fun hm => by simpa [hk] using h hm
      by_cases hm : m = k
      · subst hm
        simp [hk]
      · have hbeq : (m == k) = false := by simpa using hm
        simpa [List.lookup_cons, hk, hbeq] using ih hrest

theorem get?_set {d : Disk} {l : Location} (hl : l ≠ []) (item : Item) (m : Location) :
    (d.set l item).get? m = if m = l then some item else d.get? m := by
  by_cases hm : m = []
  · subst hm
    simp [get?, Ne.symm hl]
  · simp only [get?, if_neg hm, set]
    split
    case isTrue hany => exact lookup_replaced item fun _ => hany
    case isFalse hany =>
      by_cases hml : m = l
      · subst hml
        have hnone : d.entries.lookup m = none := by
          rw [List.lookup_eq_none_iff]
          intro e he
          simp only [List.any_eq_true, not_exists, not_and, beq_iff_eq] at hany
          simpa using Ne.symm (hany e he)
        simp [List.lookup_append, hnone]
      · have hbeq : (m == l) = false := by simpa using hml
        simp [List.lookup_append, List.lookup_cons, hbeq, hml]

/-- The disk `d'` is `d` with files put at the given locations, in place of no directory. -/
structure Patched (d : Disk) (ts : List Location) (d' : Disk) : Prop where
  outside : ∀ l, l ∉ ts → d'.get? l = d.get? l
  file : ∀ l ∈ ts, ∃ c, d'.get? l = some (.file (.text c) false)
  plain : ∀ l ∈ ts, d.isDirectory l = false

theorem patched_nil (d : Disk) : Patched d [] d :=
  ⟨fun _ _ => rfl, by simp, by simp⟩

section
variable {d d' : Disk} {ts : List Location}

theorem Patched.set (h : Patched d ts d') {l : Location} (hl : l ≠ [])
    (hplain : d.isDirectory l = false) (c : Text) :
    Patched d (ts ++ [l]) (d'.set l (.file (.text c) false)) := by
  constructor
  case outside =>
    intro m hm
    rw [List.mem_append, List.mem_singleton, not_or] at hm
    rw [get?_set hl, if_neg hm.2, h.outside m hm.1]
  case file =>
    intro m hm
    rw [get?_set hl]
    by_cases hml : m = l
    · exact ⟨c, by rw [if_pos hml]⟩
    · rw [if_neg hml]
      exact h.file m (by simpa [hml] using hm)
  case plain =>
    intro m hm
    obtain hm | hm := List.mem_append.mp hm
    · exact h.plain m hm
    · rwa [List.mem_singleton.mp hm]

theorem Patched.isDirectory (h : Patched d ts d') (l : Location) :
    d'.isDirectory l = d.isDirectory l := by
  by_cases hl : l ∈ ts
  · obtain ⟨c, hget⟩ := h.file l hl
    rw [h.plain l hl, Disk.isDirectory, hget]
    rfl
  · rw [Disk.isDirectory, Disk.isDirectory, h.outside l hl]

private theorem Patched.isReal (h : Patched d ts d') {l : Location} (hl : d.IsReal l) :
    d'.IsReal l := by
  refine ⟨fun a n b hab => by rw [h.isDirectory, hl.above a n b hab], hl.names, ?_⟩
  by_cases hmem : l ∈ ts
  · obtain ⟨c, hget⟩ := h.file l hmem
    exact ⟨_, hget, by simp⟩
  · rw [h.outside l hmem]
    exact hl.item

/-- A path that leads somewhere still leads there. -/
theorem Patched.walks (h : Patched d ts d') (hplaces : ∀ t ∈ ts, d.IsPlace t) {links : Nat}
    {here l : Location} {ps : List Piece} (hwalks : Walks d links here ps (.ok l)) :
    Walks d' links here ps (.ok l) := by
  have hdir {m : Location} (hm : d.isDirectory m = true) : d'.isDirectory m = true := by
    rwa [h.isDirectory]
  generalize hr : Except.ok l = r at hwalks
  induction hwalks with
  | stop => exact .stop
  | blocked _ => cases hr
  | here hhere _ ih => exact .here (hdir hhere) (ih hr)
  | up hhere _ ih => exact .up (hdir hhere) (ih hr)
  | long _ _ => cases hr
  | missing _ _ _ => cases hr
  | @enter _ here n _ _ _ hhere hn hget hitem _ ih =>
    by_cases hmem : here ++ [n] ∈ ts
    · obtain ⟨c, hfile⟩ := h.file _ hmem
      exact .enter (hdir hhere) hn hfile (by simp) (ih hr)
    · rw [← h.outside _ hmem] at hget
      exact .enter (hdir hhere) hn hget hitem (ih hr)
  | tired _ _ _ => cases hr
  | @link _ here n _ x _ hhere hn hget hrest ih =>
    by_cases hmem : here ++ [n] ∈ ts
    · -- the link leads nowhere, but the path goes on behind it
      obtain ⟨left, hnowhere⟩ := (hplaces _ hmem).link hget
      subst hr
      obtain ⟨m, hm⟩ := exists_of_walk_append hrest
      exact absurd hnowhere hm.ne_notFound
    · rw [← h.outside _ hmem] at hget
      exact .link (hdir hhere) hn hget (ih hr)

/-- What a path comes to when it led nowhere before the files were put in place. -/
def Strays (ts : List Location) (r : Except Fault Location) : Prop :=
  r = .error .notFound ∨ (r = .error .notDirectory ∧ ts ≠ []) ∨ ∃ t ∈ ts, r = .ok t

private theorem Patched.walks_file (h : Patched d ts d') {t : Location} (ht : t ∈ ts) (links : Nat)
    (ps : List Piece) : ∃ r, Walks d' links t ps r ∧ Strays ts r := by
  cases ps with
  | nil => exact ⟨_, .stop, .inr (.inr ⟨t, ht, rfl⟩)⟩
  | cons p ps =>
    exact ⟨_, .blocked (by rw [h.isDirectory, h.plain t ht]),
      .inr (.inl ⟨rfl, List.ne_nil_of_mem ht⟩)⟩

/-- A path that leads nowhere still does, or it comes to one of the new files. -/
theorem Patched.walks_notFound (h : Patched d ts d') {links : Nat} {here : Location}
    {ps : List Piece} (hwalks : Walks d links here ps (.error .notFound)) :
    ∃ r, Walks d' links here ps r ∧ Strays ts r := by
  have hdir {m : Location} (hm : d.isDirectory m = true) : d'.isDirectory m = true := by
    rwa [h.isDirectory]
  -- at one of the new files the path ends, whatever stood there
  have hnew {here : Location} {n : Text} {links : Nat} {rest : List Piece}
      (hhere : d.isDirectory here = true) (hn : Text.size n ≤ maxName) (hmem : here ++ [n] ∈ ts) :
      ∃ r, Walks d' links here (.name n :: rest) r ∧ Strays ts r := by
    obtain ⟨c, hfile⟩ := h.file _ hmem
    obtain ⟨r, hrest, hstrays⟩ := h.walks_file hmem links rest
    exact ⟨r, .enter (hdir hhere) hn hfile (by simp) hrest, hstrays⟩
  generalize hr : Except.error Fault.notFound = r at hwalks
  induction hwalks with
  | stop => cases hr
  | blocked _ => cases hr
  | here hhere _ ih =>
    obtain ⟨r, hrest, hstrays⟩ := ih hr
    exact ⟨r, .here (hdir hhere) hrest, hstrays⟩
  | up hhere _ ih =>
    obtain ⟨r, hrest, hstrays⟩ := ih hr
    exact ⟨r, .up (hdir hhere) hrest, hstrays⟩
  | long _ _ => cases hr
  | @missing _ here n _ hhere hn hget =>
    by_cases hmem : here ++ [n] ∈ ts
    · exact hnew hhere hn hmem
    · rw [← h.outside _ hmem] at hget
      exact ⟨_, .missing (hdir hhere) hn hget, .inl rfl⟩
  | @enter _ here n _ _ _ hhere hn hget hitem _ ih =>
    by_cases hmem : here ++ [n] ∈ ts
    · exact hnew hhere hn hmem
    · rw [← h.outside _ hmem] at hget
      obtain ⟨r, hrest, hstrays⟩ := ih hr
      exact ⟨r, .enter (hdir hhere) hn hget hitem hrest, hstrays⟩
  | tired _ _ _ => cases hr
  | @link _ here n _ x _ hhere hn hget _ ih =>
    by_cases hmem : here ++ [n] ∈ ts
    · exact hnew hhere hn hmem
    · rw [← h.outside _ hmem] at hget
      obtain ⟨r, hrest, hstrays⟩ := ih hr
      exact ⟨r, .link (hdir hhere) hn hget hrest, hstrays⟩

/-- A place stays one, unless a link there leads to or through one of the new files. -/
theorem Patched.isPlace (h : Patched d ts d') {t : Location} (ht : d.IsPlace t) :
    d'.IsPlace t ∨ (∃ u ∈ ts, d'.walk true maxLinks [] (t.map .name) = .ok u) ∨
      ((∃ x, d.get? t = some (.link x)) ∧ ts ≠ [] ∧
        d'.walk true maxLinks [] (t.map .name) = .error .notDirectory) := by
  cases ht with
  | found hreal => exact .inl (.found (h.isReal hreal))
  | @vacant l n hreal hn hwalks =>
    have hreal' := h.isReal hreal
    rw [List.map_append, walk_names (a := []) hreal', List.nil_append]
    obtain ⟨r, hrest, rfl | ⟨rfl, hne⟩ | ⟨u, hu, rfl⟩⟩ := h.walks_notFound hwalks
    · exact .inl (.vacant hreal' hn hrest)
    · obtain ⟨hhere, hsize, hnone | ⟨x, -, hlink, -⟩⟩ := hwalks.of_notFound
      · -- a name that was missing is missing or that of a file
        cases hrest with
        | blocked hdir =>
          rw [h.isDirectory, hhere] at hdir
          cases hdir
        | enter _ _ _ _ hrest => cases hrest
        | link _ _ hget _ =>
          by_cases hmem : l ++ [n] ∈ ts
          · obtain ⟨c, hfile⟩ := h.file _ hmem
            cases hfile.symm.trans hget
          · rw [h.outside _ hmem] at hget
            cases hnone.symm.trans hget
      · exact .inr (.inr ⟨⟨x, hlink⟩, hne, hrest.walk_eq⟩)
    · exact .inr (.inl ⟨u, hu, hrest.walk_eq⟩)

end

end Graft.Disk
