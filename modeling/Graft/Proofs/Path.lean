import Graft.Path

/-!
# Paths and the locations they are read from

A location is written as a path and read back as the same names. The other way round, the names that
a path is read into are fit for a directory: none is empty, holds a slash or means a place by
itself.
-/
namespace Graft.Path

/-! ## Parts between separators -/

private theorem split_ne_nil (separator : Char) (t : Text) : split separator t ≠ [] := by
  cases t with
  | nil => simp [split]
  | cons c r =>
    simp only [split]
    split
    · simp
    · split <;> simp

theorem split_cons (separator c : Char) (r : Text) : ∃ p ps, split separator r = p :: ps ∧
    split separator (c :: r) = if c = separator then [] :: p :: ps else (c :: p) :: ps := by
  obtain ⟨p, ps, h⟩ := List.exists_cons_of_ne_nil (split_ne_nil separator r)
  exact ⟨p, ps, h, by simp [split, h]⟩

private theorem split_of_not_mem {separator : Char} {t : Text} (h : separator ∉ t) :
    split separator t = [t] := by
  induction t with
  | nil => rfl
  | cons c r ih =>
    rw [List.mem_cons, not_or] at h
    simp [split, ih h.2, Ne.symm h.1]

private theorem split_append {separator : Char} {a : Text} (h : separator ∉ a) (b : Text) :
    split separator (a ++ separator :: b) = a :: split separator b := by
  induction a with
  | nil =>
    obtain ⟨p, ps, hb, hcons⟩ := split_cons separator separator b
    rw [List.nil_append, hcons, hb, if_pos rfl]
  | cons c r ih =>
    rw [List.mem_cons, not_or] at h
    simp [split, ih h.2, Ne.symm h.1]

private theorem of_mem_split {separator : Char} {t p : Text} (h : p ∈ split separator t) :
    separator ∉ p ∧ ∀ c ∈ p, c ∈ t := by
  induction t generalizing p with
  | nil =>
    obtain rfl := List.mem_singleton.mp h
    simp
  | cons c r ih =>
    obtain ⟨q, qs, hr, hcons⟩ := split_cons separator c r
    rw [hcons] at h
    have hq := ih (p := q) (by simp [hr])
    have htail (hp : p ∈ qs) : separator ∉ p ∧ ∀ x ∈ p, x ∈ c :: r := by
      have := ih (p := p) (by simp [hr, hp])
      exact ⟨this.1, fun x hx => List.mem_cons_of_mem c (this.2 x hx)⟩
    by_cases hc : c = separator
    · rw [if_pos hc] at h
      obtain rfl | rfl | hp := by simpa using h
      · simp
      · exact ⟨hq.1, fun x hx => List.mem_cons_of_mem c (hq.2 x hx)⟩
      · exact htail hp
    · rw [if_neg hc] at h
      obtain rfl | hp := List.mem_cons.mp h
      · refine ⟨by simp [Ne.symm hc, hq.1], fun x hx => ?_⟩
        obtain rfl | hx := List.mem_cons.mp hx
        · exact List.mem_cons_self
        · exact List.mem_cons_of_mem c (hq.2 x hx)
      · exact htail hp

theorem split_join {separator : Char} {ns : List Text} (hne : ns ≠ [])
    (h : ∀ n ∈ ns, separator ∉ n) : split separator (Text.join [separator] ns) = ns := by
  induction ns with
  | nil => exact absurd rfl hne
  | cons n ns ih =>
    have hn : separator ∉ n := h n (by simp)
    cases ns with
    | nil => exact split_of_not_mem hn
    | cons m ms =>
      have hms := ih (by simp) fun k hk => h k (by simp [hk])
      rw [Text.join, List.append_assoc, List.singleton_append, split_append hn, hms]
      simp

private theorem mem_join {separator : Text} {ns : List Text} {c : Char}
    (h : c ∈ Text.join separator ns) : c ∈ separator ∨ ∃ n ∈ ns, c ∈ n := by
  induction ns with
  | nil => cases h
  | cons n ns ih =>
    cases ns with
    | nil => exact .inr ⟨n, by simp, h⟩
    | cons m ms =>
      rw [Text.join, List.append_assoc, List.mem_append, List.mem_append] at h
      · obtain h | h | h := h
        · exact .inr ⟨n, by simp, h⟩
        · exact .inl h
        · obtain h | ⟨k, hk, hc⟩ := ih h
          · exact .inl h
          · exact .inr ⟨k, List.mem_cons_of_mem n hk, hc⟩
      · simp

theorem getLast?_join {separator : Text} {ns : List Text} {n : Text} (hn : n ≠ [])
    (h : ns.getLast? = some n) : (Text.join separator ns).getLast? = n.getLast? := by
  induction ns with
  | nil => cases h
  | cons m ms ih =>
    cases ms with
    | nil =>
      obtain rfl : m = n := by simpa using h
      rfl
    | cons k ks =>
      rw [List.getLast?_cons_cons] at h
      have hlast := ih h
      rw [Text.join, List.getLast?_append, hlast]
      · rw [List.getLast?_eq_some_getLast hn]
        rfl
      · simp

/-! ## Names -/

/-- A name that a directory can hold. -/
structure IsName (n : Text) : Prop where
  ne_nil : n ≠ []
  no_slash : '/' ∉ n
  ne_here : n ≠ ['.']
  ne_up : n ≠ ['.', '.']

theorem piece_of_isName {n : Text} (h : IsName n) : piece n = .name n := by
  unfold piece
  split
  · exact absurd rfl h.ne_here
  · exact absurd rfl h.ne_up
  · rfl

private theorem piece_eq_name {m n : Text} (h : piece m = .name n) :
    m = n ∧ m ≠ ['.'] ∧ m ≠ ['.', '.'] := by
  unfold piece at h
  split at h
  · cases h
  · cases h
  · cases h
    exact ⟨rfl, ‹_›, ‹_›⟩

/-- What a path calls names are names, made of its characters. -/
theorem isName_of_mem_parse {t n : Text} (h : Piece.name n ∈ (parse t).pieces) :
    IsName n ∧ ∀ c ∈ n, c ∈ t := by
  have hmem : Piece.name n ∈ ((split '/' t).filter (!·.isEmpty)).map piece := by
    simp only [parse] at h
    split at h
    · simpa using h
    · exact h
  obtain ⟨m, hm, hpiece⟩ := List.mem_map.mp hmem
  obtain ⟨hm, hne⟩ := List.mem_filter.mp hm
  obtain ⟨rfl, hhere, hup⟩ := piece_eq_name hpiece
  obtain ⟨hslash, hchars⟩ := of_mem_split hm
  exact ⟨⟨by simpa using hne, hslash, hhere, hup⟩, hchars⟩

theorem parse_display {l : Location} (h : ∀ n ∈ l, IsName n) :
    parse l.display = ⟨true, l.map .name⟩ := by
  have hpieces : ((split '/' l.display).filter (!·.isEmpty)).map piece = l.map .name := by
    have hparts : (split '/' l.display).filter (!·.isEmpty) = l := by
      have hcut : split '/' l.display = [] :: split '/' (Text.join ['/'] l) :=
        split_append (a := []) (by simp) _
      cases l with
      | nil => decide
      | cons n ns =>
        rw [hcut, split_join (by simp) fun m hm => (h m hm).no_slash, List.filter_cons_of_neg
          (by simp), List.filter_eq_self]
        intro m hm
        simpa using (h m hm).ne_nil
    rw [hparts]
    exact List.map_congr_left fun n hn => piece_of_isName (h n hn)
  have hend : l ≠ [] → l.display.getLast? ≠ some '/' := by
    intro hne
    obtain ⟨n, hn⟩ : ∃ n, l.getLast? = some n := ⟨_, List.getLast?_eq_some_getLast hne⟩
    have hname := h n (List.mem_of_getLast? hn)
    have hlast : (Text.join ['/'] l).getLast? = some (n.getLast hname.ne_nil) := by
      rw [getLast?_join hname.ne_nil hn, List.getLast?_eq_some_getLast]
    rw [Location.display, List.getLast?_cons, hlast]
    intro heq
    refine hname.no_slash ?_
    rw [← Option.some.inj heq]
    exact List.getLast_mem _
  simp only [parse, hpieces]
  rw [if_neg]
  · rfl
  · cases l with
    | nil => simp
    | cons n ns => simpa using fun _ => hend (by simp)

theorem head?_display (l : Location) : l.display.head? = some '/' := rfl

theorem under_display (t : Text) (l : Location) : under t l.display = l.display := by
  simp [under, Location.display]

theorem head?_under {directory : Text} (h : directory.head? = some '/') (t : Text) :
    (under directory t).head? = some '/' := by
  obtain ⟨r, rfl⟩ := List.head?_eq_some_iff.mp h
  simp only [under]
  split
  · assumption
  · split <;> rfl

theorem mem_display {l : Location} {c : Char} (h : c ∈ l.display) :
    c = '/' ∨ ∃ n ∈ l, c ∈ n := by
  obtain rfl | h := List.mem_cons.mp h
  · exact .inl rfl
  · obtain h | h := mem_join h
    · exact .inl (by simpa using h)
    · exact .inr h

theorem components_of_absolute {p : Path} (h : p.absolute = true) :
    p.components = p.pieces.filter (· ≠ .here) := by
  simp [components, h]

end Graft.Path

namespace Graft.Location

theorem isWithin_iff {l directory : Location} : l.isWithin directory = true ↔ directory <+: l :=
  List.isPrefixOf_iff_prefix

theorem isName_of_mem_follow {pieces : List Path.Piece} {l : Location}
    (hl : ∀ n ∈ l, Path.IsName n) (hp : ∀ n, Path.Piece.name n ∈ pieces → Path.IsName n) :
    ∀ n ∈ follow l pieces, Path.IsName n := by
  induction pieces generalizing l with
  | nil => exact hl
  | cons p pieces ih =>
    have hrest : ∀ n, Path.Piece.name n ∈ pieces → Path.IsName n :=
      fun n hn => hp n (List.mem_cons_of_mem p hn)
    cases p with
    | here => exact ih hl hrest
    | up => exact ih (fun n hn => hl n (List.dropLast_subset l hn)) hrest
    | name m =>
      refine ih (fun n hn => ?_) hrest
      obtain hn | hn := List.mem_append.mp hn
      · exact hl n hn
      · obtain rfl := List.mem_singleton.mp hn
        exact hp n List.mem_cons_self

end Graft.Location
