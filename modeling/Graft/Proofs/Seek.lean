import Graft.Proofs.Shape

/-!
# Searching by shape

A search along a path of names asks only for names and nesting, so the shape of a tree says where
the first scope is that it finds. After nodes have been added at the end of that scope the search
still finds it first; after blocks have been added there for the names that led nowhere, the search
along the whole path finds the innermost of them.
-/
namespace Graft

namespace Shape

/-- What is inside a block of this name. -/
def inside? (name : Text) : Shape → Option (List Shape)
  | statement .. => none
  | block n _ cs => if n = name then some cs else none

/-- The first value that a function has on shapes, with the number of the shape. -/
def first? {β : Type} (f : Shape → Option β) : List Shape → Option (Nat × β)
  | [] => none
  | s :: ss =>
    match f s with
    | some b => some (0, b)
    | none => (first? f ss).map fun r => (r.1 + 1, r.2)

/-- The path of the first scope that names lead to. -/
def seek : List Text → List Shape → Option (List Nat)
  | [], _ => some []
  | n :: ns, ss => (first? (fun s => (s.inside? n).bind (seek ns)) ss).map fun r => r.1 :: r.2

/-- How many shapes there are in the scope that a path leads to. -/
def sizeAt : List Nat → List Shape → Nat
  | [], ss => ss.length
  | i :: path, ss =>
    match ss[i]? with
    | some (block _ _ cs) => sizeAt path cs
    | _ => 0

/-- The path to the innermost of blocks that are nested along names, when the outermost has the
number `i`. -/
def spine (i : Nat) : List Text → List Nat
  | [] => []
  | _ :: ns => i :: spine 0 ns

/-! ## The first value -/

section First

variable {β γ : Type} {f : Shape → Option β} {g : Shape → Option γ} {ss : List Shape}

private theorem first?_eq_none_iff : first? f ss = none ↔ ∀ s ∈ ss, f s = none := by
  induction ss with
  | nil => simp [first?]
  | cons s ss ih => cases hs : f s <;> simp [first?, hs, ih]

theorem exists_of_first? {i : Nat} {b : β} (h : first? f ss = some (i, b)) :
    ∃ s ∈ ss, f s = some b := by
  induction ss generalizing i with
  | nil => cases h
  | cons s ss ih =>
    rw [first?] at h
    cases hs : f s with
    | some b' =>
      obtain ⟨-, rfl⟩ : 0 = i ∧ b' = b := by simpa [hs] using h
      exact ⟨s, by simp, hs⟩
    | none =>
      obtain ⟨r, hr, hcut⟩ : ∃ r, first? f ss = some r ∧ (r.1 + 1, r.2) = (i, b) := by
        simpa [hs] using h
      obtain ⟨-, rfl⟩ := Prod.mk.inj hcut
      obtain ⟨t, ht, hft⟩ := ih hr
      exact ⟨t, by simp [ht], hft⟩

private theorem first?_append (h : ∀ s ∈ ss, f s = none) (ts : List Shape) :
    first? f (ss ++ ts) = (first? f ts).map fun r => (ss.length + r.1, r.2) := by
  induction ss with
  | nil => simp
  | cons s ss ih =>
    have hs : f s = none := h s (by simp)
    rw [List.cons_append, first?, hs, ih fun t ht => h t (by simp [ht])]
    cases first? f ts with
    | none => rfl
    | some r => simp [Nat.add_right_comm]

private theorem first?_modify {i : Nat} {b : β} {c : γ} (h : first? f ss = some (i, b))
    {k : Shape → Shape} (hnone : ∀ s ∈ ss, f s = none → g s = none)
    (hsome : ∀ s, ss[i]? = some s → f s = some b → g (k s) = some c) :
    first? g (ss.modify i k) = some (i, c) := by
  induction ss generalizing i with
  | nil => cases h
  | cons s ss ih =>
    rw [first?] at h
    cases hs : f s with
    | some b' =>
      obtain ⟨rfl, rfl⟩ : 0 = i ∧ b' = b := by simpa [hs] using h
      simp [first?, hsome s rfl hs]
    | none =>
      obtain ⟨r, hr, hcut⟩ : ∃ r, first? f ss = some r ∧ (r.1 + 1, r.2) = (i, b) := by
        simpa [hs] using h
      obtain ⟨rfl, rfl⟩ := Prod.mk.inj hcut
      have hrest := ih hr (fun t ht => hnone t (by simp [ht]))
        fun t ht => hsome t (by simpa using ht)
      rw [List.modify_succ_cons, first?, hnone s (by simp) hs, hrest]
      rfl

end First

/-! ## The search after an addition -/

private theorem seek_append_eq_none {ns : List Text} {ss : List Shape} (h : seek ns ss = none)
    (ms : List Text) : seek (ns ++ ms) ss = none := by
  induction ns generalizing ss with
  | nil => cases h
  | cons n ns ih =>
    rw [seek, Option.map_eq_none_iff, first?_eq_none_iff] at h
    rw [List.cons_append, seek, Option.map_eq_none_iff, first?_eq_none_iff]
    intro s hs
    cases hinside : s.inside? n with
    | none => rfl
    | some cs => exact ih (by simpa [hinside] using h s hs)

/-- What is added at the end of the scope found does not change what is found. -/
theorem seek_appendAt {ns : List Text} {ss : List Shape} {path : List Nat}
    (h : seek ns ss = some path) (new : List Shape) :
    seek ns (appendAt new path ss) = some path := by
  induction ns generalizing ss path with
  | nil =>
    obtain rfl : [] = path := Option.some.inj h
    rfl
  | cons n ns ih =>
    rw [seek] at h
    obtain ⟨⟨i, rest⟩, hfirst, rfl⟩ := Option.map_eq_some_iff.mp h
    have hafter := first?_modify hfirst (fun _ _ hs => hs) (k := within (appendAt new rest))
      (c := rest) fun s _ hs => by
        cases s with
        | statement m args => cases hs
        | block m header cs =>
          obtain ⟨cs', hinside, hseek⟩ := Option.bind_eq_some_iff.mp hs
          obtain ⟨rfl, rfl⟩ : m = n ∧ cs = cs' := by simpa [inside?] using hinside
          simpa [within, inside?] using ih hseek
    rw [seek, appendAt, hafter]
    rfl

private theorem seek_wrap (ns : List Text) (new : List Shape) :
    seek ns (wrap ns new) = some (spine 0 ns) := by
  induction ns with
  | nil => rfl
  | cons n ns ih => simp [seek, wrap, first?, inside?, ih, spine]

private theorem seek_appendAt_wrap {ns : List Text} {ss : List Shape} {path : List Nat}
    (h : seek ns ss = some path) {m : Text} (hnone : seek (ns ++ [m]) ss = none) (ms : List Text)
    (new : List Shape) : seek (ns ++ m :: ms) (appendAt (wrap (m :: ms) new) path ss) =
      some (path ++ spine (sizeAt path ss) (m :: ms)) := by
  induction ns generalizing ss path with
  | nil =>
    obtain rfl : [] = path := Option.some.inj h
    rw [List.nil_append, seek, Option.map_eq_none_iff, first?_eq_none_iff] at hnone
    have hinside : ∀ s ∈ ss, (s.inside? m).bind (seek ms) = none := by
      intro s hs
      cases hs' : s.inside? m with
      | none => rfl
      | some cs => simpa [hs', seek] using hnone s hs
    rw [List.nil_append, appendAt, seek, first?_append hinside]
    simp [wrap, first?, inside?, seek_wrap, spine, sizeAt]
  | cons n ns ih =>
    rw [seek] at h
    obtain ⟨⟨i, rest⟩, hfirst, rfl⟩ := Option.map_eq_some_iff.mp h
    rw [List.cons_append, seek, Option.map_eq_none_iff, first?_eq_none_iff] at hnone
    have hlonger : ∀ s ∈ ss, (s.inside? n).bind (seek ns) = none →
        (s.inside? n).bind (seek (ns ++ m :: ms)) = none := by
      intro s _ hs
      cases hinside : s.inside? n with
      | none => rfl
      | some cs => exact seek_append_eq_none (by simpa [hinside] using hs) _
    have hafter := first?_modify hfirst hlonger (k := within (appendAt (wrap (m :: ms) new) rest))
      (c := rest ++ spine (sizeAt (i :: rest) ss) (m :: ms)) fun s hi hs => by
        cases s with
        | statement _ args => cases hs
        | block n' header cs =>
          obtain ⟨cs', hinside, hseek⟩ := Option.bind_eq_some_iff.mp hs
          obtain ⟨rfl, rfl⟩ : n' = n ∧ cs = cs' := by simpa [inside?] using hinside
          have hnowhere := hnone _ (List.mem_of_getElem? hi)
          simpa [within, inside?, sizeAt, hi] using ih hseek (by simpa [inside?] using hnowhere)
    rw [List.cons_append, seek, appendAt, hafter]
    rfl

private theorem sizeAt_shapes {root s : Scope} {path : List Nat} (h : root.at? path = some s) :
    sizeAt path (Node.shapes root.children) = s.children.length := by
  induction path generalizing root with
  | nil =>
    obtain rfl : root = s := Option.some.inj h
    rw [sizeAt, Node.shapes_eq_map, List.length_map]
  | cons i path ih =>
    rw [Scope.at?, Option.bind_eq_some_iff] at h
    obtain ⟨inner, hinner, hpath⟩ := h
    obtain ⟨node, hi, hnode⟩ := Option.bind_eq_some_iff.mp hinner
    cases node with
    | statement n span args => cases hnode
    | block n span header b cs =>
      obtain rfl : _ = inner := Option.some.inj hnode
      simpa [sizeAt, Node.shapes_eq_map, hi, Node.shape] using ih hpath

end Shape

/-! ## The search in a document -/

open Shape (first? seek spine sizeAt)

/-- What a search along names finds first in a node and where. -/
def Node.Finds (ns : List Text) (n : Node) (r : Option (List Nat)) : Prop :=
  (r = none ∧ n.select (.ofPath ns) = []) ∨ ∃ path block s, r = some path ∧
    n.scope? = some block ∧ block.at? path = some s ∧ (n.select (.ofPath ns)).head? = some s

private theorem Node.finds_first? {ns : List Text} {f : Shape → Option (List Nat)} (root : Scope)
    (h : ∀ n ∈ root.children, n.Finds ns (f n.shape)) :
    (first? f (shapes root.children) = none ∧ selectAll (.ofPath ns) root.children = []) ∨
      ∃ i path s, first? f (shapes root.children) = some (i, path) ∧
        root.at? (i :: path) = some s ∧
        (selectAll (.ofPath ns) root.children).head? = some s := by
  generalize hroot : root.children = nodes at h ⊢
  induction nodes generalizing root with
  | nil => exact .inl ⟨rfl, rfl⟩
  | cons n nodes ih =>
    obtain ⟨hnone, hselect⟩ | ⟨path, block, s, hsome, hblock, hpath, hhead⟩ := h n (by simp)
    · have hrest := ih { root with children := nodes } rfl fun m hm => h m (by simp [hm])
      obtain ⟨hnone', hselect'⟩ | ⟨i, path, s, hsome, hpath, hhead⟩ := hrest
      · exact .inl ⟨by simp [shapes, first?, hnone, hnone'], by simp [selectAll, hselect, hselect']⟩
      · refine .inr ⟨i + 1, path, s, by simp [shapes, first?, hnone, hsome], ?_,
          by simpa [selectAll, hselect] using hhead⟩
        simpa [Scope.at?, hroot] using hpath
    · refine .inr ⟨0, path, s, by simp [shapes, first?, hsome], ?_,
        by simp [selectAll, hhead]⟩
      simp [Scope.at?, hroot, hblock, hpath]

private theorem Node.finds (n : Text) (ns : List Text) (node : Node) :
    node.Finds (n :: ns) ((node.shape.inside? n).bind (seek ns)) := by
  induction ns generalizing n node with
  | nil =>
    cases node with
    | statement m span args => exact .inl ⟨rfl, rfl⟩
    | block m span header b cs =>
      by_cases hm : m = n
      · subst hm
        exact .inr ⟨[], _, _, by simp [shape, Shape.inside?, seek], rfl, rfl,
          by simp [select, Pattern.ofPath, Pattern.get?]⟩
      · exact .inl ⟨by simp [shape, Shape.inside?, hm],
          by simp [select, Pattern.ofPath, Pattern.get?, Ne.symm hm]⟩
  | cons n' ns ih =>
    cases node with
    | statement m span args => exact .inl ⟨rfl, rfl⟩
    | block m span header b cs =>
      by_cases hm : m = n
      · subst hm
        have hselect : (block m span header b cs).select (.ofPath (m :: n' :: ns)) =
            selectAll (.ofPath (n' :: ns)) cs := by
          simp [select, Pattern.ofPath, Pattern.get?]
        have hinside : (block m span header b cs).shape.inside? m = some (shapes cs) := by
          simp [shape, Shape.inside?]
        obtain ⟨hnone, hnil⟩ | ⟨i, path, s, hsome, hpath, hhead⟩ :=
          finds_first? (f := fun s => (s.inside? n').bind (seek ns)) ⟨m, span, some b, cs⟩
            fun child _ => ih n' child
        · exact .inl ⟨by simp [hinside, seek, hnone], hselect.trans hnil⟩
        · exact .inr ⟨i :: path, _, s, by simp [hinside, seek, hsome], rfl, hpath,
            by rw [hselect, hhead]⟩
      · exact .inl ⟨by simp [shape, Shape.inside?, hm],
          by simp [select, Pattern.ofPath, Pattern.get?, Ne.symm hm]⟩

namespace Document

variable {d : Document} {names : List Text} {path : List Nat} {s : Scope}

/-- The shape of a document says where a search leads. -/
theorem find_eq (d : Document) (names : List Text) :
    (seek names (Node.shapes d.nodes) = none ∧ d.find (.ofPath names) = []) ∨
      ∃ path s, seek names (Node.shapes d.nodes) = some path ∧ d.root.at? path = some s ∧
        (d.find (.ofPath names)).head? = some s := by
  cases names with
  | nil => exact .inr ⟨[], d.root, rfl, rfl, rfl⟩
  | cons n ns =>
    obtain ⟨hnone, hnil⟩ | ⟨i, path, s, hsome, hpath, hhead⟩ :=
      Node.finds_first? (f := fun s => (s.inside? n).bind (seek ns)) d.root
        fun node _ => Node.finds n ns node
    · exact .inl ⟨Option.map_eq_none_iff.mpr hnone, hnil⟩
    · exact .inr ⟨i :: path, s, Option.map_eq_some_iff.mpr ⟨_, hsome, rfl⟩, hpath, hhead⟩

private theorem head?_find (h : seek names (Node.shapes d.nodes) = some path)
    (hs : d.root.at? path = some s) : (d.find (.ofPath names)).head? = some s := by
  obtain ⟨hnone, -⟩ | ⟨path', s', hsome, hs', hhead⟩ := d.find_eq names
  · rw [h] at hnone
    cases hnone
  · obtain rfl := Option.some.inj (h.symm.trans hsome)
    rw [hhead, ← hs', hs]

private theorem exists_seek (h : (d.find (.ofPath names)).head? = some s) :
    ∃ path, seek names (Node.shapes d.nodes) = some path ∧ d.root.at? path = some s := by
  obtain ⟨-, hnil⟩ | ⟨path, s', hsome, hs', hhead⟩ := d.find_eq names
  · rw [hnil] at h
    cases h
  · exact ⟨path, hsome, by rw [hs', ← hhead, h]⟩

theorem seek_eq_none (h : d.find (.ofPath names) = []) :
    seek names (Node.shapes d.nodes) = none := by
  obtain ⟨hnone, -⟩ | ⟨_, _, -, -, hhead⟩ := d.find_eq names
  · exact hnone
  · rw [h] at hhead
    cases hhead

end Document

namespace Plan

private theorem target_eq {d : Document} {names : List Text} {path : List Nat} {s : Scope}
    (h : seek names (Node.shapes d.nodes) = some path) (hs : d.root.at? path = some s) :
    target d names = (s, []) := by
  have hhead := Document.head?_find h hs
  cases names with
  | nil =>
    obtain rfl : d.root = s := Option.some.inj hhead
    rfl
  | cons n ns =>
    rw [target, List.length_cons, deepest, ← List.length_cons (a := n), List.take_length,
      List.drop_length]
    cases hfind : d.find (.ofPath (n :: ns)) with
    | nil =>
      rw [hfind] at hhead
      cases hhead
    | cons s' ss =>
      rw [hfind] at hhead
      obtain rfl : s' = s := Option.some.inj hhead
      rfl

/-- What is added for a path, at the end of its target and in blocks for the names that are missing,
is where the whole path leads after it. -/
theorem exists_seek_target (d : Document) (names : List Text) :
    ∃ path, d.root.at? path = some (target d names).1 ∧ ∀ new : List Shape,
      seek names (Shape.appendAt (Shape.wrap (target d names).2 new) path (Node.shapes d.nodes)) =
        some (path ++ spine (target d names).1.children.length (target d names).2) := by
  obtain ⟨k, hk, hmissing, hhead, hnone⟩ := exists_deepest d names names.length
  obtain ⟨path, hseek, hpath⟩ := Document.exists_seek hhead
  refine ⟨path, hpath, fun new => ?_⟩
  have hsize := Shape.sizeAt_shapes hpath
  cases hleft : (target d names).2 with
  | nil =>
    have hdrop : names.drop k = [] := hmissing.symm.trans hleft
    have hall : names.take k = names := List.take_of_length_le (List.drop_eq_nil_iff.mp hdrop)
    rw [hall] at hseek
    rw [Shape.wrap, spine, List.append_nil]
    exact Shape.seek_appendAt hseek new
  | cons m ms =>
    have hdrop : names.drop k = m :: ms := hmissing.symm.trans hleft
    have hnames : names.take k ++ m :: ms = names := by rw [← hdrop, List.take_append_drop]
    have hnext : names.take (k + 1) = names.take k ++ [m] := by
      rw [List.take_add_one, ← List.head?_drop, hdrop]
      rfl
    have hlt : k < names.length := by
      have := congrArg List.length hdrop
      simp only [List.length_cons, List.length_drop] at this
      omega
    have hnowhere := Document.seek_eq_none (hnone (k + 1) (by omega) hlt)
    rw [hnext] at hnowhere
    have hafter := Shape.seek_appendAt_wrap hseek hnowhere ms new
    rwa [hnames, show sizeAt path (Node.shapes d.nodes) = _ from hsize] at hafter

theorem exists_target (d : Document) (names : List Text) :
    ∃ path, d.root.at? path = some (target d names).1 ∧
      ∀ (d' : Document) (new : List Shape) (s : Scope), Node.shapes d'.nodes =
          Shape.appendAt (Shape.wrap (target d names).2 new) path (Node.shapes d.nodes) →
        d'.root.at? (path ++ spine (target d names).1.children.length (target d names).2) = some s →
        target d' names = (s, []) := by
  obtain ⟨path, hpath, hseek⟩ := exists_seek_target d names
  exact ⟨path, hpath, fun d' new s hshapes hs => target_eq (hshapes ▸ hseek new) hs⟩

end Plan
end Graft
