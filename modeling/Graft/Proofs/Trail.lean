import Graft.Proofs.Target
import Graft.Tree.Build
import Mathlib

/-!
# Trails

The trail of a scope is the names of the blocks that lead to it. A search keeps of the walk through
a document just the scopes whose trails lead to a leaf of the pattern, in the order of the walk. So
the target of an injection is the first scope with the longest trail that is a beginning of the
path.
-/
namespace Graft

/-- The names lead from a scope to another one, block by block. -/
inductive Scope.Leads : Scope → List Text → Scope → Prop where
  | here (s : Scope) : Leads s [] s
  | inside {s b t : Scope} {names : List Text} : b ∈ s.blocks → Leads b names t →
      Leads s (b.name :: names) t

mutual

/-- The scopes in a node with their trails, outer before inner, in source order. -/
def Node.trails : Node → List (List Text × Scope)
  | .statement .. => []
  | .block n s _ b cs =>
    ([n], ⟨n, s, some b, cs⟩) :: (Node.trailsOf cs).map fun x => (n :: x.1, x.2)

def Node.trailsOf : List Node → List (List Text × Scope)
  | [] => []
  | n :: ns => Node.trails n ++ Node.trailsOf ns

end

/-- A scope and every scope in it with their trails, outer before inner, in source order. -/
def Scope.trails (s : Scope) : List (List Text × Scope) := ([], s) :: Node.trailsOf s.children

/-- What is left of a pattern behind a trail, key by key. -/
def Pattern.follow? : List Text → Pattern → Option Pattern
  | [], p => some p
  | n :: ns, p => (p.get? n).bind (follow? ns)

/-! ## Trails and the walk -/

mutual

theorem Node.map_snd_trails : (n : Node) → n.trails.map Prod.snd = n.scopes
  | .statement .. => by rw [Node.trails, Node.scopes, List.map_nil]
  | .block n s header b cs => by
    rw [Node.trails, Node.scopes, List.map_cons, List.map_map, ← Node.map_snd_trailsOf cs]
    rfl

private theorem Node.map_snd_trailsOf : (ns : List Node) →
    (Node.trailsOf ns).map Prod.snd = Node.scopesOf ns
  | [] => by rw [Node.trailsOf, Node.scopesOf, List.map_nil]
  | n :: ns => by
    rw [Node.trailsOf, Node.scopesOf, List.map_append, Node.map_snd_trails n,
      Node.map_snd_trailsOf ns]

end

private theorem Node.trailsOf_eq_flatMap (ns : List Node) : Node.trailsOf ns =
    (ns.filterMap Node.scope?).flatMap fun b => b.trails.map fun x => (b.name :: x.1, x.2) := by
  induction ns with
  | nil => rw [Node.trailsOf, List.filterMap_nil, List.flatMap_nil]
  | cons n ns ih =>
    rw [Node.trailsOf, ih]
    cases n with
    | statement _ _ _ => rw [Node.trails, List.nil_append, List.filterMap_cons_none rfl]
    | block n s header b cs =>
      have hscope : (Node.block n s header b cs).scope? = some ⟨n, s, some b, cs⟩ := rfl
      rw [Node.trails, List.filterMap_cons_some hscope, List.flatMap_cons]
      rfl

namespace Scope

theorem map_snd_trails (s : Scope) : s.trails.map Prod.snd = s.walk := by
  rw [trails, walk, List.map_cons, Node.map_snd_trailsOf]

private theorem mem_trails {s t : Scope} {names : List Text} :
    (names, t) ∈ s.trails ↔ (names = [] ∧ t = s) ∨
      ∃ b ∈ s.blocks, ∃ ns, names = b.name :: ns ∧ (ns, t) ∈ b.trails := by
  rw [trails, Node.trailsOf_eq_flatMap, List.mem_cons, Prod.mk.injEq, List.mem_flatMap]
  refine or_congr_right (exists_congr fun b => and_congr_right fun _ => ?_)
  simp only [List.mem_map, Prod.exists, Prod.mk.injEq]
  constructor
  · rintro ⟨ns, t, hmem, rfl, rfl⟩
    exact ⟨ns, rfl, hmem⟩
  · rintro ⟨ns, rfl, hmem⟩
    exact ⟨ns, t, hmem, rfl, rfl⟩

theorem mem_trails_iff {s t : Scope} {names : List Text} :
    (names, t) ∈ s.trails ↔ s.Leads names t := by
  constructor
  · intro h
    induction names generalizing s with
    | nil =>
      obtain ⟨-, rfl⟩ | ⟨b, -, ns, hns, -⟩ := mem_trails.mp h
      · exact .here t
      · cases hns
    | cons n names ih =>
      obtain ⟨hnil, -⟩ | ⟨b, hb, ns, hns, hmem⟩ := mem_trails.mp h
      · cases hnil
      · cases hns
        exact .inside hb (ih hmem)
  · intro h
    induction h with
    | here s => exact mem_trails.mpr (.inl ⟨rfl, rfl⟩)
    | inside hb _ ih => exact mem_trails.mpr (.inr ⟨_, hb, _, rfl, ih⟩)

private theorem Leads.snoc {s t b : Scope} {names : List Text} (h : s.Leads names t)
    (hb : b ∈ t.blocks) : s.Leads (names ++ [b.name]) b := by
  induction h with
  | here s => exact .inside hb (.here b)
  | inside hmem _ ih => exact .inside hmem (ih hb)

end Scope

/-! ## Trails and the search -/

namespace Pattern

private theorem follow?_leaf (n : Text) (ns : List Text) : leaf.follow? (n :: ns) = none := rfl

private theorem follow?_ofPath {names ns : List Text} :
    (ofPath ns).follow? names = some leaf ↔ names = ns := by
  induction ns generalizing names with
  | nil =>
    cases names with
    | nil => simp [ofPath, follow?]
    | cons m ms => simp [ofPath, follow?_leaf]
  | cons n ns ih =>
    cases names with
    | nil => simp [ofPath, follow?]
    | cons m ms =>
      by_cases h : n = m
      · simp [ofPath, follow?, get?, h, ih]
      · simp [ofPath, follow?, get?, h, Ne.symm h]

end Pattern

private theorem Node.filter_trailsOf_leaf (ns : List Node) :
    ((Node.trailsOf ns).filter fun x => Pattern.leaf.follow? x.1 = some .leaf) = [] := by
  rw [List.filter_eq_nil_iff]
  intro x hx
  rw [Node.trailsOf_eq_flatMap, List.mem_flatMap] at hx
  obtain ⟨b, -, hx⟩ := hx
  obtain ⟨y, -, rfl⟩ := List.mem_map.mp hx
  simp [Pattern.follow?_leaf]

mutual

private theorem Node.select_eq (p : Pattern) : (n : Node) → n.select p =
    (n.trails.filter fun x => p.follow? x.1 = some .leaf).map Prod.snd
  | .statement .. => by rw [Node.select, Node.trails, List.filter_nil, List.map_nil]
  | .block n s header b cs => by
    rw [Node.select, Node.trails, List.filter_cons, List.filter_map]
    cases hget : p.get? n with
    | none =>
      have hnone (ns : List Text) : p.follow? (n :: ns) = none := by
        rw [Pattern.follow?, hget]
        rfl
      simp [hnone]
    | some q =>
      have hnext (ns : List Text) : p.follow? (n :: ns) = q.follow? ns := by
        rw [Pattern.follow?, hget]
        rfl
      have hrest : ((fun x : List Text × Scope => decide (p.follow? x.1 = some .leaf)) ∘
          fun x : List Text × Scope => (n :: x.1, x.2)) =
            fun x => decide (q.follow? x.1 = some .leaf) := by
        funext x
        simp [hnext]
      rw [hrest, hnext]
      cases q with
      | leaf =>
        rw [Node.filter_trailsOf_leaf]
        rfl
      | entry m below others =>
        rw [if_neg (by simp [Pattern.follow?]), List.map_map]
        exact Node.selectAll_eq (.entry m below others) cs

private theorem Node.selectAll_eq (p : Pattern) : (ns : List Node) → Node.selectAll p ns =
    ((Node.trailsOf ns).filter fun x => p.follow? x.1 = some .leaf).map Prod.snd
  | [] => by rw [Node.selectAll, Node.trailsOf, List.filter_nil, List.map_nil]
  | n :: ns => by
    rw [Node.selectAll, Node.trailsOf, List.filter_append, List.map_append, Node.select_eq p n,
      Node.selectAll_eq p ns]

end

namespace Document

/-- A search is a filter on the walk with its trails. -/
theorem find_eq_filter (d : Document) (p : Pattern) :
    d.find p = (d.root.trails.filter fun x => p.follow? x.1 = some .leaf).map Prod.snd := by
  rw [Scope.trails, List.filter_cons]
  cases p with
  | leaf =>
    rw [if_pos (by simp [Pattern.follow?]), Node.filter_trailsOf_leaf]
    rfl
  | entry n below others =>
    rw [if_neg (by simp [Pattern.follow?])]
    exact Node.selectAll_eq (.entry n below others) d.nodes

theorem find_sublist_walk (d : Document) (p : Pattern) : (d.find p).Sublist d.root.walk := by
  rw [find_eq_filter, ← Scope.map_snd_trails]
  exact List.filter_sublist.map Prod.snd

theorem mem_find_iff {d : Document} {p : Pattern} {s : Scope} :
    s ∈ d.find p ↔ ∃ names, d.root.Leads names s ∧ p.follow? names = some .leaf := by
  rw [find_eq_filter]
  simp only [List.mem_map, List.mem_filter, decide_eq_true_eq, Prod.exists, exists_eq_right,
    Scope.mem_trails_iff]

private theorem find_ofPath (d : Document) (names : List Text) :
    d.find (.ofPath names) = (d.root.trails.filter fun x => x.1 = names).map Prod.snd := by
  rw [find_eq_filter]
  simp only [Pattern.follow?_ofPath]

private theorem find_ofPath_eq_nil_iff {d : Document} {names : List Text} :
    d.find (.ofPath names) = [] ↔ ∀ s, ¬ d.root.Leads names s := by
  rw [List.eq_nil_iff_forall_not_mem]
  refine forall_congr' fun s => not_congr ?_
  simp only [mem_find_iff, Pattern.follow?_ofPath, exists_eq_right]

private theorem first_of_find_ofPath {d : Document} {names : List Text} {s : Scope}
    (h : (d.find (.ofPath names)).head? = some s) :
    ∃ before after, d.root.trails = before ++ (names, s) :: after ∧
      ∀ x ∈ before, x.1 ≠ names := by
  rw [find_ofPath, List.head?_map, List.head?_filter, Option.map_eq_some_iff] at h
  obtain ⟨x, hx, rfl⟩ := h
  obtain ⟨hnames, before, after, htrails, hbefore⟩ := List.find?_eq_some_iff_append.mp hx
  have hnames : x.1 = names := of_decide_eq_true hnames
  refine ⟨before, after, by rw [htrails, ← hnames], ?_⟩
  intro y hy
  simpa using hbefore y hy

end Document

/-! ## The target -/

namespace Plan

/-- The search for a target: first with the whole pattern, then along ever shorter beginnings of
its path. It ends in `none` when not even the empty path leads anywhere. -/
def search? (d : Document) (p : Pattern) (chain : List Text) : Option (Scope × List Text) :=
  match d.find p with
  | s :: _ => some (s, [])
  | [] => (List.range chain.length).reverse.findSome? fun depth =>
    (d.find (.ofPath (chain.take depth))).head?.map (·, chain.drop depth)

private theorem findSome?_eq_deepest (d : Document) (chain : List Text) (depth : Nat) :
    ((List.range (depth + 1)).reverse.findSome? fun depth =>
      (d.find (.ofPath (chain.take depth))).head?.map (·, chain.drop depth)) =
        some (deepest d chain depth) := by
  induction depth with
  | zero => rfl
  | succ depth ih =>
    rw [List.range_succ, List.reverse_append, List.reverse_singleton, List.singleton_append,
      List.findSome?_cons, ih, deepest]
    cases d.find (.ofPath (chain.take (depth + 1))) with
    | nil => rfl
    | cons s ss => rfl

/-- The names before the missing ones are the longest beginning of the path that leads anywhere,
and the target is the first scope they lead to. -/
theorem exists_reached (d : Document) (chain : List Text) :
    ∃ reached, chain = reached ++ (target d chain).2 ∧
      (d.find (.ofPath reached)).head? = some (target d chain).1 ∧
      ∀ names s, names <+: chain → d.root.Leads names s → names.length ≤ reached.length := by
  obtain ⟨k, hk, hmissing, hhead, hnone⟩ := exists_deepest d chain chain.length
  refine ⟨chain.take k, ?_, hhead, ?_⟩
  · rw [target, hmissing, List.take_append_drop]
  · intro names s hnames hs
    rw [List.length_take, Nat.min_eq_left hk]
    refine Nat.le_of_not_lt fun hlt => ?_
    have hnil := hnone names.length hlt hnames.length_le
    rw [← List.prefix_iff_eq_take.mp hnames] at hnil
    exact Document.find_ofPath_eq_nil_iff.mp hnil s hs

/-- The search always ends at the target: the empty path leads to the document itself. -/
theorem search?_eq_target {p : Pattern} {chain : List Text} (h : p.chain = .ok chain)
    (d : Document) : search? d p chain = some (target d chain) := by
  rw [Pattern.eq_ofPath_of_chain h, search?, target]
  cases hlen : chain.length with
  | zero =>
    rw [List.eq_nil_of_length_eq_zero hlen]
    rfl
  | succ depth =>
    rw [findSome?_eq_deepest, deepest, List.take_of_length_le (by omega)]
    cases d.find (.ofPath chain) with
    | nil => rfl
    | cons s ss => rw [List.drop_eq_nil_of_le (by omega)]

/-- The target of an injection is the first scope, in source order, whose trail is the longest
beginning of the path that is a trail at all. The rest of the path is missing: no scope has the
trail with one more name, and the target has no block of that name. The search ends there without
ever running out of beginnings. -/
theorem target_first_of_longest_trail (d : Document) (p : Pattern) (chain : List Text)
    (h : p.chain = .ok chain) :
    (∃ reached, chain = reached ++ (target d chain).2 ∧
      (∃ before after, d.root.trails = before ++ (reached, (target d chain).1) :: after ∧
        ∀ x ∈ before, x.1 ≠ reached) ∧
      (∀ names s, names <+: chain → d.root.Leads names s → names.length ≤ reached.length) ∧
      ∀ m ms, (target d chain).2 = m :: ms →
        (∀ s, ¬ d.root.Leads (reached ++ [m]) s) ∧ ∀ b ∈ (target d chain).1.blocks, b.name ≠ m) ∧
    ((target d chain).2 = [] ↔ d.find p ≠ []) ∧
    search? d p chain = some (target d chain) := by
  refine ⟨?_, ?_, search?_eq_target h d⟩
  · obtain ⟨reached, hchain, hhead, hlongest⟩ := exists_reached d chain
    obtain ⟨before, after, htrails, hbefore⟩ := Document.first_of_find_ofPath hhead
    refine ⟨reached, hchain, ⟨before, after, htrails, hbefore⟩, hlongest, ?_⟩
    intro m ms hmissing
    have hnone (s : Scope) : ¬ d.root.Leads (reached ++ [m]) s := by
      intro hs
      have hlen := hlongest (reached ++ [m]) s ⟨ms, by rw [hchain, hmissing]; simp⟩ hs
      rw [List.length_append, List.length_singleton] at hlen
      omega
    refine ⟨hnone, ?_⟩
    rintro b hb rfl
    have hmem : (reached, (target d chain).1) ∈ d.root.trails := by simp [htrails]
    exact hnone b ((Scope.mem_trails_iff.mp hmem).snoc hb)
  · rw [target_missing_eq_nil_iff, ← Pattern.eq_ofPath_of_chain h]

theorem target_first_of_longest_trail_repeated :
    let chain := [['a'], ['b'], ['c']]
    (Pattern.ofPath chain).chain = .ok chain ∧
    ∃ d, Document.parse "a\x7b\x7da\x7bb\x7b\x7d\x7da\x7bb\x7b\x7d\x7d".toList = .ok d ∧
      (target d chain).1.span = ⟨5, 8⟩ ∧ (target d chain).2 = [['c']] ∧
      (∃ before after, d.root.trails = before ++ ([['a'], ['b']], (target d chain).1) :: after ∧
        ∀ x ∈ before, x.1 ≠ [['a'], ['b']]) ∧
      (∀ s, ¬ d.root.Leads chain s) ∧ search? d (.ofPath chain) chain = some (target d chain) := by
  have hparse : ∃ d, Document.parse
      "a\x7b\x7da\x7bb\x7b\x7d\x7da\x7bb\x7b\x7d\x7d".toList = .ok d ∧
      (target d [['a'], ['b'], ['c']]).1.span = ⟨5, 8⟩ ∧
      (target d [['a'], ['b'], ['c']]).2 = [['c']] := ⟨_, by cbv, by cbv, by cbv⟩
  obtain ⟨d, hd, hspan, hmissing⟩ := hparse
  obtain ⟨⟨reached, hchain, hfirst, -, hnext⟩, -, hsearch⟩ :=
    target_first_of_longest_trail d (.ofPath [['a'], ['b'], ['c']]) _ rfl
  rw [hmissing] at hchain
  obtain rfl : [['a'], ['b']] = reached := List.append_cancel_right hchain
  exact ⟨rfl, d, hd, hspan, hmissing, hfirst, (hnext ['c'] [] hmissing).1, hsearch⟩

end Plan

end Graft
