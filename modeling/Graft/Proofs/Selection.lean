import Graft.Proofs.Conversion
import Graft.Proofs.Landing
import Graft.Proofs.Margin
import Graft.Proofs.Trail

/-!
# What a search selects

The blocks of a document that was read nest: each lies between the braces of the block around it,
and behind the blocks before it. So a scope has just one trail, and the scopes that a search selects
come once each, in source order and apart from each other.
-/
namespace Graft

/-! ## Nested scopes -/

/-- A scope with its braces in its span, and its nodes in order between them. -/
structure Scope.Nests (s : Scope) : Prop where
  braces : ∀ b ∈ s.braces, s.span.start ≤ b.opening ∧ b.opening < b.closing ∧
    b.closing < s.span.stop
  inside : ∀ n ∈ s.children, s.body.contains n.span = true
  ordered : s.children.Pairwise fun m n => m.span.stop ≤ n.span.start

namespace Scope

private theorem Placed.nests {source : Text} {ts : List Token} {s : Scope}
    (h : s.Placed source ts) : s.Nests := by
  refine ⟨fun b hb => ?_, h.spread.inside, h.spread.ordered⟩
  obtain ⟨-, -, hstart, hlt, hstop⟩ := h.braces b hb
  omega

private theorem Lies.nests {source : Text} {s : Scope} (h : s.Lies source) : s.Nests := by
  refine ⟨fun b hb => ?_, h.inside, h.ordered⟩
  obtain ⟨hstart, hlt, hstop, -⟩ := h.braces b hb
  exact ⟨hstart, hlt, hstop⟩

private theorem Nests.start_lt_stop {s : Scope} (h : s.Nests) (hs : s.isDocument = false) :
    s.span.start < s.span.stop := by
  rw [isDocument] at hs
  cases hb : s.braces with
  | none =>
    rw [hb] at hs
    cases hs
  | some b =>
    have := h.braces b hb
    omega

private theorem Nests.child_within {s : Scope} {b : Braces} (h : s.Nests) (hb : s.braces = some b)
    {n : Node} (hn : n ∈ s.children) :
    s.span.start < n.span.start ∧ n.span.stop < s.span.stop := by
  have hbraces := h.braces b hb
  have hbody := Span.contains_iff.mp (h.inside n hn)
  simp only [body, hb] at hbody
  omega

end Scope

private theorem Document.IsRead.nests {d : Document} (h : d.IsRead) :
    ∀ s ∈ d.root.walk, s.Nests := by
  intro s hs
  obtain h | ⟨os, h⟩ := h
  · obtain ⟨ts, -, hsource, hlayout, hin⟩ := Grammar.parse_layout h
    obtain rfl | hs := List.mem_cons.mp hs
    · have hspread := hlayout.spread hin
      exact ⟨by simp [Document.root], hspread.inside, hspread.ordered⟩
    · exact (hlayout.scopes hin s hs).nests
  · exact (Outline.lies_of_toDocument h s hs).nests

/-! ## The order of the walk -/

namespace Node

mutual

private theorem contains_of_mem_scopes {s : Scope} : (n : Node) → (∀ t ∈ n.scopes, t.Nests) →
    s ∈ n.scopes → n.span.contains s.span = true
  | .statement .., _, hs => by cases hs
  | .block n span header b cs, h, hs => by
    rw [scopes] at h hs
    obtain ⟨hself, hrest⟩ := List.forall_mem_cons.mp h
    rw [Span.contains_iff]
    obtain rfl | hs := List.mem_cons.mp hs
    · exact ⟨Nat.le_refl _, Nat.le_refl _⟩
    · obtain ⟨c, hc, hspan⟩ := exists_contains_of_mem_scopesOf cs hrest hs
      obtain ⟨hstart, hstop⟩ := hself.child_within rfl hc
      obtain ⟨hstart', hstop'⟩ := Span.contains_iff.mp hspan
      exact ⟨hstart.le.trans hstart', hstop'.trans hstop.le⟩

private theorem exists_contains_of_mem_scopesOf {s : Scope} : (ns : List Node) →
    (∀ t ∈ scopesOf ns, t.Nests) → s ∈ scopesOf ns → ∃ n ∈ ns, n.span.contains s.span = true
  | [], _, hs => by cases hs
  | n :: ns, h, hs => by
    rw [scopesOf, List.forall_mem_append] at h
    rw [scopesOf, List.mem_append] at hs
    obtain hs | hs := hs
    · exact ⟨n, List.mem_cons_self, contains_of_mem_scopes n h.1 hs⟩
    · obtain ⟨m, hm, hspan⟩ := exists_contains_of_mem_scopesOf ns h.2 hs
      exact ⟨m, List.mem_cons_of_mem n hm, hspan⟩

end

private theorem stop_le_start_of_mem {n : Node} {ns : List Node} {s t : Scope}
    (hn : ∀ u ∈ n.scopes, u.Nests) (hns : ∀ u ∈ scopesOf ns, u.Nests)
    (hordered : (n :: ns).Pairwise fun m n => m.span.stop ≤ n.span.start)
    (hs : s ∈ n.scopes) (ht : t ∈ scopesOf ns) : s.span.stop ≤ t.span.start := by
  obtain ⟨m, hm, hspan⟩ := exists_contains_of_mem_scopesOf ns hns ht
  calc s.span.stop
    _ ≤ n.span.stop := (Span.contains_iff.mp (contains_of_mem_scopes n hn hs)).2
    _ ≤ m.span.start := List.rel_of_pairwise_cons hordered hm
    _ ≤ t.span.start := (Span.contains_iff.mp hspan).1

mutual

private theorem scopes_ascend : (n : Node) → (∀ s ∈ n.scopes, s.Nests) →
    n.scopes.Pairwise fun s t => s.span.start < t.span.start
  | .statement .., _ => by
    rw [scopes]
    exact .nil
  | .block n span header b cs, h => by
    rw [scopes] at h ⊢
    obtain ⟨hself, hrest⟩ := List.forall_mem_cons.mp h
    refine List.pairwise_cons.mpr ⟨?_, scopesOf_ascend cs hrest hself.ordered⟩
    intro t ht
    obtain ⟨c, hc, hspan⟩ := exists_contains_of_mem_scopesOf cs hrest ht
    calc span.start
      _ < c.span.start := (hself.child_within rfl hc).1
      _ ≤ t.span.start := (Span.contains_iff.mp hspan).1

private theorem scopesOf_ascend : (ns : List Node) → (∀ s ∈ scopesOf ns, s.Nests) →
    (ns.Pairwise fun m n => m.span.stop ≤ n.span.start) →
    (scopesOf ns).Pairwise fun s t => s.span.start < t.span.start
  | [], _, _ => by
    rw [scopesOf]
    exact .nil
  | n :: ns, h, hordered => by
    rw [scopesOf] at h ⊢
    obtain ⟨hn, hns⟩ := List.forall_mem_append.mp h
    refine List.pairwise_append.mpr
      ⟨scopes_ascend n hn, scopesOf_ascend ns hns hordered.of_cons, ?_⟩
    intro s hs t ht
    calc s.span.start
      _ < s.span.stop := (hn s hs).start_lt_stop (Plan.isDocument_of_mem_scopes n hs)
      _ ≤ t.span.start := stop_le_start_of_mem hn hns hordered hs ht

end

mutual

private theorem select_apart {p : Pattern} : (n : Node) → (∀ s ∈ n.scopes, s.Nests) →
    (n.select p).Pairwise fun s t => s.span.stop ≤ t.span.start
  | .statement .., _ => by
    rw [select]
    exact .nil
  | .block n span header b cs, h => by
    rw [scopes] at h
    obtain ⟨hself, hrest⟩ := List.forall_mem_cons.mp h
    rw [select]
    split
    · exact .nil
    · exact List.pairwise_singleton _ _
    · exact selectAll_apart cs hrest hself.ordered

/-- A search takes a block or goes on inside it, never both. So what it selects lies apart. -/
theorem selectAll_apart {p : Pattern} : (ns : List Node) → (∀ s ∈ scopesOf ns, s.Nests) →
    (ns.Pairwise fun m n => m.span.stop ≤ n.span.start) →
    (selectAll p ns).Pairwise fun s t => s.span.stop ≤ t.span.start
  | [], _, _ => by
    rw [selectAll]
    exact .nil
  | n :: ns, h, hordered => by
    rw [scopesOf] at h
    obtain ⟨hn, hns⟩ := List.forall_mem_append.mp h
    rw [selectAll]
    refine List.pairwise_append.mpr
      ⟨select_apart n hn, selectAll_apart ns hns hordered.of_cons, ?_⟩
    intro s hs t ht
    exact stop_le_start_of_mem hn hns hordered (mem_scopes_of_select n hs)
      (mem_scopesOf_of_selectAll ns ht)

end

end Node

/-! ## Selected scopes -/

namespace Document

variable {d : Document}

private theorem IsRead.walk_nodup (hd : d.IsRead) : d.root.walk.Nodup := by
  obtain ⟨hroot, hscopes⟩ := List.forall_mem_cons.mp hd.nests
  refine List.nodup_cons.mpr ⟨?_, ?_⟩
  · intro hmem
    cases Plan.isDocument_of_mem_scopesOf _ hmem
  · refine (Node.scopesOf_ascend _ hscopes hroot.ordered).imp ?_
    rintro s t hlt rfl
    exact Nat.lt_irrefl _ hlt

/-- No two blocks are the same, so a scope has one trail. -/
theorem IsRead.trail_unique (hd : d.IsRead) {names ns : List Text} {s : Scope}
    (h : d.root.Leads names s) (h' : d.root.Leads ns s) : names = ns := by
  have hnodup := hd.walk_nodup
  rw [← Scope.map_snd_trails] at hnodup
  have heq := List.inj_on_of_nodup_map hnodup (Scope.mem_trails_iff.mpr h)
    (Scope.mem_trails_iff.mpr h') rfl
  exact congrArg Prod.fst heq

private theorem exists_leads {s : Scope} (hs : s ∈ d.root.walk) :
    ∃ names, d.root.Leads names s := by
  rw [← Scope.map_snd_trails] at hs
  obtain ⟨⟨names, t⟩, hmem, rfl⟩ := List.mem_map.mp hs
  exact ⟨names, Scope.mem_trails_iff.mp hmem⟩

private theorem IsRead.find_apart (hd : d.IsRead) (p : Pattern) :
    (d.find p).Pairwise fun s t => s.span.start < s.span.stop ∧ s.span.stop ≤ t.span.start ∧
      t.span.start < t.span.stop := by
  obtain ⟨hroot, hscopes⟩ := List.forall_mem_cons.mp hd.nests
  cases p with
  | leaf => exact List.pairwise_singleton _ _
  | entry n below others =>
    have hlt {s : Scope} (hs : s ∈ d.find (.entry n below others)) :
        s.span.start < s.span.stop := by
      have hmem := Node.mem_scopesOf_of_selectAll d.nodes hs
      exact (hscopes s hmem).start_lt_stop (Plan.isDocument_of_mem_scopesOf _ hmem)
    refine (Node.selectAll_apart d.nodes hscopes hroot.ordered).imp_of_mem ?_
    intro s t hs ht hle
    exact ⟨hlt hs, hle, hlt ht⟩

/-- A search selects just the scopes whose trail leads to a leaf of the pattern. They come once
each, in the order of the walk, each beginning behind the one before it, and none in another. -/
theorem find_selects_leaf_trails (hd : d.IsRead) (p : Pattern) :
    (∀ s ∈ d.root.walk, ∃! names, d.root.Leads names s) ∧
    (∀ names s, d.root.Leads names s → (s ∈ d.find p ↔ p.follow? names = some .leaf)) ∧
    (d.find p).Sublist d.root.walk ∧ (d.find p).Nodup ∧
    ((d.find p).Pairwise fun s t => s.span.start < t.span.start) ∧
    (d.find p).Pairwise fun s t => s.span.stop ≤ t.span.start ∧
      s.span.contains t.span = false ∧ t.span.contains s.span = false := by
  refine ⟨?_, ?_, find_sublist_walk d p, hd.walk_nodup.sublist (find_sublist_walk d p), ?_, ?_⟩
  · intro s hs
    obtain ⟨names, hnames⟩ := exists_leads hs
    exact ⟨names, hnames, fun ns hns => hd.trail_unique hns hnames⟩
  · intro names s hnames
    rw [mem_find_iff]
    constructor
    · rintro ⟨ns, hns, hleaf⟩
      rwa [hd.trail_unique hnames hns]
    · exact fun hleaf => ⟨names, hnames, hleaf⟩
  · refine (hd.find_apart p).imp ?_
    intro s t hst
    omega
  · refine (hd.find_apart p).imp ?_
    intro s t hst
    simp only [← Bool.not_eq_true, Span.contains_iff]
    omega

theorem find_selects_leaf_trails_forked :
    let p := Pattern.entry ['b'] .leaf (.entry ['a'] (.entry ['b'] .leaf .leaf) .leaf)
    ∃ d, Document.parse "a\x7bb\x7b\x7dc\x7b\x7d\x7db\x7b\x7da\x7bb\x7b\x7d\x7d".toList = .ok d ∧
      d.IsRead ∧ (d.find p).map (·.span) = [⟨2, 5⟩, ⟨9, 12⟩, ⟨14, 17⟩] ∧
      (∀ names s, d.root.Leads names s → (s ∈ d.find p ↔ p.follow? names = some .leaf)) ∧
      (d.find p).Sublist d.root.walk ∧ (d.find p).Nodup := by
  intro p
  have hparse : ∃ d, Document.parse
      "a\x7bb\x7b\x7dc\x7b\x7d\x7db\x7b\x7da\x7bb\x7b\x7d\x7d".toList = .ok d ∧
      d.source = "a\x7bb\x7b\x7dc\x7b\x7d\x7db\x7b\x7da\x7bb\x7b\x7d\x7d".toList ∧
      (d.find p).map (·.span) = [⟨2, 5⟩, ⟨9, 12⟩, ⟨14, 17⟩] := ⟨_, by cbv, rfl, by cbv⟩
  obtain ⟨d, hd, hsource, hfind⟩ := hparse
  have hread : d.IsRead := .inl (hsource.symm ▸ hd)
  obtain ⟨-, hleaf, hsub, hnodup, -⟩ := find_selects_leaf_trails hread p
  exact ⟨d, hd, hread, hfind, hleaf, hsub, hnodup⟩

end Document
end Graft
