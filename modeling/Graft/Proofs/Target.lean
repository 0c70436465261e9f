import Graft.Plan

/-!
# Where a pattern leads

What a search finds are scopes of the document, and the target of an injection is the first scope
at the end of the longest part of the path that leads anywhere.
-/
namespace Graft

/-! ## Patterns with one path -/

namespace Pattern

private theorem eq_ofPath_of_chainFrom {p : Pattern} {depth : Nat} {ns : List Text}
    (h : p.chainFrom depth = .ok ns) : p = ofPath ns := by
  induction p generalizing depth ns with
  | leaf =>
    cases h
    rfl
  | entry n below others ih _ =>
    rw [chainFrom] at h
    cases others with
    | entry _ _ _ => cases h
    | leaf =>
      rw [isLeaf, if_pos rfl] at h
      cases hbelow : below.chainFrom (depth + 1) with
      | error e =>
        rw [hbelow] at h
        cases h
      | ok ms =>
        rw [hbelow] at h
        cases h
        rw [ofPath, ← ih hbelow]

theorem eq_ofPath_of_chain {p : Pattern} {ns : List Text} (h : p.chain = .ok ns) :
    p = ofPath ns :=
  eq_ofPath_of_chainFrom h

end Pattern

/-! ## What is found -/

mutual

theorem Node.mem_scopes_of_select {p : Pattern} {s : Scope} :
    (n : Node) → s ∈ n.select p → s ∈ n.scopes
  | .statement .., h => by
    rw [Node.select] at h
    cases h
  | .block n sp hd b cs, h => by
    rw [Node.select] at h
    rw [Node.scopes]
    split at h
    · cases h
    · exact List.mem_cons.mpr (.inl (List.mem_singleton.mp h))
    · exact List.mem_cons_of_mem _ (Node.mem_scopesOf_of_selectAll cs h)

theorem Node.mem_scopesOf_of_selectAll {p : Pattern} {s : Scope} :
    (ns : List Node) → s ∈ Node.selectAll p ns → s ∈ Node.scopesOf ns
  | [], h => by
    rw [Node.selectAll] at h
    cases h
  | n :: ns, h => by
    rw [Node.selectAll, List.mem_append] at h
    rw [Node.scopesOf, List.mem_append]
    obtain h | h := h
    · exact .inl (Node.mem_scopes_of_select n h)
    · exact .inr (Node.mem_scopesOf_of_selectAll ns h)

end

private theorem Document.mem_walk_of_find {d : Document} {p : Pattern} {s : Scope}
    (h : s ∈ d.find p) : s ∈ d.root.walk := by
  rw [Scope.walk]
  cases p with
  | leaf => exact List.mem_cons.mpr (.inl (List.mem_singleton.mp h))
  | entry n below others =>
    exact List.mem_cons_of_mem _ (Node.mem_scopesOf_of_selectAll d.nodes h)

/-! ## The target -/

namespace Plan

/-- The target is the first scope that some beginning of the path leads to, and no longer beginning
leads anywhere. -/
theorem exists_deepest (d : Document) (chain : List Text) (depth : Nat) :
    ∃ k ≤ depth, (deepest d chain depth).2 = chain.drop k ∧
      (d.find (.ofPath (chain.take k))).head? = some (deepest d chain depth).1 ∧
      ∀ j, k < j → j ≤ depth → d.find (.ofPath (chain.take j)) = [] := by
  induction depth with
  | zero => exact ⟨0, Nat.le_refl 0, rfl, rfl, fun j h h' => by omega⟩
  | succ depth ih =>
    rw [deepest]
    split
    case h_1 s ss hfind =>
      exact ⟨depth + 1, Nat.le_refl _, rfl, by rw [hfind]; rfl, fun j h h' => by omega⟩
    case h_2 hfind =>
      obtain ⟨k, hk, hmissing, hhead, hnone⟩ := ih
      refine ⟨k, by omega, hmissing, hhead, ?_⟩
      intro j hj hj'
      obtain rfl | hlt := Nat.eq_or_lt_of_le hj'
      · exact hfind
      · exact hnone j hj (by omega)

theorem target_mem_walk (d : Document) (chain : List Text) : (target d chain).1 ∈ d.root.walk := by
  obtain ⟨k, -, -, hhead, -⟩ := exists_deepest d chain chain.length
  exact Document.mem_walk_of_find (List.mem_of_head? hhead)

theorem target_missing_eq_nil_iff (d : Document) (chain : List Text) :
    (target d chain).2 = [] ↔ d.find (.ofPath chain) ≠ [] := by
  obtain ⟨k, hk, hmissing, hhead, hnone⟩ := exists_deepest d chain chain.length
  rw [target, hmissing, List.drop_eq_nil_iff]
  constructor
  · intro hle
    rw [List.take_of_length_le hle] at hhead
    intro hnil
    rw [hnil] at hhead
    cases hhead
  · intro hne
    by_cases hlt : k < chain.length
    · exact absurd (by simpa using hnone chain.length hlt (Nat.le_refl _)) hne
    · omega

end Plan
end Graft
