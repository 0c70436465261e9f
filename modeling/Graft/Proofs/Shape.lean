import Graft.Proofs.Target

/-!
# Shapes

The shape of a tree is what is left of it when it is no longer said where things stand: the kinds
and names of the nodes, the lexemes of their arguments and headers, and the nesting.
-/
namespace Graft

/-- A statement or a block, wherever it stands. -/
inductive Shape where
  | statement (name : Text) (arguments : List Lexeme)
  | block (name : Text) (header : List Lexeme) (children : List Shape)
  deriving Repr

namespace Node

mutual

def shape : Node → Shape
  | statement n _ args => .statement n (args.map Token.toLexeme)
  | block n _ header _ cs => .block n (header.map Token.toLexeme) (shapes cs)

def shapes : List Node → List Shape
  | [] => []
  | n :: ns => n.shape :: shapes ns

end

mutual

/-- A node and all nodes in it, outer before inner, in source order. -/
def family : Node → List Node
  | statement n s args => [statement n s args]
  | block n s header b cs => block n s header b cs :: families cs

def families : List Node → List Node
  | [] => []
  | n :: ns => family n ++ families ns

end

theorem shapes_eq_map (ns : List Node) : shapes ns = ns.map shape := by
  induction ns with
  | nil => rfl
  | cons n ns ih => rw [shapes, ih, List.map_cons]

theorem shapes_append (ms ns : List Node) : shapes (ms ++ ns) = shapes ms ++ shapes ns := by
  simp only [shapes_eq_map, List.map_append]

end Node

/-! ## Sketches -/

/-- How nodes are nested, with a label for each of them. -/
inductive Sketch (α : Type) where
  | statement (label : α)
  | block (label : α) (children : List (Sketch α))

namespace Node

mutual

/-- The sketch of a node with labels for where nodes begin. -/
def sketch {α : Type} (label : Nat → α) : Node → Sketch α
  | statement _ s _ => .statement (label s.start)
  | block _ s _ _ cs => .block (label s.start) (sketches label cs)

def sketches {α : Type} (label : Nat → α) : List Node → List (Sketch α)
  | [] => []
  | n :: ns => sketch label n :: sketches label ns

end

mutual

private theorem sketch_congr {α : Type} {g g' : Nat → α} :
    (n : Node) → (∀ m ∈ n.family, g' m.span.start = g m.span.start) → n.sketch g' = n.sketch g
  | statement n s args, h => congrArg Sketch.statement (h _ List.mem_cons_self)
  | block n s header b cs, h => by
    have hstart : g' s.start = g s.start := h _ List.mem_cons_self
    rw [sketch, sketch, hstart, sketches_congr cs fun m hm => h m (List.mem_cons_of_mem _ hm)]

theorem sketches_congr {α : Type} {g g' : Nat → α} :
    (ns : List Node) → (∀ m ∈ families ns, g' m.span.start = g m.span.start) →
      sketches g' ns = sketches g ns
  | [], _ => rfl
  | n :: ns, h => by
    rw [sketches, sketches, sketch_congr n fun m hm => h m (by simp [families, hm]),
      sketches_congr ns fun m hm => h m (by simp [families, hm])]

end

theorem sketches_append {α : Type} (label : Nat → α) (ms ns : List Node) :
    sketches label (ms ++ ns) = sketches label ms ++ sketches label ns := by
  induction ms with
  | nil => rfl
  | cons m ms ih => rw [List.cons_append, sketches, ih, sketches, List.cons_append]

end Node

/-! ## Scopes by their paths -/

/-- The scope that the numbers of a path lead to: each counts the nodes before the next block. -/
def Scope.at? (s : Scope) : List Nat → Option Scope
  | [] => some s
  | i :: path => (s.children[i]?.bind Node.scope?).bind (Scope.at? · path)

namespace Shape

/-- Changes what is inside a block. -/
def within (f : List Shape → List Shape) : Shape → Shape
  | statement n args => statement n args
  | block n header cs => block n header (f cs)

/-- Adds shapes at the end of the scope that a path leads to. -/
def appendAt (new : List Shape) : List Nat → List Shape → List Shape
  | [], ss => ss ++ new
  | i :: path, ss => ss.modify i (within (appendAt new path))

/-- Blocks without headers, nested along a path of names around shapes. -/
def wrap : List Text → List Shape → List Shape
  | [], ss => ss
  | n :: ns, ss => [block n [] (wrap ns ss)]

theorem appendAt_nil (path : List Nat) (ss : List Shape) : appendAt [] path ss = ss := by
  induction path generalizing ss with
  | nil => exact List.append_nil ss
  | cons i path ih =>
    have hid : within (appendAt [] path) = id := by
      funext s
      cases s with
      | statement n args => rfl
      | block n header cs => rw [within, ih, id]
    rw [appendAt, hid, List.modify_id]

end Shape

namespace Sketch

variable {α : Type}

def within (f : List (Sketch α) → List (Sketch α)) : Sketch α → Sketch α
  | statement l => statement l
  | block l cs => block l (f cs)

/-- Adds sketches at the end of the scope that a path leads to. -/
def appendAt (new : List (Sketch α)) : List Nat → List (Sketch α) → List (Sketch α)
  | [], ss => ss ++ new
  | i :: path, ss => ss.modify i (within (appendAt new path))

end Sketch

mutual

private theorem Node.exists_path_of_mem_scopes {s : Scope} : (n : Node) → s ∈ n.scopes →
    ∃ block path, n.scope? = some block ∧ block.at? path = some s
  | .statement .., h => by cases h
  | .block n span _ b cs, h => by
    refine ⟨⟨n, span, some b, cs⟩, ?_⟩
    obtain rfl | h := List.mem_cons.mp h
    · exact ⟨[], rfl, rfl⟩
    · obtain ⟨i, block, path, hblock, hpath⟩ := exists_path_of_mem_scopesOf cs h
      refine ⟨i :: path, rfl, ?_⟩
      rw [Scope.at?, hblock]
      exact hpath

private theorem Node.exists_path_of_mem_scopesOf {s : Scope} :
    (ns : List Node) → s ∈ Node.scopesOf ns → ∃ (i : Nat) (block : Scope) (path : List Nat),
      ns[i]?.bind Node.scope? = some block ∧ block.at? path = some s
  | [], h => by cases h
  | n :: ns, h => by
    rw [scopesOf, List.mem_append] at h
    obtain h | h := h
    · obtain ⟨block, path, hblock, hpath⟩ := exists_path_of_mem_scopes n h
      exact ⟨0, block, path, hblock, hpath⟩
    · obtain ⟨i, block, path, hblock, hpath⟩ := exists_path_of_mem_scopesOf ns h
      exact ⟨i + 1, block, path, hblock, hpath⟩

end

theorem Scope.exists_path {root s : Scope} (h : s ∈ root.walk) :
    ∃ path, root.at? path = some s := by
  obtain rfl | h := List.mem_cons.mp h
  · exact ⟨[], rfl⟩
  · obtain ⟨i, block, path, hblock, hpath⟩ := Node.exists_path_of_mem_scopesOf root.children h
    refine ⟨i :: path, ?_⟩
    rw [at?, hblock]
    exact hpath

end Graft
