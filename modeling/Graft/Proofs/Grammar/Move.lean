import Graft.Proofs.Grammar.Run
import Graft.Proofs.Shape

/-!
# Moving a part of a script

What stands from offset `a` on can be set to stand from offset `b` on. The rules of the grammar look
at places only to see whether tokens touch, so a derivation that is moved as a whole stays one, and
its nodes are moved along.
-/
namespace Graft

/-! ## Tokens and nodes -/

namespace Token

/-- The token as it is when what stood at `a` stands at `b`. -/
def move (a b : Nat) (t : Token) : Token := { t with start := t.start - a + b }

variable {a b : Nat} {t u : Token}

@[simp] theorem toLexeme_move : (t.move a b).toLexeme = t.toLexeme := rfl

@[simp] theorem text_move : (t.move a b).text = t.text := rfl

theorem stop_move (h : a ≤ t.start) : (t.move a b).stop = t.stop - a + b := by
  simp only [stop, move]
  omega

private theorem le_stop (h : a ≤ t.start) : a ≤ t.stop := by
  rw [stop]
  omega

private theorem touches_move (ht : a ≤ t.start) (hu : a ≤ u.start) :
    (t.move a b).touches (u.move a b) = t.touches u := by
  have hstop := le_stop ht
  rw [Bool.eq_iff_iff, touches, touches, stop_move ht, beq_iff_eq, beq_iff_eq]
  simp only [move]
  omega

theorem place_move {p : Nat} (h : a ≤ p) (ls : List Lexeme) :
    (place p ls).map (move a b) = place (p - a + b) ls := by
  induction ls generalizing p with
  | nil => rfl
  | cons l ls ih =>
    rw [place, List.map_cons, ih (by omega), place]
    simp only [move]
    congr 2
    omega

theorem significant_move (ts : List Token) :
    significant (ts.map (move a b)) = (significant ts).map (move a b) := by
  simp only [significant, List.filter_map]
  rfl

end Token

namespace Node

mutual

/-- The node as it is when what stood at `a` stands at `b`. -/
def move (a b : Nat) : Node → Node
  | statement n s args => statement n ⟨s.start - a + b, s.stop - a + b⟩ (args.map (Token.move a b))
  | block n s header braces cs =>
    block n ⟨s.start - a + b, s.stop - a + b⟩ (header.map (Token.move a b))
      ⟨braces.opening - a + b, braces.closing - a + b⟩ (moveAll a b cs)

def moveAll (a b : Nat) : List Node → List Node
  | [] => []
  | n :: ns => move a b n :: moveAll a b ns

end

mutual

private theorem shape_move (a b : Nat) : (n : Node) → (n.move a b).shape = n.shape
  | statement n s args => by simp [move, shape]
  | block n s header braces cs => by simp [move, shape, shapes_moveAll a b cs]

theorem shapes_moveAll (a b : Nat) : (ns : List Node) → shapes (moveAll a b ns) = shapes ns
  | [] => rfl
  | n :: ns => by rw [moveAll, shapes, shapes, shape_move a b n, shapes_moveAll a b ns]

end

mutual

private theorem sketch_move {α : Type} (label : Nat → α) (a b : Nat) :
    (n : Node) → (n.move a b).sketch label = n.sketch fun p => label (p - a + b)
  | statement n s args => rfl
  | block n s header braces cs => by rw [move, sketch, sketch, sketches_moveAll label a b cs]

theorem sketches_moveAll {α : Type} (label : Nat → α) (a b : Nat) :
    (ns : List Node) → sketches label (moveAll a b ns) = sketches (fun p => label (p - a + b)) ns
  | [] => rfl
  | n :: ns => by
    rw [moveAll, sketches, sketches, sketch_move label a b n, sketches_moveAll label a b ns]

end

end Node

/-! ## Derivations -/

namespace Grammar

section
variable {a b : Nat} {t : Token}

@[simp] theorem isSeparator_move : IsSeparator (t.move a b) ↔ IsSeparator t := Iff.rfl

@[simp] theorem isBracket_move : IsBracket (t.move a b) ↔ IsBracket t := Iff.rfl

private theorem Ended.move {ts : List Token} (h : Ended ts) : Ended (ts.map (Token.move a b)) := by
  intro u hu
  rw [List.head?_map] at hu
  obtain ⟨t, ht, rfl⟩ := Option.map_eq_some_iff.mp hu
  exact h t ht

end

namespace Name

def move (a b : Nat) (n : Name) : Name :=
  ⟨n.first.move a b, n.rest.map fun p => (p.1.move a b, p.2.move a b)⟩

variable {a b : Nat} {n : Name}

private theorem tokens_move : (n.move a b).tokens = n.tokens.map (Token.move a b) := by
  simp [tokens, move, List.flatMap_map, List.map_flatMap]

private theorem text_move : (n.move a b).text = n.text := by
  simp [text, move, List.flatMap_map]

private theorem stopFrom_move {ps : List (Token × Token)} {stop : Nat}
    (h : ∀ t ∈ ps.flatMap (fun p => [p.1, p.2]), a ≤ t.start) :
    stopFrom (stop - a + b) (ps.map fun p => (p.1.move a b, p.2.move a b)) =
      stopFrom stop ps - a + b := by
  induction ps generalizing stop with
  | nil => rfl
  | cons p ps ih =>
    have hp : a ≤ p.2.start := h p.2 (by simp)
    rw [List.map_cons, stopFrom, stopFrom, Token.stop_move hp]
    exact ih fun t ht => h t (by simp [ht])

private theorem stop_move (h : ∀ t ∈ n.tokens, a ≤ t.start) :
    (n.move a b).stop = n.stop - a + b := by
  have hfirst : a ≤ n.first.start := h n.first (by simp [tokens])
  simp only [stop, move]
  rw [Token.stop_move hfirst]
  exact stopFrom_move fun t ht => h t (by simp only [tokens, List.mem_cons]; exact .inr ht)

private theorem le_stopFrom {ps : List (Token × Token)} {stop : Nat} (hstop : a ≤ stop)
    (h : ∀ t ∈ ps.flatMap (fun p => [p.1, p.2]), a ≤ t.start) : a ≤ stopFrom stop ps := by
  induction ps generalizing stop with
  | nil => exact hstop
  | cons p ps ih =>
    exact ih (Token.le_stop (h p.2 (by simp))) fun t ht => h t (by simp [ht])

private theorem Linked.move {ps : List (Token × Token)} {stop : Nat} (h : Linked stop ps)
    (hps : ∀ t ∈ ps.flatMap (fun p => [p.1, p.2]), a ≤ t.start) :
    Linked (stop - a + b) (ps.map fun p => (p.1.move a b, p.2.move a b)) := by
  induction ps generalizing stop with
  | nil => trivial
  | cons p ps ih =>
    obtain ⟨⟨hpoint, hstop⟩, ⟨hkind, htouch⟩, hlinked⟩ := h
    have hp : a ≤ p.1.start := hps p.1 (by simp)
    have hi : a ≤ p.2.start := hps p.2 (by simp)
    refine ⟨⟨hpoint, ?_⟩, ⟨hkind, by rwa [Token.touches_move hp hi]⟩, ?_⟩
    · rw [hstop]
      rfl
    · rw [Token.stop_move hi]
      exact ih hlinked fun t ht => hps t (by simp [ht])

private theorem Valid.move {following : List Token} (h : n.Valid following)
    (hn : ∀ t ∈ n.tokens, a ≤ t.start) (hf : ∀ t ∈ following, a ≤ t.start) :
    (n.move a b).Valid (following.map (Token.move a b)) := by
  have hrest : ∀ t ∈ n.rest.flatMap (fun p => [p.1, p.2]), a ≤ t.start :=
    fun t ht => hn t (by simp only [tokens, List.mem_cons]; exact .inr ht)
  have hfirst : a ≤ n.first.start := hn n.first (by simp [tokens])
  refine ⟨h.identifier, ?_, ?_⟩
  · have hlinked := h.linked.move (b := b) hrest
    rwa [← Token.stop_move hfirst] at hlinked
  · rintro ⟨p, i, rest, hcut, ⟨hp, hstop⟩, hi, htouch⟩
    obtain ⟨p, ys, rfl, rfl, hys⟩ := List.map_eq_cons_iff.mp hcut
    obtain ⟨i, zs, rfl, rfl, -⟩ := List.map_eq_cons_iff.mp hys
    have hpa : a ≤ p.start := hf p (by simp)
    have hle : a ≤ n.stop := le_stopFrom (Token.le_stop hfirst) hrest
    rw [stop_move hn] at hstop
    rw [Token.touches_move hpa (hf i (by simp))] at htouch
    refine h.maximal ⟨p, i, zs, rfl, ⟨hp, ?_⟩, hi, htouch⟩
    simp only [Token.move] at hstop
    omega

end Name

namespace Pieces

def move (a b : Nat) : Pieces → Pieces
  | nil => nil
  | token t rest => token (t.move a b) (move a b rest)
  | group o inside c rest => group (o.move a b) (move a b inside) (c.move a b) (move a b rest)

variable {a b : Nat} {p : Pieces}

private theorem tokens_move : (p.move a b).tokens = p.tokens.map (Token.move a b) := by
  induction p with
  | nil => rfl
  | token t rest ih => simp [move, tokens, ih]
  | group o inside c rest ihi ihr => simp [move, tokens, ihi, ihr]

private theorem kept_move : (p.move a b).kept = p.kept.map (Token.move a b) := by
  rw [kept, kept, tokens_move, List.filter_map]
  rfl

private theorem Nested.move (h : p.Nested) : (p.move a b).Nested := by
  induction h with
  | nil => exact .nil
  | token ht _ ih => exact .token ht ih
  | group hg _ _ ihi ihr => exact .group hg ihi ihr

private theorem Arguments.move (h : p.Arguments) : (p.move a b).Arguments := by
  induction h with
  | nil => exact .nil
  | token hs hb _ ih => exact .token hs hb ih
  | group hg hinside _ ih => exact .group hg hinside.move ih

end Pieces

namespace Body

def move (a b : Nat) : Body → Body
  | nil => nil
  | separator t rest => separator (t.move a b) (move a b rest)
  | statement n args rest => statement (n.move a b) (args.move a b) (move a b rest)
  | block n header breaks o inside c rest =>
    block (n.move a b) (header.move a b) (breaks.map (Token.move a b)) (o.move a b)
      (move a b inside) (c.move a b) (move a b rest)

variable {a b : Nat} {body : Body}

theorem tokens_move : (body.move a b).tokens = body.tokens.map (Token.move a b) := by
  induction body with
  | nil => rfl
  | separator t rest ih => simp [move, tokens, ih]
  | statement n args rest ih => simp [move, tokens, ih, Name.tokens_move, Pieces.tokens_move]
  | block n header breaks o inside c rest ihi ihr =>
    simp [move, tokens, ihi, ihr, Name.tokens_move, Pieces.tokens_move]

theorem nodes_move (h : ∀ t ∈ body.tokens, a ≤ t.start) :
    (body.move a b).nodes = Node.moveAll a b body.nodes := by
  induction body with
  | nil => rfl
  | separator t rest ih => exact ih fun u hu => h u (by simp [tokens, hu])
  | statement n args rest ih =>
    have hn : ∀ t ∈ n.tokens, a ≤ t.start := fun t ht => h t (by simp [tokens, ht])
    have hstop : (((args.move a b).tokens.getLast?).map Token.stop).getD (n.move a b).stop =
        ((args.tokens.getLast?).map Token.stop).getD n.stop - a + b := by
      rw [Pieces.tokens_move, List.getLast?_map]
      cases hlast : args.tokens.getLast? with
      | none => exact Name.stop_move hn
      | some t =>
        exact Token.stop_move (h t (by simp [tokens, List.mem_of_getLast? hlast]))
    rw [move, nodes, hstop, Name.text_move, Pieces.kept_move,
      ih fun u hu => h u (by simp [tokens, hu])]
    rfl
  | block n header breaks o inside c rest ihi ihr =>
    rw [move, nodes, Name.text_move, Pieces.kept_move, ihi fun u hu => h u (by simp [tokens, hu]),
      ihr fun u hu => h u (by simp [tokens, hu]), Token.stop_move (h c (by simp [tokens]))]
    rfl

theorem Valid.move {after : List Token} (hbody : body.Valid after)
    (h : ∀ t ∈ body.tokens ++ after, a ≤ t.start) :
    (body.move a b).Valid (after.map (Token.move a b)) := by
  induction hbody with
  | nil => exact .nil
  | separator ht _ ih => exact .separator ht (ih fun u hu => h u (by simp_all [tokens]))
  | @statement after n args rest hn hne hargs hend _ ih =>
    have hn' := hn.move (b := b) (fun t ht => h t (by simp [tokens, ht]))
      (fun t ht => h t (by simp at ht; simp [tokens, ht]))
    have hend' := hend.move (a := a) (b := b)
    simp only [List.map_append, ← tokens_move, ← Pieces.tokens_move] at hn' hend'
    exact .statement hn' (by cases args <;> simp_all [Pieces.move]) hargs.move hend'
      (ih fun t ht => h t (by simp at ht; simp [tokens, ht]))
  | @block after n header breaks o inside c rest hn hh hbk hor hbr _ _ ihi ihr =>
    have hn' := hn.move (b := b) (fun t ht => h t (by simp [tokens, ht]))
      (fun t ht => h t (by simp at ht; simp [tokens, ht]))
    have hinside := ihi fun t ht => h t (by simp at ht; simp [tokens, ht])
    simp only [List.map_append, List.map_cons, ← tokens_move, ← Pieces.tokens_move] at hn' hinside
    refine .block hn' hh.move ?_ ?_ hbr hinside
      (ihr fun t ht => h t (by simp at ht; simp [tokens, ht]))
    · intro t ht
      obtain ⟨u, hu, rfl⟩ := List.mem_map.mp ht
      exact hbk u hu
    · obtain rfl | rfl := hor
      · exact .inl rfl
      · exact .inr rfl

end Body
end Grammar
end Graft
