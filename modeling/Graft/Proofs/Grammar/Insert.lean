import Graft.Proofs.Grammar.Move
import Mathlib.Data.List.Basic

/-!
# Inserting into derivations

A derivation can be put behind another one, and it can be opened at any of its blocks to change what
is inside; what follows is moved, as far as the closing brace of the block is. In both cases the
rules hold on, since they look at most one token beyond an item, and never past a brace or a line
end.
-/
namespace Graft

/-! ## Trees -/

namespace Node

/-- The block with other nodes inside, and with its closing brace moved from `a` to `b`. -/
def stretch (a b : Nat) (f : List Node → List Node) : Node → Node
  | statement n s args => statement n s args
  | block n s header braces cs =>
    block n ⟨s.start, s.stop - a + b⟩ header ⟨braces.opening, braces.closing - a + b⟩ (f cs)

/-- Other nodes in the scope that a path leads to. The closing brace of the scope moves from `a` to
`b`, and all that follows is moved along. -/
def refill (a b : Nat) (inside : List Node) : List Nat → List Node → List Node
  | [], _ => inside
  | i :: path, ns =>
    match ns.drop i with
    | [] => ns
    | n :: rest => ns.take i ++ n.stretch a b (refill a b inside path) :: moveAll a b rest

variable {a b : Nat} {inside : List Node} {i : Nat} {path : List Nat} {n : Node} {ns : List Node}

theorem refill_nil : refill a b inside [] ns = inside := rfl

theorem refill_zero : refill a b inside (0 :: path) (n :: ns) =
    n.stretch a b (refill a b inside path) :: moveAll a b ns :=
  rfl

private theorem refill_succ : refill a b inside ((i + 1) :: path) (n :: ns) =
    n :: refill a b inside (i :: path) ns := by
  simp only [refill, List.drop_succ_cons, List.take_succ_cons]
  split <;> rfl

/-- Nodes at the end of a scope are shapes at the end of its shape. -/
theorem shapes_refill {root s : Scope} (h : root.at? path = some s) (new : List Node) :
    shapes (refill a b (s.children ++ new) path root.children) =
      Shape.appendAt (shapes new) path (shapes root.children) := by
  induction path generalizing root with
  | nil =>
    obtain rfl : root = s := Option.some.inj h
    exact shapes_append _ _
  | cons i path ih =>
    rw [Scope.at?] at h
    generalize root.children = ns at h
    induction i generalizing ns with
    | zero =>
      cases ns with
      | nil => cases h
      | cons n ns =>
        cases n with
        | statement n span args => cases h
        | block n span header braces cs =>
          have hpath : (⟨n, span, some braces, cs⟩ : Scope).at? path = some s := by
            simpa [Node.scope?] using h
          have hinner := ih hpath
          simp only [refill_zero, stretch, shapes, shape, shapes_moveAll, hinner]
          rfl
    | succ i ihi =>
      cases ns with
      | nil => cases h
      | cons n ns =>
        rw [refill_succ, shapes, ihi ns (by simpa using h)]
        rfl

theorem at?_refill {root s : Scope} (h : root.at? path = some s) {r : Scope}
    (hroot : r.children = refill a b inside path root.children) :
    ∃ t, r.at? path = some t ∧ t.children = inside ∧ (path ≠ [] →
      t.span.start = s.span.start ∧
      t.braces = s.braces.map fun x => ⟨x.opening, x.closing - a + b⟩) := by
  induction path generalizing root r with
  | nil => exact ⟨r, rfl, hroot, fun hne => absurd rfl hne⟩
  | cons i path ih =>
    simp only [Scope.at?] at h ⊢
    rw [hroot]
    clear hroot
    generalize root.children = ns at h
    induction i generalizing ns with
    | zero =>
      cases ns with
      | nil => cases h
      | cons n ns =>
        cases n with
        | statement n span args => cases h
        | block n span header braces cs =>
          have hpath : (⟨n, span, some braces, cs⟩ : Scope).at? path = some s := by
            simpa [Node.scope?] using h
          obtain ⟨t, ht, hchildren, hlater⟩ := ih hpath
            (r := ⟨n, ⟨span.start, span.stop - a + b⟩,
              some ⟨braces.opening, braces.closing - a + b⟩, refill a b inside path cs⟩) rfl
          refine ⟨t, by simpa [refill_zero, stretch, Node.scope?] using ht, hchildren, fun _ => ?_⟩
          cases path with
          | nil =>
            obtain rfl := Option.some.inj hpath
            obtain rfl := Option.some.inj ht
            exact ⟨rfl, rfl⟩
          | cons j path => exact hlater (by simp)
    | succ i ihi =>
      cases ns with
      | nil => cases h
      | cons n ns =>
        rw [refill_succ]
        simpa using ihi ns (by simpa using h)

end Node

namespace Grammar

open Graft.Tree (isSymbol_eq_false kind_ne_of_isSymbol kept_reverse tokens_ne_nil)

/-! ## What follows -/

private theorem Ended.head?_kind {ts : List Token} (h : Ended ts) :
    ∀ t ∈ ts.head?, t.kind ≠ .identifier := by
  intro t ht
  obtain (hline | hsemi) | hclose := h t ht
  · simp [hline]
  · exact kind_ne_of_isSymbol hsemi (by decide)
  · exact kind_ne_of_isSymbol hclose (by decide)

theorem ended_cons {t : Token} (h : IsSeparator t ∨ t.isSymbol '}') (ts : List Token) :
    Ended (t :: ts) := by
  intro u hu
  obtain rfl : t = u := by simpa using hu
  exact h

private theorem Ended.append {xs ys : List Token} (h : Ended (xs ++ ys)) (hne : xs ≠ [])
    (ys' : List Token) : Ended (xs ++ ys') := by
  cases xs with
  | nil => exact absurd rfl hne
  | cons x xs => exact h

namespace Name

private theorem Extends.congr {stop : Nat} {xs ys ys' : List Token} (h : Extends stop (xs ++ ys'))
    (hpoint : xs = [] → ∀ t ∈ ys'.head?, t.isSymbol '.' = false)
    (hkind : ∀ t ∈ ys'.head?, t.kind ≠ .identifier) : Extends stop (xs ++ ys) := by
  obtain ⟨p, i, rest, hcut, hp, hi⟩ := h
  cases xs with
  | nil =>
    rw [List.nil_append] at hcut
    have hnot := hpoint rfl p (by simp [hcut])
    rw [hp.1] at hnot
    cases hnot
  | cons x xs =>
    cases xs with
    | nil =>
      obtain ⟨rfl, hys⟩ : x = p ∧ ys' = i :: rest := by simpa using hcut
      exact absurd hi.1 (hkind i (by simp [hys]))
    | cons y xs =>
      obtain ⟨rfl, rfl, -⟩ : x = p ∧ y = i ∧ xs ++ ys' = rest := by simpa using hcut
      exact ⟨x, y, xs ++ ys, rfl, hp, hi⟩

/-- Whether a name ends before its arguments does not depend on what ends the statement. -/
theorem Valid.arguments {n : Name} {xs ys ys' : List Token} (h : n.Valid (xs ++ ys)) (hne : xs ≠ [])
    (hys : Ended ys') : n.Valid (xs ++ ys') :=
  ⟨h.identifier, h.linked, fun hext =>
    h.maximal (hext.congr (fun hnil => absurd hnil hne) hys.head?_kind)⟩

private theorem Valid.brace {n : Name} {xs ys : List Token} {o : Token}
    (h : n.Valid (xs ++ o :: ys))
    (ho : o.isSymbol '{') (ys' : List Token) : n.Valid (xs ++ o :: ys') := by
  refine ⟨h.identifier, h.linked, fun hext =>
    h.maximal (hext.congr (fun _ t ht => ?_) fun t ht => ?_)⟩
  · obtain rfl : o = t := by simpa using ht
    exact isSymbol_eq_false ho (by decide)
  · obtain rfl : o = t := by simpa using ht
    exact kind_ne_of_isSymbol ho (by decide)

end Name

namespace Body

theorem eq_nil_of_tokens {b : Body} (h : b.tokens = []) : b = .nil := by
  cases b with
  | nil => rfl
  | separator t rest => cases h
  | statement n args rest => simp [tokens, Name.tokens] at h
  | block n header breaks o inside c rest => simp [tokens] at h

theorem Valid.head?_tokens {b : Body} {after : List Token} (h : b.Valid after) :
    ∀ t ∈ b.tokens.head?, IsSeparator t ∨ t.kind = .identifier := by
  cases h with
  | nil => simp [tokens]
  | separator ht _ => simpa [tokens] using .inl ht
  | statement hn _ _ _ _ => simpa [tokens, Name.tokens] using .inr hn.identifier
  | block hn _ _ _ _ _ _ => simpa [tokens, Name.tokens] using .inr hn.identifier

/-- What a body is valid before matters only where a statement may go on. -/
theorem Valid.congr {b : Body} {after after' : List Token} (h : b.Valid after)
    (hafter : Ended after' ∨ ∃ t, b.tokens.getLast? = some t ∧ t.kind = .newline) :
    b.Valid after' := by
  -- the alternative goes over to the items behind the first one, if there are any
  have hrest {ts : List Token} (xs : List Token) {ys : List Token}
      (h : Ended ts ∨ ∃ t, (xs ++ ys).getLast? = some t ∧ t.kind = .newline) (hne : ys ≠ []) :
      Ended ts ∨ ∃ t, ys.getLast? = some t ∧ t.kind = .newline := by
    rwa [List.getLast?_append_of_ne_nil xs hne] at h
  induction h generalizing after' with
  | nil => exact .nil
  | @separator _ t rest ht _ ih =>
    refine .separator ht ?_
    by_cases hnil : rest.tokens = []
    · rw [eq_nil_of_tokens hnil]
      exact .nil
    · exact ih (hrest [t] hafter hnil)
  | @statement _ n args rest hn hne hargs hend _ ih =>
    by_cases hnil : rest.tokens = []
    · obtain rfl := eq_nil_of_tokens hnil
      have hend' : Ended after' := by
        obtain hend' | ⟨t, ht, hline⟩ := hafter
        · exact hend'
        · obtain ⟨last, more, hkept, hlast⟩ := kept_reverse hargs hne
          have hmem : last ∈ args.kept := List.mem_reverse.mp (by simp [hkept])
          rw [tokens, tokens, List.append_nil, List.getLast?_append_of_ne_nil _ (tokens_ne_nil hne),
            hlast] at ht
          obtain rfl := Option.some.inj ht
          simp [Pieces.kept, hline] at hmem
      exact .statement (hn.arguments (tokens_ne_nil hne) hend') hne hargs hend' .nil
    · have hend' : Ended (rest.tokens ++ after') := hend.append hnil after'
      exact .statement (hn.arguments (tokens_ne_nil hne) hend') hne hargs hend'
        (ih (hrest _ hafter hnil))
  | @block _ n header breaks o inside c rest hn hh hb hor hbr _ _ ihi ihr =>
    rw [← List.append_assoc] at hn
    have hn' := hn.brace hbr.1 (inside.tokens ++ c :: (rest.tokens ++ after'))
    rw [List.append_assoc] at hn'
    refine .block hn' hh hb hor hbr (ihi (.inl (ended_cons (.inr hbr.2) _))) ?_
    by_cases hnil : rest.tokens = []
    · rw [eq_nil_of_tokens hnil]
      exact .nil
    · refine ihr (hrest (n.tokens ++ header.tokens ++ breaks ++ o :: inside.tokens ++ [c]) ?_ hnil)
      simpa [tokens] using hafter

/-! ## One body behind another -/

def append : Body → Body → Body
  | nil, b => b
  | separator t rest, b => separator t (rest.append b)
  | statement n args rest, b => statement n args (rest.append b)
  | block n header breaks o inside c rest, b => block n header breaks o inside c (rest.append b)

theorem tokens_append (a b : Body) : (a.append b).tokens = a.tokens ++ b.tokens := by
  induction a with
  | nil => rfl
  | separator t rest ih => simp [append, tokens, ih]
  | statement n args rest ih => simp [append, tokens, ih]
  | block n header breaks o inside c rest _ ih => simp [append, tokens, ih]

theorem nodes_append (a b : Body) : (a.append b).nodes = a.nodes ++ b.nodes := by
  induction a with
  | nil => rfl
  | separator t rest ih => simp [append, nodes, ih]
  | statement n args rest ih => simp [append, nodes, ih]
  | block n header breaks o inside c rest _ ih => simp [append, nodes, ih]

theorem Valid.append {a b : Body} {after : List Token} (ha : a.Valid (b.tokens ++ after))
    (hb : b.Valid after) : (a.append b).Valid after := by
  have hcut (rest : Body) :
      rest.tokens ++ (b.tokens ++ after) = (rest.append b).tokens ++ after := by
    rw [tokens_append, List.append_assoc]
  generalize hfollowing : b.tokens ++ after = following at ha
  induction ha with
  | nil => exact hb
  | separator ht _ ih => exact .separator ht (ih hfollowing)
  | statement hn hne hargs hend _ ih =>
    subst hfollowing
    rw [hcut] at hn hend
    exact .statement hn hne hargs hend (ih rfl)
  | block hn hh hb hor hbr hinside _ _ ihr =>
    subst hfollowing
    rw [hcut] at hn hinside
    exact .block hn hh hb hor hbr hinside (ihr rfl)

/-! ## Inside a block -/

theorem exists_start {b : Body} {m : Node} (h : m ∈ Node.families b.nodes) :
    ∃ t ∈ b.tokens, t.start = m.span.start := by
  induction b with
  | nil => cases h
  | separator t rest ih =>
    obtain ⟨u, hu, hstart⟩ := ih h
    exact ⟨u, List.mem_cons_of_mem t hu, hstart⟩
  | statement n args rest ih =>
    simp only [nodes, Node.families, Node.family, List.cons_append, List.nil_append,
      List.mem_cons] at h
    obtain rfl | h := h
    · exact ⟨n.first, by simp [tokens, Name.tokens], rfl⟩
    · obtain ⟨u, hu, hstart⟩ := ih h
      exact ⟨u, by simp [tokens, hu], hstart⟩
  | block n header breaks o inside c rest ihi ihr =>
    simp only [nodes, Node.families, Node.family, List.cons_append, List.mem_cons,
      List.mem_append] at h
    obtain rfl | h | h := h
    · exact ⟨n.first, by simp [tokens, Name.tokens], rfl⟩
    · obtain ⟨u, hu, hstart⟩ := ihi h
      exact ⟨u, by simp [tokens, hu], hstart⟩
    · obtain ⟨u, hu, hstart⟩ := ihr h
      exact ⟨u, by simp [tokens, hu], hstart⟩

theorem sketches_congr {α : Type} {g g' : Nat → α} {b : Body}
    (h : ∀ t ∈ b.tokens, g' t.start = g t.start) :
    Node.sketches g' b.nodes = Node.sketches g b.nodes := by
  refine Node.sketches_congr _ fun m hm => ?_
  obtain ⟨t, ht, hstart⟩ := exists_start hm
  rw [← hstart, h t ht]

/-- The body can be opened at the block that a path leads to: `inside` stands there between the
braces `o` and `c`, and any other body that is valid there can take its place. -/
structure Opens (after : List Token) (b : Body) (path : List Nat) (front : List Token) (o : Token)
    (inside : Body) (c : Token) (rear : List Token) : Prop where
  tokens : b.tokens = front ++ o :: (inside.tokens ++ c :: rear)
  braced : IsBraced o c
  valid : inside.Valid (c :: (rear ++ after))
  refill : ∀ (p q : Nat) (inside' : Body), (∀ t ∈ c :: (rear ++ after), p ≤ t.start) →
    inside'.Valid ((c :: (rear ++ after)).map (Token.move p q)) →
    ∃ b' : Body, b'.Valid (after.map (Token.move p q)) ∧
      b'.tokens = front ++ o :: (inside'.tokens ++ (c :: rear).map (Token.move p q)) ∧
      b'.nodes = Node.refill p q inside'.nodes path b.nodes
  sketches : ∀ {α : Type} (g g' : Nat → α) (p q : Nat) (new : List Node),
    (∀ t ∈ front ++ inside.tokens, g' t.start = g t.start) →
    (∀ m ∈ Node.families b.nodes, (∃ t ∈ rear, t.start = m.span.start) →
      g' (m.span.start - p + q) = g m.span.start) →
    Node.sketches g' (Node.refill p q (inside.nodes ++ new) path b.nodes) =
      Sketch.appendAt (Node.sketches g' new) path (Node.sketches g b.nodes)

private theorem Valid.block_name {after : List Token} {n : Name} {header : Pieces}
    {breaks : List Token} {o : Token} {inside : Body} {c : Token} {rest : Body}
    (h : (Body.block n header breaks o inside c rest).Valid after) (ts : List Token) :
    n.Valid (header.tokens ++ (breaks ++ o :: ts)) := by
  cases h with
  | block hn _ _ _ hbr _ _ =>
    rw [← List.append_assoc] at hn ⊢
    exact hn.brace hbr.1 ts

private theorem sketches_moved {α : Type} {g g' : Nat → α} {p q : Nat} {b : Body}
    (h : ∀ m ∈ Node.families b.nodes, (∃ t ∈ b.tokens, t.start = m.span.start) →
      g' (m.span.start - p + q) = g m.span.start) :
    Node.sketches g' (Node.moveAll p q b.nodes) = Node.sketches g b.nodes := by
  rw [Node.sketches_moveAll]
  exact Node.sketches_congr _ fun m hm => h m hm (exists_start hm)

section Opens

variable {after front : List Token} {i : Nat} {path : List Nat} {o : Token} {inside : Body}
  {c : Token} {rear : List Token} {rest : Body}

private theorem Opens.separator {t : Token} (ht : IsSeparator t)
    (h : Opens after rest path front o inside c rear) :
    Opens after (.separator t rest) path (t :: front) o inside c rear := by
  refine ⟨by simp [Body.tokens, h.tokens], h.braced, h.valid, ?_, ?_⟩
  · intro p q inside' hle hvalid
    obtain ⟨b', hb', htokens, hnodes⟩ := h.refill p q inside' hle hvalid
    exact ⟨.separator t b', .separator ht hb', by simp [Body.tokens, htokens], hnodes⟩
  · intro α g g' p q new hfront hrear
    exact h.sketches g g' p q new (fun u hu => hfront u (List.mem_cons_of_mem t hu)) hrear

private theorem Opens.statement {n : Name} {args : Pieces}
    (hb : (Body.statement n args rest).Valid after)
    (h : Opens after rest (i :: path) front o inside c rear) :
    Opens after (.statement n args rest) ((i + 1) :: path) (n.tokens ++ args.tokens ++ front) o
      inside c rear := by
  refine ⟨by simp [Body.tokens, h.tokens], h.braced, h.valid, ?_, ?_⟩
  · cases hb with
    | statement hn hne hargs hend _ =>
      intro p q inside' hle hvalid
      obtain ⟨b', hb', htokens, hnodes⟩ := h.refill p q inside' hle hvalid
      have hend' : Ended (b'.tokens ++ after.map (Token.move p q)) := by
        have hfront : Ended ((front ++ [o]) ++ (inside.tokens ++ c :: (rear ++ after))) := by
          simpa [h.tokens] using hend
        simpa [htokens] using hfront.append (by simp)
          (inside'.tokens ++ (c :: (rear ++ after)).map (Token.move p q))
      refine ⟨.statement n args b',
        .statement (hn.arguments (tokens_ne_nil hne) hend') hne hargs hend' hb',
        by simp [Body.tokens, htokens], ?_⟩
      rw [nodes, nodes, Node.refill_succ, hnodes]
  · intro α g g' p q new hfront hrear
    have hsketches := h.sketches g g' p q new
      (fun u hu => hfront u (by simp at hu ⊢; tauto))
      fun m hm => hrear m (by simp [nodes, Node.families, hm])
    have hlabel := hfront n.first (by simp [Name.tokens])
    rw [nodes, Node.refill_succ, Node.sketches, hsketches, Node.sketch, hlabel]
    rfl

variable {n : Name} {header : Pieces} {breaks : List Token} {o' : Token} {body : Body} {c' : Token}
  (hb : (block n header breaks o' body c' rest).Valid after)

include hb

private theorem opens_block : Opens after (block n header breaks o' body c' rest) [0]
    (n.tokens ++ header.tokens ++ breaks) o' body c' rest.tokens := by
  have hname := hb.block_name
  cases hb with
  | block _ hh hbk hor hbr hbody hrest =>
    refine ⟨by simp [tokens], hbr, hbody, ?_, ?_⟩
    · intro p q inside' hle hvalid
      have hrest' := hrest.move (b := q) fun t ht => hle t (List.mem_cons_of_mem c' ht)
      refine ⟨.block n header breaks o' inside' (c'.move p q) (rest.move p q),
        .block (hname _) hh hbk hor hbr ?_ hrest', by simp [tokens, tokens_move], ?_⟩
      · simpa [tokens_move] using hvalid
      · rw [nodes, nodes, Node.refill_zero, nodes_move fun t ht => hle t (by simp [ht]),
          Token.stop_move (hle c' (by simp))]
        rfl
    · intro α g g' p q new hfront hrear
      have hlabel := hfront n.first (by simp [Name.tokens])
      have hkids : Node.sketches g' body.nodes = Node.sketches g body.nodes :=
        sketches_congr fun t ht => hfront t (by simp [ht])
      have hmoved : Node.sketches g' (Node.moveAll p q rest.nodes) = Node.sketches g rest.nodes :=
        sketches_moved fun m hm => hrear m (by simp [nodes, Node.families, hm])
      rw [nodes, Node.refill_zero, Node.sketches, hmoved]
      simp [Node.stretch, Node.refill, Node.sketch, Node.sketches, Node.sketches_append,
        hlabel, hkids, Sketch.appendAt, Sketch.within]

private theorem Opens.within
    (h : Opens (c' :: (rest.tokens ++ after)) body (i :: path) front o inside c
      rear) :
    Opens after (block n header breaks o' body c' rest) (0 :: i :: path)
      (n.tokens ++ header.tokens ++ breaks ++ o' :: front) o inside c
      (rear ++ c' :: rest.tokens) := by
  have hname := hb.block_name
  refine ⟨by simp [Body.tokens, h.tokens], h.braced, by simpa using h.valid, ?_, ?_⟩
  · cases hb with
    | block _ hh hbk hor hbr _ hrest =>
      intro p q inside' hle hvalid
      obtain ⟨body', hbody', htokens, hnodes⟩ := h.refill p q inside' (by simpa using hle)
        (by simpa using hvalid)
      have hrest' := hrest.move (b := q) fun t ht => hle t (by simp at ht ⊢; tauto)
      refine ⟨.block n header breaks o' body' (c'.move p q) (rest.move p q),
        .block (hname _) hh hbk hor hbr (by simpa [tokens_move] using hbody') hrest',
        by simp [Body.tokens, tokens_move, htokens], ?_⟩
      rw [nodes, nodes, Node.refill_zero, nodes_move fun t ht => hle t (by simp [ht]),
        Token.stop_move (hle c' (by simp)), hnodes]
      rfl
  · intro α g g' p q new hfront hrear
    have hbehind {m : Node} (hm : m ∈ Node.families (block n header breaks o' body c' rest).nodes)
        {ts : List Token} (hts : ts ⊆ rear ++ c' :: rest.tokens) :
        (∃ t ∈ ts, t.start = m.span.start) → g' (m.span.start - p + q) = g m.span.start := by
      rintro ⟨t, ht, hstart⟩
      exact hrear m hm ⟨t, hts ht, hstart⟩
    have hsketches := h.sketches g g' p q new (fun u hu => hfront u (by simp at hu ⊢; tauto))
      fun m hm => hbehind (by simp [nodes, Node.families, Node.family, hm]) (by simp)
    have hmoved : Node.sketches g' (Node.moveAll p q rest.nodes) = Node.sketches g rest.nodes :=
      sketches_moved fun m hm => hbehind (by simp [nodes, Node.families, hm]) (by simp)
    have hlabel := hfront n.first (by simp [Name.tokens])
    rw [nodes, Node.refill_zero, Node.sketches, hmoved]
    simp [Node.stretch, Node.sketch, Node.sketches, hlabel, hsketches, Sketch.appendAt,
      Sketch.within]

private theorem Opens.behind (h : Opens after rest (i :: path) front o inside c rear) :
    Opens after (block n header breaks o' body c' rest) ((i + 1) :: path)
      (n.tokens ++ header.tokens ++ breaks ++ o' :: body.tokens ++ c' :: front) o inside c
      rear := by
  have hname := hb.block_name
  refine ⟨by simp [Body.tokens, h.tokens], h.braced, h.valid, ?_, ?_⟩
  · cases hb with
    | block _ hh hbk hor hbr hbody _ =>
      intro p q inside' hle hvalid
      obtain ⟨b', hb', htokens, hnodes⟩ := h.refill p q inside' hle hvalid
      refine ⟨.block n header breaks o' body c' b', .block (hname _) hh hbk hor hbr
        (hbody.congr (.inl (ended_cons (.inr hbr.2) _))) hb', by simp [Body.tokens, htokens], ?_⟩
      rw [nodes, nodes, Node.refill_succ, hnodes]
  · intro α g g' p q new hfront hrear
    have hsketches := h.sketches g g' p q new (fun u hu => hfront u (by simp at hu ⊢; tauto))
      fun m hm => hrear m (by simp [nodes, Node.families, hm])
    have hlabel := hfront n.first (by simp [Name.tokens])
    have hkids : Node.sketches g' body.nodes = Node.sketches g body.nodes :=
      sketches_congr fun t ht => hfront t (by simp [ht])
    rw [nodes, Node.refill_succ, Node.sketches, hsketches, Node.sketch, hlabel, hkids]
    rfl

end Opens

theorem exists_opens {b : Body} {after : List Token} (hb : b.Valid after) {i : Nat}
    {path : List Nat} {s : Scope}
    (h : (b.nodes[i]?.bind Node.scope?).bind (Scope.at? · path) = some s) :
    ∃ front o inside c rear, Opens after b (i :: path) front o inside c rear ∧
      s.braces = some ⟨o.start, c.start⟩ ∧ s.children = inside.nodes ∧
      ∃ t ∈ front, t.start = s.span.start := by
  induction hb generalizing i path with
  | nil => simp [nodes] at h
  | separator ht _ ih =>
    obtain ⟨front, o, inside, c, rear, hopens, hbraces, hinside, t, ht', hstart⟩ := ih h
    exact ⟨_, o, inside, c, rear, hopens.separator ht, hbraces, hinside, t, by simp [ht'], hstart⟩
  | statement hn hne hargs hend hrest ih =>
    cases i with
    | zero => simp [nodes, Node.scope?] at h
    | succ i =>
      obtain ⟨front, o, inside, c, rear, hopens, hbraces, hinside, t, ht, hstart⟩ :=
        ih (i := i) (by simpa [nodes] using h)
      exact ⟨_, o, inside, c, rear, hopens.statement (.statement hn hne hargs hend hrest), hbraces,
        hinside, t, by simp [ht], hstart⟩
  | @block after n header breaks o' body c' rest hn hh hbk hor hbr hbody hrest ihi ihr =>
    have hb : (block n header breaks o' body c' rest).Valid after :=
      .block hn hh hbk hor hbr hbody hrest
    cases i with
    | zero =>
      cases path with
      | nil =>
        obtain rfl : _ = s := by simpa [nodes, Node.scope?, Scope.at?] using h
        exact ⟨_, o', body, c', _, opens_block hb, rfl, rfl, n.first, by simp [Name.tokens], rfl⟩
      | cons j path =>
        have h' : (body.nodes[j]?.bind Node.scope?).bind (Scope.at? · path) = some s := by
          simpa [nodes, Node.scope?, Scope.at?] using h
        obtain ⟨front, o, inside, c, rear, hopens, hbraces, hinside, t, ht, hstart⟩ := ihi h'
        exact ⟨_, o, inside, c, _, hopens.within hb, hbraces, hinside, t, by simp [ht], hstart⟩
    | succ i =>
      obtain ⟨front, o, inside, c, rear, hopens, hbraces, hinside, t, ht, hstart⟩ :=
        ihr (i := i) (by simpa [nodes] using h)
      exact ⟨_, o, inside, c, rear, hopens.behind hb, hbraces, hinside, t, by simp [ht], hstart⟩

end Body

end Grammar
end Graft
