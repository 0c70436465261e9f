import Graft.Proofs.Grammar.Run
import Graft.Proofs.Scan
import Graft.Proofs.Shape
import Mathlib

/-!
# What a tree depends on

Two scripts whose significant tokens correspond one to one are built in lockstep. The builder looks
at the kinds of the tokens, at the texts of names and symbols, and at whether neighbours touch, and
at nothing else. So both scripts have trees that correspond node by node, or the same flaw at tokens
that correspond.
-/
namespace Graft

open Grammar (IsBracket)

/-! ## Tokens that correspond -/

namespace Token

/-- The offset where the token begins or, at its end, the one right after it. -/
def edge (atEnd : Bool) (t : Token) : Nat := if atEnd then t.stop else t.start

/-- For each token but the last, whether it touches the next one. -/
def joints : List Token → List Bool
  | t :: u :: ts => t.touches u :: joints (u :: ts)
  | _ => []

end Token

namespace Tree

/-- Neighbours touch on one side where they do on the other. The end of a line may come later on one
side, since nothing is ever joined to it. -/
def Meets (p r : Token × Token) : Prop :=
  p.1.kind ≠ .newline → r.1.kind ≠ .newline → p.1.touches r.1 = p.2.touches r.2

/-- Two sequences of tokens, zipped, between which the builder sees no difference. -/
structure Matched (ps : List (Token × Token)) : Prop where
  kind : ∀ p ∈ ps, p.2.kind = p.1.kind
  text : ∀ p ∈ ps, p.1.kind = .identifier ∨ p.1.kind = .symbol → p.2.text = p.1.text
  meets : ps.IsChain Meets

section Relations

variable (ps : List (Token × Token))

/-- Tokens at the same place of the two sequences. -/
structure Twins (t t' : Token) : Prop where
  mem : (t, t') ∈ ps
  solid : t.kind ≠ .newline

/-- Offsets at the same edge of tokens that correspond. -/
def SamePlace (n n' : Nat) : Prop := ∃ t t', Twins ps t t' ∧ ∃ e, n = t.edge e ∧ n' = t'.edge e

structure TwinSpans (s s' : Span) : Prop where
  start : SamePlace ps s.start s'.start
  stop : SamePlace ps s.stop s'.stop

structure TwinBraces (b b' : Braces) : Prop where
  opening : SamePlace ps b.opening b'.opening
  closing : SamePlace ps b.closing b'.closing

structure TwinHeads (h h' : Head) : Prop where
  name : h'.name = h.name
  start : SamePlace ps h.start h'.start
  stop : SamePlace ps h.stop h'.stop

mutual

/-- Nodes of the same kind and name whose parts correspond. -/
def TwinNodes : Node → Node → Prop
  | .statement n s args, .statement n' s' args' =>
    n' = n ∧ TwinSpans ps s s' ∧ args.Forall₂ (Twins ps) args'
  | .block n s header b cs, .block n' s' header' b' cs' =>
    n' = n ∧ TwinSpans ps s s' ∧ header.Forall₂ (Twins ps) header' ∧ TwinBraces ps b b' ∧
      TwinTrees cs cs'
  | _, _ => False

def TwinTrees : List Node → List Node → Prop
  | [], [] => True
  | n :: ns, n' :: ns' => TwinNodes n n' ∧ TwinTrees ns ns'
  | _, _ => False

end

/-- A bracket on both sides. -/
structure TwinMarks (t t' : Token) : Prop extends Twins ps t t' where
  text : t'.text = t.text

structure TwinBlocks (b b' : Open) : Prop where
  head : TwinHeads ps b.head b'.head
  header : b.header.Forall₂ (Twins ps) b'.header
  opening : SamePlace ps b.opening b'.opening
  before : b.before.Forall₂ (TwinNodes ps) b'.before

/-- Items that are being read, after the tokens `last`. Where the next token may go on with a name,
the name ends with them. -/
inductive TwinItems : Option (Token × Token) → Pending → Pending → Prop where
  | none {last} : TwinItems last .none .none
  | named {t t' h h'} : TwinHeads ps h h' → Twins ps t t' → h.stop = t.stop → h'.stop = t'.stop →
      TwinItems (some (t, t')) (.named h) (.named h')
  | pointed {t t' h h'} : TwinHeads ps h h' → Twins ps t t' →
      TwinItems (some (t, t')) (.pointed h t) (.pointed h' t')
  | broken {last h h'} : TwinHeads ps h h' → TwinItems last (.broken h) (.broken h')
  | arguments {last h h' args args' brackets brackets'} : TwinHeads ps h h' →
      args.Forall₂ (Twins ps) args' → brackets.Forall₂ (TwinMarks ps) brackets' →
      TwinItems last (.arguments h args brackets) (.arguments h' args' brackets')

structure TwinStates (last : Option (Token × Token)) (s s' : State) : Prop where
  nodes : s.nodes.Forall₂ (TwinNodes ps) s'.nodes
  blocks : s.blocks.Forall₂ (TwinBlocks ps) s'.blocks
  pending : TwinItems ps last s.pending s'.pending

/-- The same flaw, reported at tokens that correspond. Only what is found in place of a name is
quoted from a token that may have another text. -/
structure TwinFaults (f f' : Fault) : Prop where
  flaw : f'.flaw = f.flaw ∨ ∃ t t', Twins ps t t' ∧ f.flaw = .expectedName t.text ∧
    f'.flaw = .expectedName t'.text
  place : SamePlace ps f.offset f'.offset

/-- Both sides come to results that are related, or both fail alike. -/
inductive Agree {α β : Type} (R : α → β → Prop) : Except Fault α → Except Fault β → Prop where
  | ok {a b} : R a b → Agree R (.ok a) (.ok b)
  | error {f f'} : TwinFaults ps f f' → Agree R (.error f) (.error f')

end Relations

variable {ps : List (Token × Token)}

private theorem Agree.bind {α β γ δ : Type} {R : α → β → Prop} {S : γ → δ → Prop}
    {x : Except Fault α} {y : Except Fault β} {k : α → Except Fault γ} {k' : β → Except Fault δ}
    (h : Agree ps R x y) (hk : ∀ a b, R a b → Agree ps S (k a) (k' b)) :
    Agree ps S (x >>= k) (y >>= k') := by
  cases h with
  | ok hab => exact hk _ _ hab
  | error hf => exact .error hf

private theorem agree_fault {α β : Type} {R : α → β → Prop} (flaw : Flaw) {n n' : Nat}
    (h : SamePlace ps n n') :
    Agree ps R (.error ⟨flaw, n⟩ : Except Fault α) (.error ⟨flaw, n'⟩ : Except Fault β) :=
  .error ⟨.inl rfl, h⟩

private theorem Twins.start {t t' : Token} (h : Twins ps t t') : SamePlace ps t.start t'.start :=
  ⟨t, t', h, false, rfl, rfl⟩

private theorem Twins.stop {t t' : Token} (h : Twins ps t t') : SamePlace ps t.stop t'.stop :=
  ⟨t, t', h, true, rfl, rfl⟩

private theorem twinTrees_iff {ns ns' : List Node} :
    TwinTrees ps ns ns' ↔ ns.Forall₂ (TwinNodes ps) ns' := by
  induction ns generalizing ns' with
  | nil => cases ns' <;> simp [TwinTrees]
  | cons n ns ih => cases ns' <;> simp [TwinTrees, ih]

/-! ## One token -/

section Step

variable (hps : Matched ps) {s s' : State} {t t' : Token} {last : Option (Token × Token)}

private theorem leave_agree {ns ns' : List Node} {bs bs' : List Open} {item item' : Pending}
    (hns : ns.Forall₂ (TwinNodes ps) ns') (hbs : bs.Forall₂ (TwinBlocks ps) bs')
    (ht : TwinMarks ps t t') :
    Agree ps (TwinStates ps last) (State.leave ⟨ns, bs, item⟩ t)
      (State.leave ⟨ns', bs', item'⟩ t') := by
  cases hbs with
  | nil =>
    simp only [State.leave, ht.text]
    exact agree_fault _ ht.start
  | @cons b b' bs bs' hb hbs =>
    have hnode : TwinNodes ps
        (.block b.head.name ⟨b.head.start, t.stop⟩ b.header ⟨b.opening, t.start⟩ ns.reverse)
        (.block b'.head.name ⟨b'.head.start, t'.stop⟩ b'.header ⟨b'.opening, t'.start⟩
          ns'.reverse) := by
      refine ⟨hb.head.name, ⟨hb.head.start, ht.stop⟩, hb.header, ⟨hb.opening, ht.start⟩, ?_⟩
      exact twinTrees_iff.mpr (List.forall₂_reverse_iff.mpr hns)
    exact .ok ⟨.cons hnode hb.before, hbs, .none⟩

private theorem enter_twins {ns ns' : List Node} {bs bs' : List Open} {item item' : Pending}
    {h h' : Head} {args args' : List Token} (hns : ns.Forall₂ (TwinNodes ps) ns')
    (hbs : bs.Forall₂ (TwinBlocks ps) bs') (hh : TwinHeads ps h h')
    (hargs : args.Forall₂ (Twins ps) args') (ht : TwinMarks ps t t') :
    TwinStates ps last (State.enter ⟨ns, bs, item⟩ h args t)
      (State.enter ⟨ns', bs', item'⟩ h' args' t') := by
  refine ⟨.nil, .cons ⟨hh, ?_, ht.start, hns⟩ hbs, .none⟩
  exact List.forall₂_reverse_iff.mpr hargs

private theorem twins_statement {h h' : Head} {u u' : Token} {args args' : List Token}
    (hh : TwinHeads ps h h') (hargs : (u :: args).Forall₂ (Twins ps) (u' :: args')) :
    TwinNodes ps (.statement h.name ⟨h.start, u.stop⟩ (u :: args).reverse)
      (.statement h'.name ⟨h'.start, u'.stop⟩ (u' :: args').reverse) :=
  ⟨hh.name, ⟨hh.start, (List.forall₂_cons.mp hargs).1.stop⟩, List.forall₂_reverse_iff.mpr hargs⟩

private theorem finish_agree (hs : TwinStates ps last s s') :
    Agree ps (TwinTrees ps) s.finish s'.finish := by
  obtain ⟨ns, bs, item⟩ := s
  obtain ⟨ns', bs', item'⟩ := s'
  obtain ⟨hns, hbs, hitem⟩ := hs
  simp only at hns hbs hitem
  have hclose {ms ms' : List Node} (hms : ms.Forall₂ (TwinNodes ps) ms') :
      Agree ps (TwinTrees ps) (State.finish ⟨ms, bs, .none⟩) (State.finish ⟨ms', bs', .none⟩) := by
    cases hbs with
    | nil => exact .ok (twinTrees_iff.mpr (List.forall₂_reverse_iff.mpr hms))
    | @cons b b' bs bs' hb hbs =>
      simp only [State.finish, hb.head.name]
      exact agree_fault _ hb.opening
  cases hitem with
  | none => exact hclose hns
  | named hh hu hstop hstop' =>
    simp only [State.finish, hh.name]
    exact agree_fault _ hh.stop
  | broken hh =>
    simp only [State.finish, hh.name]
    exact agree_fault _ hh.stop
  | pointed hh hu => exact hclose (.cons (twins_statement hh (.cons hu .nil)) hns)
  | arguments hh hargs hb =>
    cases hb with
    | cons hb hbs =>
      simp only [State.finish, hh.name, hb.text]
      exact agree_fault _ hb.start
    | nil =>
      cases hargs with
      | cons hlast hargs => exact hclose (.cons (twins_statement hh (.cons hlast hargs)) hns)
      | nil =>
        simp only [State.finish, hh.name]
        exact agree_fault _ hh.stop

include hps

private theorem Matched.isSymbol (h : (t, t') ∈ ps) (c : Char) : t'.isSymbol c = t.isSymbol c := by
  have hkind : t'.kind = t.kind := hps.kind _ h
  rw [Token.isSymbol, Token.isSymbol, hkind]
  by_cases hsym : t.kind = .symbol
  · have htext : t'.text = t.text := hps.text _ h (.inr hsym)
    rw [htext]
  · have hfalse : (t.kind == .symbol) = false := beq_eq_false_iff_ne.mpr hsym
    rw [hfalse, Bool.false_and, Bool.false_and]

private theorem Matched.twins (h : (t, t') ∈ ps) {c : Char} (hc : t.isSymbol c = true) :
    TwinMarks ps t t' := by
  have hkind := (isSymbol_iff.mp hc).1
  exact ⟨⟨h, by simp [hkind]⟩, hps.text _ h (.inr hkind)⟩

private theorem bracketsAfter_agree {brackets brackets' : List Token} (ht : Twins ps t t')
    (hb : brackets.Forall₂ (TwinMarks ps) brackets') :
    Agree ps (List.Forall₂ (TwinMarks ps)) (bracketsAfter brackets t)
      (bracketsAfter brackets' t') := by
  have hsym := hps.isSymbol ht.mem
  have hopener : isOpener t' = isOpener t := by simp only [isOpener, hsym]
  have hcloser : opener? t' = opener? t := by simp only [opener?, hsym]
  have hmark (hbracket : IsBracket t) : TwinMarks ps t t' := by
    obtain ⟨c, -, hc⟩ := hbracket
    exact hps.twins ht.mem hc
  rw [bracketsAfter, bracketsAfter, hopener, hcloser]
  by_cases ho : isOpener t = true
  · rw [if_pos ho, if_pos ho]
    exact .ok (.cons (hmark (isBracket_iff.mpr (.inl ho))) hb)
  rw [if_neg ho, if_neg ho]
  cases hc : opener? t with
  | none => exact .ok hb
  | some c =>
    have htext := (hmark (isBracket_iff.mpr (.inr (by simp [hc])))).text
    cases hb with
    | nil =>
      simp only [htext]
      exact agree_fault _ ht.start
    | @cons b b' bs bs' hb hbs =>
      simp only [htext, hb.text, hps.isSymbol hb.mem c]
      split
      · exact .ok hbs
      · exact agree_fault _ ht.start

private theorem between_agree {ns ns' : List Node} {bs bs' : List Open}
    (hns : ns.Forall₂ (TwinNodes ps) ns') (hbs : bs.Forall₂ (TwinBlocks ps) bs')
    (ht : (t, t') ∈ ps) :
    Agree ps (TwinStates ps (some (t, t'))) (State.between ⟨ns, bs, .none⟩ t)
      (State.between ⟨ns', bs', .none⟩ t') := by
  have hkind : t'.kind = t.kind := hps.kind _ ht
  simp only [State.between, hkind, hps.isSymbol ht]
  split
  case isTrue => exact .ok ⟨hns, hbs, .none⟩
  case isFalse hsep =>
    have htwins : Twins ps t t' := ⟨ht, by simp_all⟩
    split
    case isTrue hclose => exact leave_agree hns hbs (hps.twins ht hclose)
    case isFalse =>
      split
      case isTrue hid =>
        have htext : t'.text = t.text := hps.text _ ht (.inl hid)
        exact .ok ⟨hns, hbs, .named ⟨htext, htwins.start, htwins.stop⟩ htwins rfl rfl⟩
      case isFalse => exact .error ⟨.inr ⟨t, t', htwins, rfl, rfl⟩, htwins.start⟩

private theorem argue_agree {ns ns' : List Node} {bs bs' : List Open} {item item' : Pending}
    {h h' : Head} {args args' brackets brackets' : List Token}
    (hns : ns.Forall₂ (TwinNodes ps) ns') (hbs : bs.Forall₂ (TwinBlocks ps) bs')
    (hh : TwinHeads ps h h') (hargs : args.Forall₂ (Twins ps) args')
    (hb : brackets.Forall₂ (TwinMarks ps) brackets') (ht : (t, t') ∈ ps) :
    Agree ps (TwinStates ps (some (t, t'))) (State.argue ⟨ns, bs, item⟩ h args brackets t)
      (State.argue ⟨ns', bs', item'⟩ h' args' brackets' t') := by
  have hkind : t'.kind = t.kind := hps.kind _ ht
  have hempty : brackets'.isEmpty = brackets.isEmpty := by cases hb <;> rfl
  simp only [State.argue, hkind, hps.isSymbol ht, hempty, hh.name]
  split
  case isTrue =>
    cases hargs with
    | @cons last last' args args' hlast hargs =>
      exact between_agree hps (.cons (twins_statement hh (.cons hlast hargs)) hns) hbs ht
    | nil =>
      simp only
      split
      · exact .ok ⟨hns, hbs, .broken hh⟩
      · exact agree_fault _ hh.stop
  case isFalse =>
    split
    case isTrue hopen =>
      simp only [Bool.and_eq_true] at hopen
      exact .ok (enter_twins hns hbs hh hargs (hps.twins ht hopen.2))
    case isFalse =>
      split
      case isTrue => exact .ok ⟨hns, hbs, .arguments hh hargs hb⟩
      case isFalse hline =>
        refine (bracketsAfter_agree hps ⟨ht, hline⟩ hb).bind fun bs₁ bs₂ hb' => ?_
        exact .ok ⟨hns, hbs, .arguments hh (.cons ⟨ht, hline⟩ hargs) hb'⟩

private theorem step_agree (hs : TwinStates ps last s s') (ht : (t, t') ∈ ps)
    (hlast : ∀ p ∈ last, Meets p (t, t')) :
    Agree ps (TwinStates ps (some (t, t'))) (s.step t) (s'.step t') := by
  obtain ⟨ns, bs, item⟩ := s
  obtain ⟨ns', bs', item'⟩ := s'
  obtain ⟨hns, hbs, hitem⟩ := hs
  simp only at hns hbs hitem
  have hkind : t'.kind = t.kind := hps.kind _ ht
  cases hitem with
  | none => exact between_agree hps hns hbs ht
  | @named u u' h h' hh hu hstop hstop' =>
    have hjoin : (t'.isSymbol '.' && h'.stop == t'.start) =
        (t.isSymbol '.' && h.stop == t.start) := by
      rw [hps.isSymbol ht, hstop, hstop']
      cases hpoint : t.isSymbol '.' with
      | false => rfl
      | true =>
        have hsolid := (hps.twins ht hpoint).solid
        simpa [Token.touches] using (hlast _ rfl hu.solid hsolid).symm
    simp only [State.step, hjoin]
    split
    case isTrue hpoint =>
      simp only [Bool.and_eq_true] at hpoint
      exact .ok ⟨hns, hbs, .pointed hh (hps.twins ht hpoint.1).toTwins⟩
    case isFalse => exact argue_agree hps hns hbs hh .nil .nil ht
  | @pointed u u' h h' hh hu =>
    have hjoin : (decide (t'.kind = .identifier) && u'.touches t') =
        (decide (t.kind = .identifier) && u.touches t) := by
      rw [hkind]
      by_cases hid : t.kind = .identifier
      · have htouch : u.touches t = u'.touches t' := hlast _ rfl hu.solid (by simp [hid])
        rw [htouch]
      · simp [hid]
    simp only [State.step, hjoin]
    split
    case isTrue hid =>
      simp only [Bool.and_eq_true, decide_eq_true_eq] at hid
      have htext : t'.text = t.text := hps.text _ ht (.inl hid.1)
      have htwins : Twins ps t t' := ⟨ht, by simp [hid.1]⟩
      refine .ok ⟨hns, hbs, .named ⟨?_, hh.start, htwins.stop⟩ htwins rfl rfl⟩
      simp only [hh.name, htext]
    case isFalse => exact argue_agree hps hns hbs hh (.cons hu .nil) .nil ht
  | broken hh =>
    simp only [State.step, hkind, hps.isSymbol ht, hh.name]
    split
    case isTrue => exact .ok ⟨hns, hbs, .broken hh⟩
    case isFalse =>
      split
      case isTrue hopen => exact .ok (enter_twins hns hbs hh .nil (hps.twins ht hopen))
      case isFalse => exact agree_fault _ hh.stop
  | arguments hh hargs hb => exact argue_agree hps hns hbs hh hargs hb ht

/-! ## All tokens -/

private theorem run_agree {qs : List (Token × Token)} (hsub : ∀ p ∈ qs, p ∈ ps)
    (hs : TwinStates ps last s s') (hchain : (last.toList ++ qs).IsChain Meets) :
    Agree ps (TwinTrees ps) (run s (qs.map Prod.fst)) (run s' (qs.map Prod.snd)) := by
  induction qs generalizing last s s' with
  | nil => exact finish_agree hs
  | cons p qs ih =>
    have hlast : ∀ r ∈ last, Meets r p := by
      rintro r hr
      obtain rfl := Option.mem_def.mp hr
      exact (List.isChain_cons_cons.mp hchain).1
    have hrest : (p :: qs).IsChain Meets := by
      cases last with
      | none => exact hchain
      | some r => exact (List.isChain_cons_cons.mp hchain).2
    rw [List.map_cons, List.map_cons, run_cons, run_cons]
    refine (step_agree hps hs (hsub p (by simp)) hlast).bind fun u u' hu => ?_
    exact ih (fun r hr => hsub r (by simp [hr])) hu hrest

/-- Sequences of tokens between which there is no difference make trees that correspond, or fail
alike. -/
theorem build_agree :
    Agree ps (TwinTrees ps) (build (ps.map Prod.fst)) (build (ps.map Prod.snd)) := by
  have hstart : TwinStates ps none .start .start := ⟨.nil, .nil, .none⟩
  exact run_agree hps (fun _ hp => hp) hstart hps.meets

end Step

end Tree

/-! ## Shapes -/

namespace Shape

mutual

/-- Changes the lexemes of arguments and headers. -/
def map (f : Lexeme → Lexeme) : Shape → Shape
  | statement n args => statement n (args.map f)
  | block n header cs => block n (header.map f) (mapAll f cs)

def mapAll (f : Lexeme → Lexeme) : List Shape → List Shape
  | [] => []
  | s :: ss => map f s :: mapAll f ss

end

mutual

private theorem map_id : (s : Shape) → map id s = s
  | statement n args => by rw [map, List.map_id]
  | block n header cs => by rw [map, List.map_id, mapAll_id cs]

private theorem mapAll_id : (ss : List Shape) → mapAll id ss = ss
  | [] => rfl
  | s :: ss => by rw [mapAll, map_id s, mapAll_id ss]

end

end Shape

namespace Tree

variable {ps : List (Token × Token)} {f : Lexeme → Lexeme}

private theorem map_toLexeme_of_twins (hf : ∀ t t', Twins ps t t' → t'.toLexeme = f t.toLexeme)
    {ts ts' : List Token} (h : ts.Forall₂ (Twins ps) ts') :
    ts'.map Token.toLexeme = (ts.map Token.toLexeme).map f := by
  induction h with
  | nil => rfl
  | cons ht _ ih => rw [List.map_cons, ih, hf _ _ ht, List.map_cons, List.map_cons]

mutual

private theorem TwinNodes.shape_eq (hf : ∀ t t', Twins ps t t' → t'.toLexeme = f t.toLexeme) :
    {n n' : Node} → TwinNodes ps n n' → n'.shape = n.shape.map f
  | .statement n s args, .statement n' s' args', h => by
    obtain ⟨rfl, -, hargs⟩ := h
    rw [Node.shape, Node.shape, Shape.map, map_toLexeme_of_twins hf hargs]
  | .block n s header b cs, .block n' s' header' b' cs', h => by
    obtain ⟨rfl, -, hheader, -, hcs⟩ := h
    rw [Node.shape, Node.shape, Shape.map, map_toLexeme_of_twins hf hheader, hcs.shapes_eq hf]
  | .statement .., .block .., h => h.elim
  | .block .., .statement .., h => h.elim

theorem TwinTrees.shapes_eq (hf : ∀ t t', Twins ps t t' → t'.toLexeme = f t.toLexeme) :
    {ns ns' : List Node} → TwinTrees ps ns ns' → Node.shapes ns' = Shape.mapAll f (Node.shapes ns)
  | [], [], _ => rfl
  | n :: ns, n' :: ns', h => by
    rw [Node.shapes, Node.shapes, Shape.mapAll, h.1.shape_eq hf, h.2.shapes_eq hf]
  | [], _ :: _, h => h.elim
  | _ :: _, [], h => h.elim

end

/-! ## Scripts -/

private theorem meets_of_joints {ts us : List Token} (h : Token.joints ts = Token.joints us) :
    (ts.zip us).IsChain Meets := by
  induction ts generalizing us with
  | nil => exact .nil
  | cons t ts ih =>
    cases us with
    | nil => exact .nil
    | cons u us =>
      cases ts with
      | nil => exact .singleton _
      | cons t' ts =>
        cases us with
        | nil => exact .singleton _
        | cons u' us =>
          simp only [Token.joints, List.cons.injEq] at h
          exact List.isChain_cons_cons.mpr ⟨fun _ _ => h.1, ih h.2⟩

private theorem matched_of_lexemes {ts us : List Token}
    (hlexemes : ts.map Token.toLexeme = us.map Token.toLexeme)
    (hjoints : Token.joints ts = Token.joints us) :
    Matched (ts.zip us) ∧ ∀ p ∈ ts.zip us, p.2.toLexeme = p.1.toLexeme := by
  have hsame : ∀ p ∈ ts.zip us, p.2.toLexeme = p.1.toLexeme := by
    intro p hp
    obtain ⟨i, hi⟩ := List.mem_iff_getElem?.mp hp
    obtain ⟨hfst, hsnd⟩ := List.getElem?_zip_eq_some.mp hi
    have hmap := congrArg (·[i]?) hlexemes
    simpa [hfst, hsnd] using hmap.symm
  refine ⟨⟨?_, ?_, meets_of_joints hjoints⟩, hsame⟩
  · intro p hp
    rw [hsame p hp]
  · intro p hp _
    rw [hsame p hp]

end Tree

private theorem Token.isBoundary_edge {source : Text} {tokens : List Token} {t : Token}
    (h : scan source = .ok tokens) (ht : t ∈ tokens) (e : Bool) :
    source.isBoundary (t.edge e) = true := by
  obtain ⟨ls, hls, rfl⟩ := scan_eq_ok h
  have hin : StandsIn source t := by
    simpa [(Lexeme.ofSource_texts hls).1] using standsIn_place (a := []) (b := []) ht
  cases e with
  | false => exact hin.boundaries.1
  | true => exact hin.boundaries.2

private theorem Position.offset_locate {source : Text} {n : Nat} (h : source.isBoundary n = true) :
    (locate source n).offset = n := by
  simpa [Text.isBoundary, locate, after] using h

/-- Comments and gaps carry no structure. Two scripts with the same significant tokens, neighbours
of which touch in both or in neither, have trees of the same shape, or both are refused with the
same message at tokens that correspond. -/
theorem Document.parse_agree {a b : Text} {ts us : List Token} (ha : Token.scan a = .ok ts)
    (hb : Token.scan b = .ok us)
    (hlexemes : (Token.significant ts).map Token.toLexeme =
      (Token.significant us).map Token.toLexeme)
    (hjoints : Token.joints (Token.significant ts) = Token.joints (Token.significant us)) :
    (∃ d d', parse a = .ok d ∧ parse b = .ok d' ∧ Node.shapes d.nodes = Node.shapes d'.nodes) ∨
      ∃ e e', parse a = .error (.parse e) ∧ parse b = .error (.parse e') ∧
        e.message = e'.message ∧ ∃ (i : Nat) (t u : Token) (atEnd : Bool),
          (Token.significant ts)[i]? = some t ∧ (Token.significant us)[i]? = some u ∧
          e.position = .locate a (t.edge atEnd) ∧ e.position.offset = t.edge atEnd ∧
          e'.position = .locate b (u.edge atEnd) ∧ e'.position.offset = u.edge atEnd := by
  obtain ⟨hmatched, hsame⟩ := Tree.matched_of_lexemes hlexemes hjoints
  have hlength : (Token.significant ts).length = (Token.significant us).length := by
    simpa using congrArg List.length hlexemes
  have hagree := Tree.build_agree hmatched
  rw [List.map_fst_zip (by omega), List.map_snd_zip (by omega)] at hagree
  rw [Grammar.parse_of_scan ha, Grammar.parse_of_scan hb]
  generalize Tree.build (Token.significant ts) = x at hagree
  generalize Tree.build (Token.significant us) = y at hagree
  cases hagree with
  | @ok ns ns' htrees =>
    have hshapes := htrees.shapes_eq (f := id) fun t t' h => hsame _ h.mem
    rw [Shape.mapAll_id] at hshapes
    exact .inl ⟨_, _, rfl, rfl, hshapes.symm⟩
  | @error f f' hfaults =>
    obtain ⟨hflaw, t, u, htwins, e, hplace, hplace'⟩ := hfaults
    have hflaw' : f'.flaw = f.flaw := by
      obtain hflaw | ⟨v, v', hv, hflaw, hflaw'⟩ := hflaw
      · exact hflaw
      · rw [hflaw, hflaw', hsame _ hv.mem]
    obtain ⟨i, hi⟩ := List.mem_iff_getElem?.mp htwins.mem
    obtain ⟨ht, hu⟩ := List.getElem?_zip_eq_some.mp hi
    have hmem {vs : List Token} {v : Token} (hv : (Token.significant vs)[i]? = some v) : v ∈ vs :=
      List.mem_of_mem_filter (List.mem_of_getElem? hv)
    have hedge := Token.isBoundary_edge ha (hmem ht) e
    have hedge' := Token.isBoundary_edge hb (hmem hu) e
    refine .inr ⟨_, _, rfl, rfl, ?_, i, t, u, e, ht, hu, ?_⟩
    · simp only [ParseError.message, hflaw']
    · simp only [hplace, hplace']
      exact ⟨trivial, Position.offset_locate hedge, trivial, Position.offset_locate hedge'⟩

/-- Comments that hold braces and quotes, in other places of the two scripts. -/
theorem Document.parse_agree_comments :
    ∃ d d', parse "a.b /*\x7b*/'c'\x7bd 1\x7d".toList = .ok d ∧
      parse "/*x*/a.b\t'c'\x7bd/*'\x7d*/1\x7d//".toList = .ok d' ∧
      Node.shapes d.nodes = Node.shapes d'.nodes := by
  let ls : List Lexeme := [⟨.identifier, ['a']⟩, ⟨.symbol, ['.']⟩, ⟨.identifier, ['b']⟩]
  let ms : List Lexeme := [⟨.string, ['\'', 'c', '\'']⟩, ⟨.symbol, ['{']⟩, ⟨.identifier, ['d']⟩]
  let ns : List Lexeme := [⟨.number, ['1']⟩, ⟨.symbol, ['}']⟩]
  have ha : Token.scan "a.b /*\x7b*/'c'\x7bd 1\x7d".toList = .ok (Token.place 0
      (ls ++ ⟨.whitespace, [' ']⟩ :: ⟨.comment, "/*\x7b*/".toList⟩ :: ms ++
        ⟨.whitespace, [' ']⟩ :: ns)) := by cbv
  have hb : Token.scan "/*x*/a.b\t'c'\x7bd/*'\x7d*/1\x7d//".toList = .ok (Token.place 0
      (⟨.comment, "/*x*/".toList⟩ :: ls ++ ⟨.whitespace, ['\t']⟩ :: ms ++
        ⟨.comment, "/*'\x7d*/".toList⟩ :: ns ++ [⟨.comment, ['/', '/']⟩])) := by cbv
  refine (parse_agree ha hb (by decide) (by decide)).resolve_right ?_
  rintro ⟨e, -, he, -⟩
  have hparse : ∃ d, parse "a.b /*\x7b*/'c'\x7bd 1\x7d".toList = .ok d := ⟨_, by cbv⟩
  obtain ⟨d, hd⟩ := hparse
  rw [hd] at he
  cases he

end Graft
