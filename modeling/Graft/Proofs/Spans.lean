import Graft.Proofs.Layout
import Mathlib

/-!
# The spans of a tree

Where the parts of a parsed script lie. Every scope has its braces in the source and its nodes in
order between them; what the nodes leave over is filler; and every other token of the source lies
in one part of the tree.
-/
namespace Graft

open Grammar (IsFiller Layout kept)
open Token (StandsIn Tiles significant)

/-! ## Well-placed trees -/

/-- What spans in order leave over of the span around them. -/
def Span.gaps (outer : Span) : List Span → List Span
  | [] => [outer]
  | s :: ss => ⟨outer.start, s.start⟩ :: gaps ⟨s.stop, outer.stop⟩ ss

namespace Node

/-- The tokens of the header or the arguments. -/
def tokens : Node → List Token
  | statement _ _ args => args
  | block _ _ header _ _ => header

/-- Where the header or the arguments end at the latest. -/
def limit : Node → Nat
  | statement _ s _ => s.stop
  | block _ _ _ b _ => b.opening

mutual

/-- The parts of a node that are not nodes: its name, its tokens and its braces. -/
def leaves : Node → List Span
  | statement n s args => ⟨s.start, s.start + n.size⟩ :: args.map Token.span
  | block n s header b children =>
    ⟨s.start, s.start + n.size⟩ :: (header.map Token.span ++
      ⟨b.opening, b.opening + 1⟩ :: (leavesOf children ++ [⟨b.closing, b.closing + 1⟩]))

def leavesOf : List Node → List Span
  | [] => []
  | n :: ns => leaves n ++ leavesOf ns

end

/-- A node that begins with its name and has its tokens behind the name. -/
structure Placed (source : Text) (n : Node) : Prop where
  start_lt_stop : n.span.start < n.span.stop
  boundary_start : source.isBoundary n.span.start = true
  boundary_stop : source.isBoundary n.span.stop = true
  starts_with_name : n.name <+: source.slice n.span.start n.span.stop
  name_le_limit : n.span.start + n.name.size ≤ n.limit
  tokens : ∀ t ∈ n.tokens, n.span.start + n.name.size ≤ t.start ∧ t.stop ≤ n.limit ∧
    source.slice t.start t.stop = t.text

/-- Nodes in order inside `outer`, with nothing but filler before, between and after them. -/
structure Spread (source : Text) (ts : List Token) (outer : Span) (ns : List Node) : Prop where
  placed : ∀ n ∈ ns, n.Placed source
  inside : ∀ n ∈ ns, outer.contains n.span = true
  ordered : ns.Pairwise fun m n => m.span.stop ≤ n.span.start
  gaps : ∀ g ∈ outer.gaps (ns.map span), ∃ us, us <:+: ts ∧ Tiles g.start us g.stop ∧
    source.slice g.start g.stop = us.flatMap (·.text) ∧ ∀ t ∈ us, IsFiller t

end Node

/-- How many of the spans hold the token. -/
def Token.places (t : Token) (ss : List Span) : Nat := ss.countP (·.contains t.span)

namespace Scope

/-- What lies between the braces, or all of the document. -/
def body (s : Scope) : Span :=
  match s.braces with
  | none => s.span
  | some b => ⟨b.opening + 1, b.closing⟩

/-- A scope whose braces are in the source, with its nodes spread between them. -/
structure Placed (source : Text) (ts : List Token) (s : Scope) : Prop where
  braces : ∀ b ∈ s.braces, source.asciiAt? b.opening = some '{' ∧
    source.asciiAt? b.closing = some '}' ∧ s.span.start < b.opening ∧ b.opening < b.closing ∧
    s.span.stop = b.closing + 1
  document : s.braces = none → s.span = ⟨0, source.size⟩
  spread : Node.Spread source ts s.body s.children

end Scope

/-! ## Tokens and slices -/

namespace Token

theorem StandsIn.slice_eq {source : Text} {t : Token} (h : StandsIn source t) :
    source.slice t.start t.stop = t.text := by
  obtain ⟨a, b, rfl, ha⟩ := h
  rw [stop, ← ha]
  exact Text.slice_append a t.text b

theorem Tiles.slice_eq {source : Text} {ts : List Token} {p q : Nat} (h : Tiles p ts q)
    (hin : ∀ t ∈ ts, StandsIn source t) : source.slice p q = ts.flatMap (·.text) := by
  cases ts with
  | nil =>
    obtain rfl : p = q := h
    rw [Text.slice, Nat.sub_self, Text.takeBytes_zero, List.flatMap_nil]
  | cons t ts =>
    obtain ⟨a, c, hsource, ha⟩ := hin t (by simp)
    obtain ⟨b, hb⟩ := h.text_eq hin hsource (ha.trans h.1.1)
    rw [hsource, hb, h.stop_eq, ← h.1.1, ← ha]
    exact Text.slice_append a _ b

private theorem Tiles.boundaries {source : Text} {ts : List Token} {p q : Nat} (h : Tiles p ts q)
    (hne : ts ≠ []) (hin : ∀ t ∈ ts, StandsIn source t) :
    source.isBoundary p = true ∧ source.isBoundary q = true := by
  cases ts with
  | nil => exact absurd rfl hne
  | cons t ts =>
    obtain ⟨a, c, hsource, ha⟩ := hin t (by simp)
    obtain ⟨b, hb⟩ := h.text_eq hin hsource (ha.trans h.1.1)
    rw [Text.isBoundary_iff, Text.isBoundary_iff]
    refine ⟨⟨a, _, hsource, ha.trans h.1.1⟩, a ++ (t :: ts).flatMap (·.text), b, ?_, ?_⟩
    · rw [hsource, hb, List.append_assoc]
    · rw [Text.size_append, h.stop_eq, ha, h.1.1]

theorem stop_of_isSymbol {c : Char} {t : Token} (hc : c.utf8Size = 1) (h : t.isSymbol c = true) :
    t.stop = t.start + 1 := by
  rw [stop, (Tree.isSymbol_iff.mp h).2, Text.size_cons, hc, Text.size_nil]

private theorem StandsIn.asciiAt? {source : Text} {c : Char} {t : Token} (hin : StandsIn source t)
    (hc : c.utf8Size = 1) (h : t.isSymbol c = true) : source.asciiAt? t.start = some c := by
  obtain ⟨a, b, rfl, ha⟩ := hin
  rw [(Tree.isSymbol_iff.mp h).2, ← ha]
  exact Text.asciiAt?_size_append hc a b

end Token

/-! ## Layouts are well placed -/

theorem Span.contains_iff {s t : Span} :
    s.contains t = true ↔ s.start ≤ t.start ∧ t.stop ≤ s.stop := by
  simp [contains]

namespace Node

private theorem Spread.mono {source : Text} {ts us : List Token} {outer : Span} {ns : List Node}
    (h : Spread source ts outer ns) (hsub : ts <:+: us) : Spread source us outer ns := by
  refine ⟨h.placed, h.inside, h.ordered, ?_⟩
  intro g hg
  obtain ⟨vs, hvs, htiles, hslice, hfill⟩ := h.gaps g hg
  exact ⟨vs, hvs.trans hsub, htiles, hslice, hfill⟩

private theorem Spread.cons {source : Text} {front rest : List Token} {p q : Nat} {n : Node}
    {ns : List Node} (mid : List Token) (hfront : Tiles p front n.span.start)
    (hfill : ∀ t ∈ front, IsFiller t) (hin : ∀ t ∈ front, StandsIn source t) (hn : n.Placed source)
    (hq : n.span.stop ≤ q) (h : Spread source rest ⟨n.span.stop, q⟩ ns) :
    Spread source (front ++ (mid ++ rest)) ⟨p, q⟩ (n :: ns) := by
  have hle := hfront.le
  have hlt := hn.start_lt_stop
  have hns : ∀ m ∈ ns, n.span.stop ≤ m.span.start ∧ m.span.stop ≤ q :=
    fun m hm => Span.contains_iff.mp (h.inside m hm)
  constructor
  case placed =>
    intro m hm
    obtain rfl | hm := List.mem_cons.mp hm
    · exact hn
    · exact h.placed m hm
  case inside =>
    intro m hm
    rw [Span.contains_iff]
    obtain rfl | hm := List.mem_cons.mp hm
    · exact ⟨hle, hq⟩
    · have := hns m hm
      exact ⟨by simp only; omega, this.2⟩
  case ordered => exact List.pairwise_cons.mpr ⟨fun m hm => (hns m hm).1, h.ordered⟩
  case gaps =>
    intro g hg
    obtain rfl | hg := List.mem_cons.mp hg
    · exact ⟨front, (List.prefix_append front _).isInfix, hfront, hfront.slice_eq hin, hfill⟩
    · obtain ⟨us, hus, htiles, hslice, hfill'⟩ := h.gaps g hg
      refine ⟨us, hus.trans ?_, htiles, hslice, hfill'⟩
      rw [← List.append_assoc]
      exact (List.suffix_append _ rest).isInfix

private theorem placed_of_tiles {source : Text} {n : Node} {name ts : List Token} {k : Nat}
    (more : List Token) (hname : Tiles n.span.start name k) (hne : name ≠ [])
    (hts : Tiles k ts n.limit) (hmore : Tiles n.limit more n.span.stop)
    (hin : ∀ t ∈ name ++ (ts ++ more), StandsIn source t) (htext : n.name = name.flatMap (·.text))
    (htokens : ∀ t ∈ n.tokens, t ∈ ts) : n.Placed source := by
  have hall : Tiles n.span.start (name ++ (ts ++ more)) n.span.stop := by
    simp only [Token.tiles_append]
    exact ⟨_, hname, _, hts, hmore⟩
  have hbound := hall.boundaries (by simp [hne]) hin
  obtain ⟨t, ht⟩ := List.exists_mem_of_ne_nil name hne
  have hk : k = n.span.start + n.name.size := htext ▸ hname.stop_eq
  have hlt := hname.bounds ht
  have hle := hts.le
  have hle' := hmore.le
  constructor
  case start_lt_stop => omega
  case boundary_start => exact hbound.1
  case boundary_stop => exact hbound.2
  case starts_with_name =>
    rw [hall.slice_eq hin, List.flatMap_append, ← htext]
    exact List.prefix_append _ _
  case name_le_limit => omega
  case tokens =>
    intro u hu
    have hmem := htokens u hu
    have hu' := hts.bounds hmem
    exact ⟨by omega, hu'.2.2, (hin u (by simp [hmem])).slice_eq⟩

end Node

namespace Grammar

theorem mem_of_mem_kept {ts : List Token} {t : Token} (h : t ∈ kept ts) : t ∈ ts :=
  (List.mem_filter.mp (List.mem_filter.mp h).1).1

theorem Layout.tiles {p q : Nat} {ts : List Token} {ns : List Node} (h : Layout p ts q ns) :
    Tiles p ts q := by
  induction h with
  | nil h _ => exact h
  | statement hf _ hn _ ha _ ih =>
    simp only [Token.tiles_append]
    exact ⟨_, hf, _, hn, _, ha, ih⟩
  | block hf _ hn _ hh ho hc _ _ ihi ihr =>
    simp only [Token.tiles_append, Tiles]
    refine ⟨_, hf, _, hn, _, hh, ⟨rfl, ?_⟩, _, ihi, ⟨rfl, ?_⟩, ihr⟩
    · simp [(Tree.isSymbol_iff.mp ho).2]
    · simp [(Tree.isSymbol_iff.mp hc).2]

theorem Layout.spread {source : Text} {p q : Nat} {ts : List Token} {ns : List Node}
    (h : Layout p ts q ns) (hin : ∀ t ∈ ts, StandsIn source t) :
    Node.Spread source ts ⟨p, q⟩ ns := by
  induction h with
  | @nil p ts q h hfill =>
    refine ⟨by simp, by simp, .nil, ?_⟩
    intro g hg
    obtain rfl := List.mem_singleton.mp hg
    exact ⟨ts, List.infix_rfl, h, h.slice_eq hin, hfill⟩
  | @statement p front m name k args e rest q ns hf hfill hn hne ha hrest ih =>
    have hrest' := ih fun t ht => hin t (by simp [ht])
    have hplaced : (Node.statement (name.flatMap (·.text)) ⟨m, e⟩ (kept args)).Placed source := by
      refine Node.placed_of_tiles [] hn hne ha rfl ?_ rfl fun t => mem_of_mem_kept
      intro t ht
      exact hin t (by simp at ht ⊢; obtain ht | ht := ht <;> simp [ht])
    have hspread := Node.Spread.cons (name ++ args) hf hfill
      (fun t ht => hin t (by simp [ht])) hplaced hrest.tiles.le hrest'
    simpa using hspread
  | @block p front m name k header o inside c rest q cs ns hf hfill hn hne hh ho hc hi hrest _ ih =>
    have hrest' := ih fun t ht => hin t (by simp [ht])
    have hplaced : (Node.block (name.flatMap (·.text)) ⟨m, c.stop⟩ (kept header)
        ⟨o.start, c.start⟩ cs).Placed source := by
      refine Node.placed_of_tiles (o :: (inside ++ [c])) hn hne hh ?_ ?_ rfl
        fun t => mem_of_mem_kept
      · refine ⟨⟨rfl, by simp [(Tree.isSymbol_iff.mp ho).2]⟩, Token.tiles_append.mpr
          ⟨c.start, hi.tiles, ⟨rfl, by simp [(Tree.isSymbol_iff.mp hc).2]⟩, rfl⟩⟩
      · intro t ht
        exact hin t (by simp at ht ⊢; obtain ht | ht | ht | ht | ht := ht <;> simp [ht])
    have hspread := Node.Spread.cons (name ++ (header ++ o :: (inside ++ [c]))) hf hfill
      (fun t ht => hin t (by simp [ht])) hplaced hrest.tiles.le hrest'
    simpa using hspread

theorem Layout.scopes {source : Text} {p q : Nat} {ts : List Token} {ns : List Node}
    (h : Layout p ts q ns) (hin : ∀ t ∈ ts, StandsIn source t) :
    ∀ s ∈ Node.scopesOf ns, s.Placed source ts := by
  have hmono {s : Scope} {us vs : List Token} (hs : s.Placed source us) (hsub : us <:+: vs) :
      s.Placed source vs :=
    ⟨hs.braces, hs.document, hs.spread.mono hsub⟩
  induction h with
  | nil _ _ => simp [Node.scopesOf]
  | @statement p front m name k args e rest q ns _ _ _ _ _ _ ih =>
    intro s hs
    have hs' : s ∈ Node.scopesOf ns := by simpa [Node.scopesOf, Node.scopes] using hs
    refine hmono (ih (fun t ht => hin t (by simp [ht])) s hs') ?_
    exact ⟨front ++ (name ++ args), [], by simp⟩
  | @block p front m name k header o inside c rest q cs ns _ _ hn hne hh ho hc hi _ ihi ihr =>
    have hinside : ∀ t ∈ inside, StandsIn source t := fun t ht => hin t (by simp [ht])
    have hsub : inside <:+: front ++ (name ++ (header ++ o :: (inside ++ c :: rest))) :=
      ⟨front ++ (name ++ (header ++ [o])), c :: rest, by simp⟩
    intro s hs
    simp only [Node.scopesOf, Node.scopes, List.cons_append, List.mem_cons, List.mem_append] at hs
    obtain rfl | hs | hs := hs
    · have hostop := Token.stop_of_isSymbol (by decide) ho
      have hcstop := Token.stop_of_isSymbol (by decide) hc
      have hopen := (hin o (by simp)).asciiAt? (by decide) ho
      have hclose := (hin c (by simp)).asciiAt? (by decide) hc
      obtain ⟨t, ht⟩ := List.exists_mem_of_ne_nil name hne
      have hname := hn.bounds ht
      have hheader := hh.le
      have hbody := hi.tiles.le
      refine ⟨?_, by simp, ?_⟩
      · intro b hb
        cases hb
        refine ⟨hopen, hclose, ?_, ?_, hcstop⟩ <;> simp only <;> omega
      · have hspread := (hi.spread hinside).mono hsub
        rw [hostop] at hspread
        exact hspread
    · exact hmono (ihi hinside s hs) hsub
    · refine hmono (ihr (fun t ht => hin t (by simp [ht])) s hs) ?_
      exact ⟨front ++ (name ++ (header ++ o :: (inside ++ [c]))), [], by simp⟩

/-! ## Every token has one place -/

private theorem not_contains_of_apart {s : Span} {t : Token} (hlt : t.start < t.stop)
    (ht : t.stop ≤ s.start ∨ s.stop ≤ t.start) : ¬ s.contains t.span = true := by
  rw [Span.contains_iff]
  simp only [Token.span]
  omega

private theorem places_append (t : Token) (rs ss : List Span) :
    t.places (rs ++ ss) = t.places rs + t.places ss :=
  List.countP_append

private theorem places_cons_of_within {s : Span} {t : Token} (ss : List Span)
    (hstart : s.start ≤ t.start) (hstop : t.stop ≤ s.stop) : t.places (s :: ss) = t.places ss + 1 :=
  List.countP_cons_of_pos (Span.contains_iff.mpr ⟨hstart, hstop⟩)

private theorem places_cons_of_apart {s : Span} {t : Token} (ss : List Span)
    (hlt : t.start < t.stop) (ht : t.stop ≤ s.start ∨ s.stop ≤ t.start) :
    t.places (s :: ss) = t.places ss :=
  List.countP_cons_of_neg (not_contains_of_apart hlt ht)

private theorem places_of_apart {ss : List Span} {t : Token} {p q : Nat} (hlt : t.start < t.stop)
    (hss : ∀ s ∈ ss, p ≤ s.start ∧ s.stop ≤ q) (ht : t.stop ≤ p ∨ q ≤ t.start) :
    t.places ss = 0 := by
  rw [Token.places, List.countP_eq_zero]
  intro s hs
  have := hss s hs
  exact not_contains_of_apart hlt (by omega)

private theorem places_kept {k e : Nat} {ts : List Token} {t : Token} (h : Tiles k ts e)
    (ht : t ∈ kept ts) : t.places ((kept ts).map Token.span) = 1 := by
  rw [kept, significant, List.filter_filter] at *
  generalize (fun t : Token => _ && _) = f at *
  induction ts generalizing k with
  | nil => cases ht
  | cons u ts ih =>
    have hu := h.bounds (t := u) (by simp)
    have hrest : ∀ s ∈ (ts.filter f).map Token.span, u.stop ≤ s.start ∧ s.stop ≤ e := by
      intro s hs
      obtain ⟨v, hv, rfl⟩ := List.mem_map.mp hs
      have := h.2.bounds (List.mem_filter.mp hv).1
      exact ⟨this.1, this.2.2⟩
    rw [List.filter_cons] at ht ⊢
    split at ht
    case isFalse hf => exact (if_neg hf).symm ▸ ih h.2 ht
    case isTrue hf =>
      rw [if_pos hf, List.map_cons]
      obtain rfl | ht := List.mem_cons.mp ht
      · rw [places_cons_of_within (s := t.span) _ (Nat.le_refl _) (Nat.le_refl _),
          places_of_apart hu.2.1 hrest (.inl (Nat.le_refl _))]
      · have ht' := h.2.bounds (List.mem_filter.mp ht).1
        rw [places_cons_of_apart (s := u.span) _ ht'.2.1 (.inr ht'.1), ih h.2 ht]

private theorem bounds_kept {k e : Nat} {ts : List Token} (h : Tiles k ts e) :
    ∀ s ∈ (kept ts).map Token.span, k ≤ s.start ∧ s.stop ≤ e := by
  intro s hs
  obtain ⟨t, ht, rfl⟩ := List.mem_map.mp hs
  have := h.bounds (mem_of_mem_kept ht)
  exact ⟨this.1, this.2.2⟩

private theorem mem_kept {ts : List Token} {t : Token} (ht : t ∈ ts) (h : ¬ IsFiller t) :
    t ∈ kept ts := by
  simp only [IsFiller, IsSeparator, not_or] at h
  simp [kept, significant, ht, h]

private theorem Layout.leaves_bounds {p q : Nat} {ts : List Token} {ns : List Node}
    (h : Layout p ts q ns) : ∀ s ∈ Node.leavesOf ns, p ≤ s.start ∧ s.stop ≤ q := by
  induction h with
  | nil _ _ => simp [Node.leavesOf]
  | @statement p front m name k args e rest q ns hf _ hn _ ha hrest ih =>
    have hf := hf.le
    have hk := hn.stop_eq
    have hn := hn.le
    have hrest := hrest.tiles.le
    have hae := ha.le
    intro s hs
    simp only [Node.leavesOf, Node.leaves, List.cons_append, List.mem_cons, List.mem_append] at hs
    obtain rfl | hs | hs := hs
    · simp only
      omega
    · have := bounds_kept ha s hs
      omega
    · have := ih s hs
      omega
  | @block p front m name k header o inside c rest q cs ns hf _ hn _ hh ho hc hi hrest ihi ihr =>
    have hf := hf.le
    have hk := hn.stop_eq
    have hn := hn.le
    have hrest := hrest.tiles.le
    have hi := hi.tiles.le
    have hho := hh.le
    have hostop := Token.stop_of_isSymbol (by decide) ho
    have hcstop := Token.stop_of_isSymbol (by decide) hc
    intro s hs
    simp only [Node.leavesOf, Node.leaves, List.cons_append, List.mem_cons, List.mem_append,
      List.append_assoc, List.not_mem_nil, false_or] at hs
    obtain rfl | hs | rfl | hs | rfl | hs := hs
    · simp only
      omega
    · have := bounds_kept hh s hs
      omega
    · simp only
      omega
    · have := ihi s hs
      omega
    · simp only
      omega
    · have := ihr s hs
      omega

/-- Every token that is no filler lies in one leaf. -/
theorem Layout.places_leaves {p q : Nat} {ts : List Token} {ns : List Node}
    (h : Layout p ts q ns) {t : Token} (ht : t ∈ ts) (hfill : ¬ IsFiller t) :
    t.places (Node.leavesOf ns) = 1 := by
  induction h with
  | nil _ hall => exact absurd (hall t ht) hfill
  | @statement p front m name k args e rest q ns hf hall hn _ ha hrest ih =>
    have hk := hn.stop_eq
    have hae := ha.le
    have hargs := bounds_kept ha
    have hleaves := hrest.leaves_bounds
    -- where the token lies says which of the parts hold it
    have hname (hlt : t.start < t.stop) (h : k ≤ t.start) (ss : List Span) :=
      places_cons_of_apart (s := ⟨m, m + Text.size (name.flatMap (·.text))⟩) ss hlt
        (.inr (by simp only; omega))
    simp only [Node.leavesOf, Node.leaves, List.cons_append]
    simp only [List.mem_append] at ht
    obtain ht | ht | ht | ht := ht
    · exact absurd (hall t ht) hfill
    · obtain ⟨hm, hlt, hle⟩ := hn.bounds ht
      rw [places_cons_of_within _ hm (by simp only; omega), places_append,
        places_of_apart hlt hargs (by omega), places_of_apart hlt hleaves (by omega)]
    · obtain ⟨hm, hlt, hle⟩ := ha.bounds ht
      rw [hname hlt hm, places_append, places_kept ha (mem_kept ht hfill),
        places_of_apart hlt hleaves (by omega)]
    · obtain ⟨hm, hlt, hle⟩ := hrest.tiles.bounds ht
      rw [hname hlt (by omega), places_append, places_of_apart hlt hargs (by omega), ih ht]
  | @block p front m name k header o inside c rest q cs ns hf hall hn _ hh ho hc hi hrest ihi ihr =>
    have hk := hn.stop_eq
    have hko := hh.le
    have hoc := hi.tiles.le
    have hostop := Token.stop_of_isSymbol (by decide) ho
    have hcstop := Token.stop_of_isSymbol (by decide) hc
    have hheader := bounds_kept hh
    have hinside := hi.leaves_bounds
    have hleaves := hrest.leaves_bounds
    have hname (hlt : t.start < t.stop) (h : k ≤ t.start) (ss : List Span) :=
      places_cons_of_apart (s := ⟨m, m + Text.size (name.flatMap (·.text))⟩) ss hlt
        (.inr (by simp only; omega))
    have hopen (hlt : t.start < t.stop) (h : t.stop ≤ o.start ∨ o.stop ≤ t.start)
        (ss : List Span) :=
      places_cons_of_apart (s := ⟨o.start, o.start + 1⟩) ss hlt (by simp only; omega)
    have hclose (hlt : t.start < t.stop) (h : t.stop ≤ c.start ∨ c.stop ≤ t.start)
        (ss : List Span) :=
      places_cons_of_apart (s := ⟨c.start, c.start + 1⟩) ss hlt (by simp only; omega)
    simp only [Node.leavesOf, Node.leaves, List.cons_append, List.append_assoc, List.nil_append]
    simp only [List.mem_append, List.mem_cons] at ht
    obtain ht | ht | ht | rfl | ht | rfl | ht := ht
    · exact absurd (hall t ht) hfill
    · obtain ⟨hm, hlt, hle⟩ := hn.bounds ht
      rw [places_cons_of_within _ hm (by simp only; omega), places_append,
        places_of_apart hlt hheader (by omega), hopen hlt (by omega), places_append,
        places_of_apart hlt hinside (by omega), hclose hlt (by omega),
        places_of_apart hlt hleaves (by omega)]
    · obtain ⟨hm, hlt, hle⟩ := hh.bounds ht
      rw [hname hlt hm, places_append, places_kept hh (mem_kept ht hfill), hopen hlt (by omega),
        places_append, places_of_apart hlt hinside (by omega), hclose hlt (by omega),
        places_of_apart hlt hleaves (by omega)]
    · have hlt : t.start < t.stop := by omega
      rw [hname hlt hko, places_append, places_of_apart hlt hheader (by omega),
        places_cons_of_within _ (Nat.le_refl _) (by simp only; omega), places_append,
        places_of_apart hlt hinside (by omega), hclose hlt (by omega),
        places_of_apart hlt hleaves (by omega)]
    · obtain ⟨hm, hlt, hle⟩ := hi.tiles.bounds ht
      rw [hname hlt (by omega), places_append, places_of_apart hlt hheader (by omega),
        hopen hlt (by omega), places_append, ihi ht, hclose hlt (by omega),
        places_of_apart hlt hleaves (by omega)]
    · have hlt : t.start < t.stop := by omega
      rw [hname hlt (by omega), places_append, places_of_apart hlt hheader (by omega),
        hopen hlt (by omega), places_append, places_of_apart hlt hinside (by omega),
        places_cons_of_within _ (Nat.le_refl _) (by simp only; omega),
        places_of_apart hlt hleaves (by omega)]
    · obtain ⟨hm, hlt, hle⟩ := hrest.tiles.bounds ht
      rw [hname hlt (by omega), places_append, places_of_apart hlt hheader (by omega),
        hopen hlt (by omega), places_append, places_of_apart hlt hinside (by omega),
        hclose hlt (by omega), ihr ht]

end Grammar

/-- The tree of a script that parses is well placed in the source, and every token of the source
that is no filler lies in one leaf of it. -/
theorem Document.spans_of_parse {source : Text} {d : Document}
    (h : Document.parse source = .ok d) :
    ∃ ts, Token.scan source = .ok ts ∧ (∀ s ∈ d.root.walk, s.Placed source ts) ∧
      ∀ t ∈ ts, ¬ IsFiller t → t.places (Node.leavesOf d.nodes) = 1 := by
  obtain ⟨ts, hscan, hsource, hlayout, hin⟩ := Grammar.parse_layout h
  refine ⟨ts, hscan, ?_, fun t => hlayout.places_leaves⟩
  intro s hs
  obtain rfl | hs := List.mem_cons.mp hs
  · have hspread := hlayout.spread hin
    rw [← hsource] at hspread ⊢
    exact ⟨by simp [Document.root], fun _ => rfl, hspread⟩
  · exact hlayout.scopes hin s hs

theorem Document.spans_of_parse_nested :
    ∃ d ts, Document.parse "a\x7b /**/b.c 1;d(\n'x')\x7d".toList = .ok d ∧
      Token.scan "a\x7b /**/b.c 1;d(\n'x')\x7d".toList = .ok ts ∧
      (∀ s ∈ d.root.walk, s.Placed "a\x7b /**/b.c 1;d(\n'x')\x7d".toList ts) ∧
      ∀ t ∈ ts, ¬ IsFiller t → t.places (Node.leavesOf d.nodes) = 1 := by
  have hparse : ∃ d, Document.parse "a\x7b /**/b.c 1;d(\n'x')\x7d".toList = .ok d := ⟨_, by cbv⟩
  obtain ⟨d, hd⟩ := hparse
  obtain ⟨ts, h⟩ := Document.spans_of_parse hd
  exact ⟨d, ts, hd, h⟩

end Graft
