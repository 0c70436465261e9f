import Graft.Proofs.Injection
import Graft.Proofs.Scan
import Graft.Proofs.Seek

/-!
# Finding what was injected

All blocks of a script have dotted names, because a name is read as identifiers joined by points. A
path of dotted names leads, after an injection, to where the properties are. A path with any other
name leads nowhere, before and after, although a pattern may have it: its block is read under a name
of its own, and each injection makes another one.
-/
namespace Graft

open Shape (first? seek)

/-! ## The names of blocks -/

private theorem Lexeme.Stands.isIdentifier {l : Lexeme} (h : Stands l [])
    (hk : l.kind = .identifier) : IsIdentifier l.text := by
  obtain ⟨c, a, hl, hext⟩ := h
  have hrule := rule_of_extent hext
  rw [hk] at hrule
  generalize hlength : a.length = n at hrule
  cases hrule with
  | identifier hc => exact ⟨c, a, hl, hc, (length_takeWhile_append.mp hlength.symm).1⟩

private theorem Token.isIdentifier_of_place {source : Text} {ls : List Lexeme}
    (h : Lexeme.ofSource source = .ok ls) {t : Token} (ht : t ∈ place 0 ls)
    (hk : t.kind = .identifier) : Lexeme.IsIdentifier t.text := by
  obtain ⟨-, hbegins⟩ := Lexeme.ofSource_eq_ok_iff.mp h
  obtain hstand | ⟨r, hr, -⟩ := hbegins.stands_or_line (toLexeme_of_mem_place ht)
  · exact hstand.isIdentifier hk
  · simp [hr] at hk

namespace Grammar

private theorem Name.Linked.identifier {stop : Nat} {ps : List (Token × Token)}
    (h : Linked stop ps) : ∀ p ∈ ps, p.2.kind = .identifier := by
  induction ps generalizing stop with
  | nil => simp
  | cons p ps ih =>
    obtain ⟨-, ⟨hidentifier, -⟩, hlinked⟩ := h
    intro q hq
    cases hq with
    | head => exact hidentifier
    | tail _ hq => exact ih hlinked q hq

/-- All identifiers among the tokens are read as such. -/
def Spelled (ts : List Token) : Prop :=
  ∀ t ∈ ts, t.kind = .identifier → Lexeme.IsIdentifier t.text

private theorem Name.Valid.isDotted {n : Name} {following : List Token} (h : n.Valid following)
    (hspelled : Spelled n.tokens) : n.text.IsDotted := by
  refine ⟨n.first.text, n.rest.map (·.2.text), by simp [text, List.flatMap_map],
    hspelled _ (by simp [tokens]) h.identifier, ?_⟩
  intro i hi
  obtain ⟨p, hp, rfl⟩ := List.mem_map.mp hi
  have hmem : p.2 ∈ n.tokens :=
    List.mem_cons_of_mem _ (List.mem_flatMap.mpr ⟨p, hp, by simp⟩)
  exact hspelled _ hmem (h.linked.identifier p hp)

private theorem Body.Valid.of_mem_shapes {after : List Token} {b : Body} (h : b.Valid after)
    (hspelled : Spelled b.tokens) {name : Text} {header : List Lexeme} {cs : List Shape}
    (hmem : .block name header cs ∈ Node.shapes b.nodes) :
    name.IsDotted ∧ ∃ after' inside, Valid after' inside ∧ Spelled inside.tokens ∧
      cs = Node.shapes inside.nodes := by
  induction h with
  | nil => simp [nodes, Node.shapes] at hmem
  | separator _ _ ih =>
    exact ih (fun t ht => hspelled t (by simp [tokens, ht])) hmem
  | statement _ _ _ _ _ ih =>
    rw [nodes, Node.shapes] at hmem
    cases hmem with
    | tail _ hmem => exact ih (fun t ht => hspelled t (by simp [tokens, ht])) hmem
  | @block _ n _ _ _ inside _ _ hname _ _ _ _ hinside _ _ ih =>
    rw [nodes, Node.shapes] at hmem
    cases hmem with
    | head =>
      exact ⟨hname.isDotted fun t ht => hspelled t (by simp [tokens, ht]), _, inside, hinside,
        fun t ht => hspelled t (by simp [tokens, ht]), rfl⟩
    | tail _ hmem => exact ih (fun t ht => hspelled t (by simp [tokens, ht])) hmem

/-- Only dotted names lead anywhere. -/
theorem Body.Valid.isDotted_of_seek {after : List Token} {b : Body} (h : b.Valid after)
    (hspelled : Spelled b.tokens) {names : List Text} {path : List Nat}
    (hseek : seek names (Node.shapes b.nodes) = some path) : ∀ n ∈ names, n.IsDotted := by
  induction names generalizing after b path with
  | nil => simp
  | cons n names ih =>
    rw [seek] at hseek
    obtain ⟨⟨i, rest⟩, hfirst, -⟩ := Option.map_eq_some_iff.mp hseek
    obtain ⟨s, hs, hinner⟩ := Shape.exists_of_first? hfirst
    obtain ⟨cs, hinside, hrest⟩ := Option.bind_eq_some_iff.mp hinner
    cases s with
    | statement m arguments => cases hinside
    | block m header children =>
      obtain ⟨rfl, rfl⟩ : m = n ∧ children = cs := by simpa [Shape.inside?] using hinside
      obtain ⟨hm, after', inside, hvalid, hspelled', rfl⟩ := h.of_mem_shapes hspelled hs
      intro k hk
      cases hk with
      | head => exact hm
      | tail _ hk => exact ih hvalid hspelled' hrest k hk

end Grammar

private theorem Document.isDotted_of_find {source : Text} {d : Document}
    (hparse : parse source = .ok d) {names : List Text} (h : d.find (.ofPath names) ≠ []) :
    ∀ n ∈ names, n.IsDotted := by
  obtain ⟨ls, b, hls, ⟨htokens, hvalid⟩, rfl⟩ := Grammar.exists_derivation_of_parse hparse
  have hspelled : Grammar.Spelled b.tokens := by
    intro t ht
    rw [htokens] at ht
    exact Token.isIdentifier_of_place hls (List.mem_of_mem_filter ht)
  obtain ⟨-, hnil⟩ | ⟨path, s, hseek, -, -⟩ := find_eq ⟨source, b.nodes⟩ names
  · exact absurd hnil h
  · exact hvalid.isDotted_of_seek hspelled hseek

/-! ## Searching after an injection -/

namespace Plan

section
variable {source : Text} {d : Document} {pattern : Pattern} {names : List Text}
  {properties : List Property} {fallback : Text} {hash : Text → UInt64} {plan : Plan} {out : Text}
  {d' : Document}

private theorem shapes_of_make (hparse : Document.parse source = .ok d)
    (hchain : pattern.chain = .ok names) (hnames : ∀ n ∈ names, n.IsDotted)
    (hwf : Property.AllWellFormed properties) (hfallback : ∀ c ∈ fallback, Text.isIndent c = true)
    (hmake : make d pattern properties fallback hash = .ok plan)
    (happly : Edit.apply source plan.edits hash = .ok out) (hparse' : Document.parse out = .ok d')
    {path : List Nat} (hpath : d.root.at? path = some (target d names).1) :
    Node.shapes d'.nodes = Shape.appendAt
      (Shape.wrap (target d names).2 (Property.allShapes properties)) path
      (Node.shapes d.nodes) := by
  obtain ⟨chain, hchain', -, hedits⟩ := make_eq_ok hmake
  obtain rfl := Except.ok.inj (hchain.symm.trans hchain')
  have hdotted : ∀ n ∈ (target d names).2, n.IsDotted := by
    obtain ⟨k, -, hmissing, -, -⟩ := exists_deepest d names names.length
    intro n hn
    exact hnames n (List.mem_of_mem_drop (hmissing ▸ hn))
  rw [← Property.allShapes_nest hdotted]
  obtain ⟨hnil, hedits⟩ | ⟨hne, hedits⟩ := hedits
  · rw [hedits, Edit.apply_nil] at happly
    cases happly
    cases hparse.symm.trans hparse'
    rw [hnil, Property.allShapes, Shape.appendAt_nil]
  · obtain ⟨out', d'', happly', hparse'', hshapes⟩ :=
      parse_into_scope hparse hne (Property.wellFormed_nest hdotted hwf)
        (isIndent_unit hfallback) (isLineEnd_lineEnd source) hash (target_mem_walk d names) hpath
    rw [hedits, Document.source_of_parse hparse, happly'] at happly
    cases happly
    cases hparse''.symm.trans hparse'
    exact hshapes

private theorem find_of_make (hparse : Document.parse source = .ok d)
    (hchain : pattern.chain = .ok names) (hnames : ∀ n ∈ names, n.IsDotted)
    (hwf : Property.AllWellFormed properties) (hfallback : ∀ c ∈ fallback, Text.isIndent c = true)
    (hmake : make d pattern properties fallback hash = .ok plan)
    (happly : Edit.apply source plan.edits hash = .ok out) (hparse' : Document.parse out = .ok d') :
    d'.find (.ofPath names) ≠ [] := by
  obtain ⟨path, hpath, hseek⟩ := exists_seek_target d names
  have hshapes := shapes_of_make hparse hchain hnames hwf hfallback hmake happly hparse' hpath
  intro hnil
  have hnone := Document.seek_eq_none hnil
  rw [hshapes, hseek] at hnone
  cases hnone

end

/-- An injection is found again by its own pattern exactly if the names of the pattern are dotted.
Let a script parse, let the pattern be valid and have one path, let the properties be well formed
and the fallback indent, and let planning, splicing and parsing again succeed. Then a search for the
pattern finds something, and a further injection of valid properties there, which can always be
planned, creates no block, if and only if all names are dotted. -/
theorem found_again_iff_dotted {source : Text} {d : Document}
    (hparse : Document.parse source = .ok d) {pattern : Pattern} {names : List Text}
    (hpattern : pattern.validate = .ok ()) (hchain : pattern.chain = .ok names)
    {properties : List Property} (hwf : Property.AllWellFormed properties) {fallback : Text}
    (hfallback : ∀ c ∈ fallback, Text.isIndent c = true) {hash : Text → UInt64} {plan : Plan}
    (hmake : make d pattern properties fallback hash = .ok plan) {out : Text}
    (happly : Edit.apply source plan.edits hash = .ok out) {d' : Document}
    (hparse' : Document.parse out = .ok d') :
    (d'.find pattern ≠ [] ↔ ∀ n ∈ names, n.IsDotted) ∧
    ∀ (more : List Property) (fallback' : Text) (hash' : Text → UInt64),
      Property.validateAll more = .ok () → ∃ plan',
        make d' pattern more fallback' hash' = .ok plan' ∧
        (plan'.created = [] ↔ ∀ n ∈ names, n.IsDotted) := by
  have hfound : d'.find (.ofPath names) ≠ [] ↔ ∀ n ∈ names, n.IsDotted :=
    ⟨Document.isDotted_of_find hparse', fun hnames =>
      find_of_make hparse hchain hnames hwf hfallback hmake happly hparse'⟩
  refine ⟨by rwa [Pattern.eq_ofPath_of_chain hchain], ?_⟩
  intro more fallback' hash' hmore
  obtain ⟨plan', hmake', hcreated, -⟩ :=
    exists_make (d := d') hpattern hchain hmore fallback' hash'
  exact ⟨plan', hmake', by rw [hcreated, target_missing_eq_nil_iff, hfound]⟩

/-- A property on one line. -/
def plainLine : Property := .line ['x'] ['1'] .statement

private theorem allWellFormed_plainLine : Property.AllWellFormed [plainLine] :=
  ⟨⟨_, _, _, by cbv, rfl, rfl⟩, trivial⟩

/-- A block under another one is created, found, and used the next time. -/
theorem found_again_iff_dotted_nested :
    let pattern := Pattern.ofPath [['a'], ['b', '.', 'c']]
    ∃ d plan out d', Document.parse ['a', '\x7b', '\x7d'] = .ok d ∧ pattern.validate = .ok () ∧
      pattern.chain = .ok [['a'], ['b', '.', 'c']] ∧ Property.AllWellFormed [plainLine] ∧
      (∀ c ∈ ['\t'], Text.isIndent c = true) ∧
      make d pattern [plainLine] ['\t'] (fun _ => 0) = .ok plan ∧
      plan.created = [['b', '.', 'c']] ∧
      Edit.apply ['a', '\x7b', '\x7d'] plan.edits (fun _ => 0) = .ok out ∧
      Document.parse out = .ok d' ∧ d'.find pattern ≠ [] ∧
      ∃ plan', make d' pattern [plainLine] ['\t'] (fun _ => 0) = .ok plan' ∧
        plan'.created = [] := by
  intro pattern
  have hrun : ∃ d plan out d', Document.parse ['a', '\x7b', '\x7d'] = .ok d ∧
      make d pattern [plainLine] ['\t'] (fun _ => 0) = .ok plan ∧
      plan.created = [['b', '.', 'c']] ∧
      Edit.apply ['a', '\x7b', '\x7d'] plan.edits (fun _ => 0) = .ok out ∧
      Document.parse out = .ok d' := ⟨_, _, _, _, by cbv, by cbv, rfl, by cbv, by cbv⟩
  obtain ⟨d, plan, out, d', hparse, hmake, hcreated, happly, hparse'⟩ := hrun
  have hidentifier (c : Char) (hc : Lexeme.isNameStart c = true) : Lexeme.IsIdentifier [c] :=
    ⟨c, [], rfl, hc, by simp⟩
  have hdotted : ∀ n ∈ [['a'], ['b', '.', 'c']], Text.IsDotted n := by
    intro n hn
    obtain rfl | rfl := List.mem_pair.mp hn
    · exact ⟨['a'], [], rfl, hidentifier 'a' (by decide), by simp⟩
    · exact ⟨['b'], [['c']], rfl, hidentifier 'b' (by decide),
        List.forall_mem_singleton.mpr (hidentifier 'c' (by decide))⟩
  have hindent : ∀ c ∈ ['\t'], Text.isIndent c = true :=
    List.forall_mem_singleton.mpr (by decide)
  obtain ⟨hfound, hmore⟩ := found_again_iff_dotted hparse rfl rfl
    allWellFormed_plainLine hindent hmake happly hparse'
  obtain ⟨plan', hmake', hcreated'⟩ := hmore [plainLine] ['\t'] (fun _ => 0) rfl
  exact ⟨d, plan, out, d', hparse, rfl, rfl, allWellFormed_plainLine, hindent, hmake, hcreated,
    happly, hparse', hfound.mpr hdotted, plan', hmake', hcreated'.mpr hdotted⟩

/-- A valid pattern can have a name that no block has, and the fallback need not indent. In either
case what is injected is not found again, and the next injection creates a block again. -/
theorem injection_not_found_again :
    Document.parse [] = .ok ⟨[], []⟩ ∧ Property.AllWellFormed [plainLine] ∧
    ∀ names unit, (names, unit) ∈ [([['a', '(', '1', ')']], defaultUnit),
        ([['a'], ['b']], ['/', '/'])] →
      let pattern := Pattern.ofPath names
      pattern.validate = .ok () ∧ pattern.chain = .ok names ∧
      ∃ plan out d' plan', make ⟨[], []⟩ pattern [plainLine] unit = .ok plan ∧
        Edit.apply [] plan.edits = .ok out ∧ Document.parse out = .ok d' ∧ d'.find pattern = [] ∧
        make d' pattern [plainLine] unit = .ok plan' ∧ plan'.created ≠ [] := by
  refine ⟨by cbv, allWellFormed_plainLine, ?_⟩
  intro names unit hmem
  rw [List.mem_pair] at hmem
  obtain ⟨⟨rfl, rfl⟩⟩ | ⟨⟨rfl, rfl⟩⟩ := hmem
  · refine ⟨rfl, rfl, _, _, _, _, by cbv, by cbv, by cbv, by cbv, by cbv, by decide⟩
  · refine ⟨rfl, rfl, _, _, _, _, by cbv, by cbv, by cbv, by cbv, by cbv, by decide⟩

end Plan
end Graft
