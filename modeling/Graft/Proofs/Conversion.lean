import Graft.Proofs.Outline
import Mathlib

/-!
# Untrusted outlines

An outline may say anything. Its conversion never reads past the end of the source and never cuts a
character, whatever offsets it is given: `convertStrict` is the conversion with every access
guarded, and no guard ever fails. What comes out lies in the source as it should, at every level.
-/
namespace Graft

open Token (StandsIn)

/-! ## Bytes -/

namespace Text

/-- The UTF-8 form. -/
def bytes (t : Text) : List UInt8 := t.flatMap String.utf8EncodeChar

/-- The byte at offset `n`, if the text goes that far. -/
def byteAt? (n : Nat) (t : Text) : Option UInt8 := (bytes t)[n]?

theorem bytes_append (s t : Text) : bytes (s ++ t) = bytes s ++ bytes t := List.flatMap_append

theorem bytes_cons (c : Char) (t : Text) : bytes (c :: t) = String.utf8EncodeChar c ++ bytes t :=
  List.flatMap_cons

theorem length_bytes (t : Text) : t.bytes.length = t.size := by
  induction t with
  | nil => rfl
  | cons c r ih => rw [bytes_cons, List.length_append, String.length_utf8EncodeChar, ih, size_cons]

theorem le_of_mem_utf8EncodeChar {c : Char} {b : UInt8} (hb : b ∈ String.utf8EncodeChar c)
    (hc : c.utf8Size ≠ 1) : 128 ≤ b.toNat := by
  have hlarge : ¬ c.val.toNat ≤ 127 := by
    intro hle
    exact hc (Char.utf8Size_eq_one_iff.mpr (UInt32.le_iff_toNat_le.mpr hle))
  simp only [String.utf8EncodeChar, if_neg hlarge] at hb
  split at hb
  · simp only [List.mem_cons, List.not_mem_nil, or_false] at hb
    rcases hb with rfl | rfl <;> simp <;> omega
  · split at hb
    · simp only [List.mem_cons, List.not_mem_nil, or_false] at hb
      rcases hb with rfl | rfl | rfl <;> simp <;> omega
    · simp only [List.mem_cons, List.not_mem_nil, or_false] at hb
      rcases hb with rfl | rfl | rfl | rfl <;> simp <;> omega

theorem toNat_toUInt8_of_ascii {c : Char} (hc : c.utf8Size = 1) :
    c.toUInt8.toNat = c.val.toNat ∧ c.val.toNat < 128 := by
  have hle : c.val.toNat ≤ 127 := UInt32.le_iff_toNat_le.mp (Char.utf8Size_eq_one_iff.mp hc)
  rw [Char.toUInt8, UInt32.toNat_toUInt8]
  omega

/-- A byte of an ASCII character stands nowhere but where the character does. -/
theorem byteAt?_eq_some_iff {c : Char} (hc : c.utf8Size = 1) {t : Text} {n : Nat} :
    t.byteAt? n = some c.toUInt8 ↔ t.asciiAt? n = some c := by
  obtain ⟨hbyte, hsmall⟩ := toNat_toUInt8_of_ascii hc
  rw [asciiAt?_eq_some_iff, byteAt?]
  constructor
  · intro h
    induction t generalizing n with
    | nil => simp [bytes] at h
    | cons d r ih =>
      rw [bytes_cons, List.getElem?_append, String.length_utf8EncodeChar] at h
      split at h
      case isTrue hlt =>
        have hmem := List.mem_of_getElem? h
        by_cases hd : d.utf8Size = 1
        · rw [String.utf8EncodeChar_eq_singleton hd, List.mem_singleton] at hmem
          have hval : c.val.toNat = d.val.toNat := by
            rw [← hbyte, ← (toNat_toUInt8_of_ascii hd).1, hmem, Char.toUInt8]
          obtain rfl : c = d := Char.ext (UInt32.toNat_inj.mp hval)
          exact ⟨[], r, rfl, by rw [size_nil]; omega, hc⟩
        · have := le_of_mem_utf8EncodeChar hmem hd
          omega
      case isFalse hge =>
        obtain ⟨a, b, rfl, ha, -⟩ := ih h
        refine ⟨d :: a, b, rfl, ?_, hc⟩
        rw [size_cons]
        omega
  · rintro ⟨a, b, rfl, rfl, -⟩
    rw [bytes_append, bytes_cons, String.utf8EncodeChar_eq_singleton hc,
      List.getElem?_append_right (by rw [length_bytes]), length_bytes, Nat.sub_self]
    rfl

/-- The characters from one offset up to another, if both are boundaries in the text and in
order. -/
def slice? (start stop : Nat) (t : Text) : Option Text :=
  if start ≤ stop && stop ≤ t.size && t.isBoundary start && t.isBoundary stop then
    some (t.slice start stop)
  else none

private theorem le_size_of_isBoundary {t : Text} {n : Nat} (h : t.isBoundary n = true) :
    n ≤ t.size := by
  obtain ⟨a, b, rfl, rfl⟩ := isBoundary_iff.mp h
  rw [size_append]
  omega

private theorem slice?_of_boundaries {t : Text} {p q : Nat} (hp : t.isBoundary p = true)
    (hq : t.isBoundary q = true) (hle : p ≤ q) : t.slice? p q = some (t.slice p q) := by
  rw [slice?, if_pos]
  simp [hp, hq, hle, le_size_of_isBoundary hq]

private theorem boundaries_of_asciiAt? {t : Text} {n : Nat} {c : Char} (h : t.asciiAt? n = some c) :
    t.isBoundary n = true ∧ t.isBoundary (n + 1) = true := by
  obtain ⟨a, b, rfl, rfl, hc⟩ := asciiAt?_eq_some_iff.mp h
  have hnext := isBoundary_size_append (a ++ [c]) b
  rw [size_append, size_cons, hc, size_nil, List.append_assoc] at hnext
  exact ⟨isBoundary_size_append a _, hnext⟩

end Text

/-! ## Guarded conversion -/

namespace Outline

/-- The tokens of a part of the source; the part has to be one. -/
def tokensInStrict (source : Text) (start stop : Nat) : ExceptT Flaw Option (List Token) := do
  match Token.scan (← source.slice? start stop) with
  | .ok ts => return ((Token.significant ts).filter fun t => t.kind ≠ .newline).map (.shift start)
  | .error e => throw (.lex e)

/-- The offset after the name at `start`, if it stands there before `limit`; the part between them
has to be one. -/
def nameEndStrict (source : Text) (start limit : Nat) (name : Text) :
    ExceptT Flaw Option Nat := do
  return if name.isPrefixOf (← source.slice? start limit) then start + name.size else start

/-- Whether the braces of a block are in its span and in the source. -/
def hasBracesStrict (source : Text) (start stop opening closing : Nat) : Option Bool :=
  if start ≤ opening && opening < closing && closing < stop then do
    let first ← source.byteAt? opening
    let last ← source.byteAt? closing
    return first == '{'.toUInt8 && last == '}'.toUInt8
  else return false

mutual

/-- The conversion of a node with every access to the source guarded. It ends in `none` when a byte
is read that is not there or a part is cut out that is none. Each sum of offsets bounds such a part,
so none of them is larger than the source. -/
def convertStrict (source : Text) (parent : Span) (last : Nat) :
    Outline → ExceptT Flaw Option Node
  | .block name start stop opening closing children => do
    let span ← liftExcept (checkSpan source parent last start stop)
    if ← hasBracesStrict source start stop opening closing then
      let nodes ← convertAllStrict source ⟨opening + 1, closing⟩ (opening + 1) children
      let header ← tokensInStrict source (← nameEndStrict source start opening name) opening
      -- an empty block on one line is told by what stands between its braces
      let _ ← source.slice? (opening + 1) closing
      return .block name span header ⟨opening, closing⟩ nodes
    else throw (.badBraces name)
  | .statement name start stop => do
    let span ← liftExcept (checkSpan source parent last start stop)
    let arguments ← tokensInStrict source (← nameEndStrict source start stop name) stop
    return .statement name span arguments

def convertAllStrict (source : Text) (parent : Span) (last : Nat) :
    List Outline → ExceptT Flaw Option (List Node)
  | [] => return []
  | o :: os => do
    let node ← o.convertStrict source parent last
    let nodes ← convertAllStrict source parent node.span.stop os
    return node :: nodes

end

/-- A guarded computation comes to an end with this result: no guard fails. -/
def Settles {α : Type} (x : ExceptT Flaw Option α) (r : Except Flaw α) : Prop := x.run = some r

section Settles

variable {α β : Type}

private theorem settles_pure (a : α) : Settles (pure a) (.ok a) := rfl

private theorem settles_throw (e : Flaw) :
    Settles (throw e : ExceptT Flaw Option α) (.error e) := rfl

private theorem settles_liftExcept (r : Except Flaw α) : Settles (liftExcept r) r := by
  cases r <;> rfl

private theorem Settles.bind {x : ExceptT Flaw Option α} {r : Except Flaw α}
    {f : α → ExceptT Flaw Option β} {g : α → Except Flaw β} (hx : Settles x r)
    (hf : ∀ a, r = .ok a → Settles (f a) (g a)) : Settles (x >>= f) (r >>= g) := by
  cases r with
  | error e =>
    rw [Settles, ExceptT.run_bind, hx]
    rfl
  | ok a =>
    rw [Settles, ExceptT.run_bind, hx]
    exact hf a rfl

private theorem Settles.bind_ok {x : ExceptT Flaw Option α} {a : α} {f : α → ExceptT Flaw Option β}
    {r : Except Flaw β} (hx : Settles x (.ok a)) (hf : Settles (f a) r) : Settles (x >>= f) r := by
  rw [Settles, ExceptT.run_bind, hx]
  exact hf

private theorem settles_lift_bind {o : Option α} {a : α} {f : α → ExceptT Flaw Option β}
    {r : Except Flaw β} (ho : o = some a) (hf : Settles (f a) r) :
    Settles (liftM o >>= f) r := by
  rw [ho]
  exact hf

end Settles

variable {source : Text} {parent : Span} {last start stop opening closing : Nat}

private theorem checkSpan_eq_ok {span : Span}
    (h : checkSpan source parent last start stop = .ok span) :
    span = ⟨start, stop⟩ ∧ start ≤ stop ∧ parent.contains ⟨start, stop⟩ = true ∧ last ≤ start ∧
      source.isBoundary start = true ∧ source.isBoundary stop = true := by
  rw [checkSpan] at h
  split at h
  case isFalse => cases h
  case isTrue hspan =>
    cases h
    simp only [Bool.and_eq_true, decide_eq_true_eq] at hspan
    obtain ⟨⟨⟨⟨hle, hparent⟩, hlast⟩, hstart⟩, hstop⟩ := hspan
    exact ⟨rfl, hle, hparent, hlast, hstart, hstop⟩

private theorem settles_tokensInStrict (hstart : source.isBoundary start = true)
    (hstop : source.isBoundary stop = true) (hle : start ≤ stop) :
    Settles (tokensInStrict source start stop) (tokensIn source start stop) := by
  rw [tokensInStrict, tokensIn]
  refine settles_lift_bind (Text.slice?_of_boundaries hstart hstop hle) ?_
  cases Token.scan (source.slice start stop) with
  | ok ts => exact settles_pure _
  | error e => exact settles_throw _

private theorem settles_nameEndStrict (hstart : source.isBoundary start = true)
    (hstop : source.isBoundary stop = true) (hle : start ≤ stop) (name : Text) :
    Settles (nameEndStrict source start stop name) (.ok (nameEnd source start stop name)) := by
  rw [nameEndStrict, nameEnd]
  exact settles_lift_bind (Text.slice?_of_boundaries hstart hstop hle) (settles_pure _)

private theorem nameEnd_bounds (hstart : source.isBoundary start = true)
    (hstop : source.isBoundary stop = true) (hle : start ≤ stop) (name : Text) :
    start ≤ nameEnd source start stop name ∧ nameEnd source start stop name ≤ stop ∧
      source.isBoundary (nameEnd source start stop name) = true := by
  rw [nameEnd]
  split
  case isFalse => exact ⟨Nat.le_refl _, hle, hstart⟩
  case isTrue hname =>
    obtain ⟨a, m, b, rfl, rfl, rfl⟩ := Text.exists_parts hstart hstop hle
    rw [Text.slice_append, List.isPrefixOf_iff_prefix] at hname
    obtain ⟨m, rfl⟩ := hname
    have hend := Text.isBoundary_size_append (a ++ name) (m ++ b)
    rw [Text.size_append, List.append_assoc, ← List.append_assoc name] at hend
    refine ⟨by omega, ?_, hend⟩
    rw [Text.size_append]
    omega

private theorem byte_eq {b : UInt8} {c : Char} {n : Nat} (hc : c.utf8Size = 1)
    (hb : source.byteAt? n = some b) :
    (b == c.toUInt8) = decide (source.asciiAt? n = some c) := by
  have h : b = c.toUInt8 ↔ source.asciiAt? n = some c := by
    rw [← Text.byteAt?_eq_some_iff hc, hb, Option.some.injEq]
  rw [Bool.beq_eq_decide_eq, decide_eq_decide]
  exact h

/-- The braces are looked for inside the source only. -/
theorem hasBracesStrict_eq (hsize : stop ≤ source.size) :
    hasBracesStrict source start stop opening closing =
      some (start ≤ opening && opening < closing && closing < stop
        && source.asciiAt? opening = some '{' && source.asciiAt? closing = some '}') := by
  have hread {n : Nat} (hn : n < stop) : ∃ b, source.byteAt? n = some b := by
    have hlength := source.length_bytes
    exact ⟨_, List.getElem?_eq_getElem (by omega)⟩
  rw [hasBracesStrict]
  split
  case isFalse hbraces =>
    rw [Bool.not_eq_true] at hbraces
    rw [hbraces]
    rfl
  case isTrue hbraces =>
    have hle := hbraces
    simp only [Bool.and_eq_true, decide_eq_true_eq] at hle
    obtain ⟨first, hfirst⟩ := hread (show opening < stop by omega)
    obtain ⟨second, hsecond⟩ := hread (show closing < stop by omega)
    rw [hbraces, hfirst, hsecond, Bool.true_and, ← byte_eq rfl hfirst, ← byte_eq rfl hsecond]
    rfl

mutual

private theorem settles_convertStrict (source : Text) (parent : Span) (last : Nat) :
    (o : Outline) → Settles (o.convertStrict source parent last) (o.convert source parent last)
  | .statement name start stop => by
    rw [convertStrict, convert]
    refine (settles_liftExcept _).bind fun span hspan => ?_
    obtain ⟨-, hle, -, -, hstart, hstop⟩ := checkSpan_eq_ok hspan
    obtain ⟨-, hname, hboundary⟩ := nameEnd_bounds hstart hstop hle name
    refine (settles_nameEndStrict hstart hstop hle name).bind_ok ?_
    exact (settles_tokensInStrict hboundary hstop hname).bind fun _ _ => settles_pure _
  | .block name start stop opening closing children => by
    rw [convertStrict, convert]
    refine (settles_liftExcept _).bind fun span hspan => ?_
    obtain ⟨-, -, -, -, hstart, hstop⟩ := checkSpan_eq_ok hspan
    refine settles_lift_bind (hasBracesStrict_eq (Text.le_size_of_isBoundary hstop)) ?_
    split
    case isFalse => exact settles_throw _
    case isTrue hbraces =>
      simp only [Bool.and_eq_true, decide_eq_true_eq] at hbraces
      obtain ⟨⟨⟨⟨hle, hlt⟩, -⟩, hopen⟩, hclose⟩ := hbraces
      obtain ⟨hopening, hinside⟩ := Text.boundaries_of_asciiAt? hopen
      obtain ⟨hclosing, -⟩ := Text.boundaries_of_asciiAt? hclose
      obtain ⟨-, hname, hboundary⟩ := nameEnd_bounds hstart hopening hle name
      refine (settles_convertAllStrict source _ _ children).bind fun nodes _ => ?_
      refine (settles_nameEndStrict hstart hopening hle name).bind_ok ?_
      refine (settles_tokensInStrict hboundary hopening hname).bind fun header _ => ?_
      exact settles_lift_bind (Text.slice?_of_boundaries hinside hclosing hlt) (settles_pure _)

/-- No guard of a conversion fails, whatever the outlines say. -/
theorem settles_convertAllStrict (source : Text) (parent : Span) (last : Nat) :
    (os : List Outline) →
      Settles (convertAllStrict source parent last os) (convertAll source parent last os)
  | [] => by
    rw [convertAllStrict, convertAll]
    exact settles_pure _
  | o :: os => by
    rw [convertAllStrict, convertAll]
    refine (settles_convertStrict source parent last o).bind fun node _ => ?_
    exact (settles_convertAllStrict source parent _ os).bind fun _ _ => settles_pure _

end

end Outline

/-! ## What a conversion gives -/

/-- A node between characters of the source, with tokens of the source that lie in it: in a block
before its braces. -/
structure Node.Lies (source : Text) (n : Node) : Prop where
  start_le_stop : n.span.start ≤ n.span.stop
  boundary_start : source.isBoundary n.span.start = true
  boundary_stop : source.isBoundary n.span.stop = true
  tokens : ∀ t ∈ n.tokens, n.span.start ≤ t.start ∧ t.stop ≤ n.limit ∧
    source.isBoundary t.start = true ∧ source.isBoundary t.stop = true ∧
    source.slice t.start t.stop = t.text

/-- A scope with its braces in the source and in its span, and its nodes in order between them. -/
structure Scope.Lies (source : Text) (s : Scope) : Prop where
  braces : ∀ b ∈ s.braces, s.span.start ≤ b.opening ∧ b.opening < b.closing ∧
    b.closing < s.span.stop ∧ source.byteAt? b.opening = some '{'.toUInt8 ∧
    source.byteAt? b.closing = some '}'.toUInt8
  nodes : ∀ n ∈ s.children, n.Lies source
  inside : ∀ n ∈ s.children, s.body.contains n.span = true
  ordered : s.children.Pairwise fun m n => m.span.stop ≤ n.span.start

namespace Outline

variable {source : Text} {parent : Span} {last start stop : Nat}

private theorem standsIn_of_tokensIn (hstart : source.isBoundary start = true)
    (hstop : source.isBoundary stop = true) (hle : start ≤ stop) {ts : List Token}
    (h : tokensIn source start stop = .ok ts) {t : Token} (ht : t ∈ ts) :
    start ≤ t.start ∧ t.stop ≤ stop ∧ StandsIn source t := by
  obtain ⟨a, m, b, rfl, rfl, rfl⟩ := Text.exists_parts hstart hstop hle
  have hslice := Text.slice_append a m b
  cases hls : Lexeme.ofSource m with
  | error f =>
    rw [tokensIn, hslice, Token.scan, hls] at h
    cases h
  | ok ls =>
    rw [tokensIn_eq hslice hls] at h
    cases h
    obtain ⟨rfl, hne⟩ := Lexeme.ofSource_texts hls
    have hmem := Grammar.mem_of_mem_kept ht
    have hbounds := (Token.tiles_place hne (Text.size a)).bounds hmem
    exact ⟨hbounds.1, hbounds.2.2, Token.standsIn_place hmem⟩

/-- Nodes in order inside a span, none of them before `last`. -/
structure Row (source : Text) (parent : Span) (last : Nat) (ns : List Node) : Prop where
  nodes : ∀ n ∈ ns, n.Lies source
  inside : ∀ n ∈ ns, parent.contains n.span = true
  behind : ∀ n ∈ ns, last ≤ n.span.start
  ordered : ns.Pairwise fun m n => m.span.stop ≤ n.span.start

private theorem row_nil : Row source parent last [] := ⟨by simp, by simp, by simp, .nil⟩

private theorem Row.cons {n : Node} {ns : List Node} (hn : n.Lies source)
    (hparent : parent.contains n.span = true) (hlast : last ≤ n.span.start)
    (hns : Row source parent n.span.stop ns) : Row source parent last (n :: ns) := by
  constructor
  case nodes => exact List.forall_mem_cons.mpr ⟨hn, hns.nodes⟩
  case inside => exact List.forall_mem_cons.mpr ⟨hparent, hns.inside⟩
  case behind =>
    refine List.forall_mem_cons.mpr ⟨hlast, fun m hm => ?_⟩
    have := hns.behind m hm
    have := hn.start_le_stop
    omega
  case ordered => exact List.pairwise_cons.mpr ⟨hns.behind, hns.ordered⟩

private theorem lies_tokens {n : Node} {k : Nat} (hk : n.span.start ≤ k)
    (hboundary : source.isBoundary k = true) (hlimit : source.isBoundary n.limit = true)
    (hle : k ≤ n.limit) (h : tokensIn source k n.limit = .ok n.tokens) :
    ∀ t ∈ n.tokens, n.span.start ≤ t.start ∧ t.stop ≤ n.limit ∧
      source.isBoundary t.start = true ∧ source.isBoundary t.stop = true ∧
      source.slice t.start t.stop = t.text := by
  intro t ht
  obtain ⟨hstart, hstop, hin⟩ := standsIn_of_tokensIn hboundary hlimit hle h ht
  exact ⟨by omega, hstop, hin.boundaries.1, hin.boundaries.2, hin.slice_eq⟩

mutual

private theorem lies_of_convert {parent : Span} {last : Nat} {node : Node} : (o : Outline) →
    o.convert source parent last = .ok node →
      node.Lies source ∧ parent.contains node.span = true ∧ last ≤ node.span.start ∧
        ∀ s ∈ node.scopes, s.Lies source
  | .statement name start stop, h => by
    rw [convert] at h
    obtain ⟨span, hspan, h⟩ := exists_of_bind_eq_ok h
    obtain ⟨arguments, htokens, h⟩ := exists_of_bind_eq_ok h
    cases h
    obtain ⟨rfl, hle, hparent, hlast, hstart, hstop⟩ := checkSpan_eq_ok hspan
    obtain ⟨hname, hlimit, hboundary⟩ := nameEnd_bounds hstart hstop hle name
    have htokens' := lies_tokens (n := .statement name ⟨start, stop⟩ arguments) hname hboundary
      hstop hlimit htokens
    exact ⟨⟨hle, hstart, hstop, htokens'⟩, hparent, hlast, by simp [Node.scopes]⟩
  | .block name start stop opening closing children, h => by
    rw [convert] at h
    obtain ⟨span, hspan, h⟩ := exists_of_bind_eq_ok h
    split at h
    case isFalse => cases h
    case isTrue hbraces =>
      obtain ⟨nodes, hnodes, h⟩ := exists_of_bind_eq_ok h
      obtain ⟨header, htokens, h⟩ := exists_of_bind_eq_ok h
      cases h
      simp only [Bool.and_eq_true, decide_eq_true_eq] at hbraces
      obtain ⟨⟨⟨⟨hopening, hlt⟩, hclosing⟩, hopen⟩, hclose⟩ := hbraces
      obtain ⟨rfl, hle, hparent, hlast, hstart, hstop⟩ := checkSpan_eq_ok hspan
      obtain ⟨hboundary, -⟩ := Text.boundaries_of_asciiAt? hopen
      obtain ⟨hname, hlimit, hend⟩ := nameEnd_bounds hstart hboundary hopening name
      have htokens' := lies_tokens (n := .block name ⟨start, stop⟩ header ⟨opening, closing⟩ nodes)
        hname hend hboundary hlimit htokens
      obtain ⟨hrow, hscopes⟩ := lies_of_convertAll children hnodes
      refine ⟨⟨hle, hstart, hstop, htokens'⟩, hparent, hlast, ?_⟩
      intro s hs
      rcases List.mem_cons.mp hs with rfl | hs
      · refine ⟨?_, hrow.nodes, hrow.inside, hrow.ordered⟩
        intro b hb
        cases hb
        exact ⟨hopening, hlt, hclosing, (Text.byteAt?_eq_some_iff rfl).mpr hopen,
          (Text.byteAt?_eq_some_iff rfl).mpr hclose⟩
      · exact hscopes s hs

private theorem lies_of_convertAll {parent : Span} {last : Nat} {nodes : List Node} :
    (os : List Outline) → convertAll source parent last os = .ok nodes →
      Row source parent last nodes ∧ ∀ s ∈ Node.scopesOf nodes, s.Lies source
  | [], h => by
    cases h
    exact ⟨row_nil, by simp [Node.scopesOf]⟩
  | o :: os, h => by
    rw [convertAll] at h
    obtain ⟨node, hnode, h⟩ := exists_of_bind_eq_ok h
    obtain ⟨rest, hrest, h⟩ := exists_of_bind_eq_ok h
    cases h
    obtain ⟨hlies, hparent, hlast, hscopes⟩ := lies_of_convert o hnode
    obtain ⟨hrow, hothers⟩ := lies_of_convertAll os hrest
    refine ⟨hrow.cons hlies hparent hlast, ?_⟩
    intro s hs
    rw [Node.scopesOf, List.mem_append] at hs
    rcases hs with hs | hs
    · exact hscopes s hs
    · exact hothers s hs

end

/-- Every scope of a document that an outline describes lies as it should. -/
theorem lies_of_toDocument {os : List Outline} {d : Document} (h : toDocument source os = .ok d) :
    ∀ s ∈ d.root.walk, s.Lies source := by
  rw [toDocument] at h
  obtain ⟨nodes, hnodes, h⟩ := exists_of_bind_eq_ok h
  cases h
  obtain ⟨hrow, hscopes⟩ := lies_of_convertAll os hnodes
  intro s hs
  rcases List.mem_cons.mp hs with rfl | hs
  · exact ⟨by simp [Document.root], hrow.nodes, hrow.inside, hrow.ordered⟩
  · exact hscopes s hs

end Outline

/-- The helper answers the source with these outlines. -/
def Helper.Reports (h : Helper) (source : Text) (os : List Outline) : Prop :=
  h.isPresent = true ∧
    ∃ outcome, h.run source = .ok outcome ∧ Helper.report outcome = .ok (.tree os)

private theorem Helper.Reports.parseWith_eq {h : Helper} {source : Text} {os : List Outline}
    (hr : h.Reports source os) : Parser.parseWith h source =
      (Outline.toDocument source os).mapError fun flaw => .helper h.name (.outline flaw) := by
  obtain ⟨hpresent, outcome, hrun, hreport⟩ := hr
  simp [Parser.parseWith, hpresent, hrun, hreport]

/-- Whatever outlines a helper reports, all accesses of their conversion stay inside the source. It
fails, which is a failure of the helper, or it gives nodes that lie in the source as they should at
every level. -/
theorem Outline.conversion_safe (source : Text) (os : List Outline) :
    Settles (convertAllStrict source ⟨0, source.size⟩ 0 os)
      (convertAll source ⟨0, source.size⟩ 0 os) ∧
    ((∃ flaw, convertAll source ⟨0, source.size⟩ 0 os = .error flaw ∧
        ∀ h : Helper, h.Reports source os →
          Parser.parseWith h source = .error (.helper h.name (.outline flaw))) ∨
      ∃ nodes, convertAll source ⟨0, source.size⟩ 0 os = .ok nodes ∧
        (∀ s ∈ (Document.mk source nodes).root.walk, s.Lies source) ∧
        ∀ h : Helper, h.Reports source os → Parser.parseWith h source = .ok ⟨source, nodes⟩) := by
  refine ⟨settles_convertAllStrict source _ _ os, ?_⟩
  cases hnodes : convertAll source ⟨0, source.size⟩ 0 os with
  | error flaw =>
    refine .inl ⟨flaw, rfl, fun h hr => ?_⟩
    rw [hr.parseWith_eq, toDocument, hnodes]
    rfl
  | ok nodes =>
    have hdoc : toDocument source os = .ok ⟨source, nodes⟩ := by
      rw [toDocument, hnodes]
      rfl
    refine .inr ⟨nodes, rfl, lies_of_toDocument hdoc, fun h hr => ?_⟩
    rw [hr.parseWith_eq, hdoc]
    rfl

/-- A block behind a character of two bytes is converted; an offset inside that character is a
failure of the helper, and so is the largest one of 64 bits. -/
theorem Outline.conversion_safe_nested :
    (∃ nodes, convertAll "é\x7bb 1\x7d".toList ⟨0, 7⟩ 0
        [.block "é".toList 0 7 2 6 [.statement "b".toList 3 6]] = .ok nodes ∧
      ∀ s ∈ (Document.mk "é\x7bb 1\x7d".toList nodes).root.walk,
        s.Lies "é\x7bb 1\x7d".toList) ∧
    (∀ h : Helper, h.Reports "é".toList [.statement "é".toList 1 2] →
      Parser.parseWith h "é".toList = .error (.helper h.name (.outline (.badSpan 1 2)))) ∧
    (∃ h : Helper, h.Reports "é".toList [] ∧
      Parser.parseWith h "é".toList = .ok ⟨"é".toList, []⟩) ∧
    Settles (convertAllStrict "é".toList ⟨0, 2⟩ 0
      [.block [] 0 2 18446744073709551615 18446744073709551615 []]) (.error (.badBraces [])) := by
  have hblock : ∃ nodes, convertAll "é\x7bb 1\x7d".toList ⟨0, 7⟩ 0
      [.block "é".toList 0 7 2 6 [.statement "b".toList 3 6]] = .ok nodes := ⟨_, by cbv⟩
  have hinside : convertAll "é".toList ⟨0, 2⟩ 0 [.statement "é".toList 1 2] =
      .error (.badSpan 1 2) := by cbv
  have hempty : (Helper.constant [] 0 "\x7b\"children\":[]\x7d".toList []).Reports "é".toList [] :=
    ⟨rfl, _, rfl, by cbv⟩
  refine ⟨?_, ?_, ⟨_, hempty, ?_⟩, (conversion_safe "é".toList _).1⟩
  · obtain ⟨nodes, hnodes⟩ := hblock
    obtain ⟨flaw, hflaw, -⟩ | ⟨nodes', hnodes', hlies, -⟩ :=
      (conversion_safe "é\x7bb 1\x7d".toList _).2
    · cases hnodes.symm.trans hflaw
    · exact ⟨nodes', hnodes', hlies⟩
  · obtain ⟨flaw, hflaw, hfails⟩ | ⟨nodes, hnodes, -⟩ :=
      (conversion_safe "é".toList [.statement "é".toList 1 2]).2
    · cases hinside.symm.trans hflaw
      exact hfails
    · cases hinside.symm.trans hnodes
  · obtain ⟨flaw, hflaw, -⟩ | ⟨nodes, hnodes, -, hparse⟩ := (conversion_safe "é".toList []).2
    · cases hflaw
    · cases hnodes
      exact hparse _ hempty

end Graft
