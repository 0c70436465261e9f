import Graft.Proofs.Grammar.Unique
import Graft.Proofs.Lexeme
import Graft.Proofs.Text

/-!
# Layout

The tokens of a script lie end to end, and the derivation of its tree says to which part of the tree
each of them belongs. `Layout` puts the two together: it splits all the tokens, trivia included,
among the nodes and the fillers between them.
-/
namespace Graft.Token

/-! ## Tokens end to end -/

/-- The tokens lie end to end from `start` to `stop`. -/
def Tiles : Nat → List Token → Nat → Prop
  | start, [], stop => start = stop
  | start, t :: ts, stop => (t.start = start ∧ t.text ≠ []) ∧ Tiles t.stop ts stop

/-- The source has the text of the token where the token begins. -/
def StandsIn (source : Text) (t : Token) : Prop :=
  ∃ a b, source = a ++ (t.text ++ b) ∧ a.size = t.start

theorem tiles_append {xs ys : List Token} {p q : Nat} :
    Tiles p (xs ++ ys) q ↔ ∃ m, Tiles p xs m ∧ Tiles m ys q := by
  induction xs generalizing p with
  | nil => simp [Tiles]
  | cons x xs ih =>
    simp only [List.cons_append, Tiles, ih]
    constructor
    · rintro ⟨hx, m, hxs, hys⟩
      exact ⟨m, ⟨hx, hxs⟩, hys⟩
    · rintro ⟨m, ⟨hx, hxs⟩, hys⟩
      exact ⟨hx, m, hxs, hys⟩

theorem Tiles.le {ts : List Token} {p q : Nat} (h : Tiles p ts q) : p ≤ q := by
  induction ts generalizing p with
  | nil => exact Nat.le_of_eq h
  | cons t ts ih =>
    have hle := ih h.2
    have hstart := h.1.1
    rw [stop] at hle
    omega

theorem Tiles.bounds {ts : List Token} {p q : Nat} (h : Tiles p ts q) {t : Token} (ht : t ∈ ts) :
    p ≤ t.start ∧ t.start < t.stop ∧ t.stop ≤ q := by
  induction ts generalizing p with
  | nil => cases ht
  | cons u ts ih =>
    obtain ⟨⟨hstart, hne⟩, hts⟩ := h
    have hpos := Text.size_pos hne
    have hle := hts.le
    rw [stop] at hle
    cases ht with
    | head =>
      rw [stop]
      omega
    | tail _ ht =>
      have := ih hts ht
      rw [stop] at this
      omega

theorem tiles_place {ls : List Lexeme} (h : ∀ l ∈ ls, l.text ≠ []) (p : Nat) :
    Tiles p (place p ls) (p + (Lexeme.texts ls).size) := by
  induction ls generalizing p with
  | nil => rfl
  | cons l ls ih =>
    refine ⟨⟨rfl, h l (by simp)⟩, ?_⟩
    have hls := ih (fun k hk => h k (by simp [hk])) (p + l.text.size)
    rw [Lexeme.texts_cons, Text.size_append, ← Nat.add_assoc]
    exact hls

theorem start_of_mem_place {p : Nat} {ls : List Lexeme} {t : Token} (h : t ∈ place p ls) :
    p ≤ t.start := by
  induction ls generalizing p with
  | nil => cases h
  | cons l ls ih =>
    cases h with
    | head => exact Nat.le_refl p
    | tail _ h => exact Nat.le_trans (Nat.le_add_right _ _) (ih h)

theorem standsIn_place {ls : List Lexeme} {a b : Text} {t : Token} (ht : t ∈ place a.size ls) :
    StandsIn (a ++ (Lexeme.texts ls ++ b)) t := by
  induction ls generalizing a with
  | nil => cases ht
  | cons l ls ih =>
    rw [place] at ht
    cases ht with
    | head => exact ⟨a, Lexeme.texts ls ++ b, by simp, rfl⟩
    | tail _ ht =>
      rw [← Text.size_append] at ht
      simpa using ih ht

theorem Tiles.stop_eq {ts : List Token} {p q : Nat} (h : Tiles p ts q) :
    q = p + Text.size (ts.flatMap (·.text)) := by
  induction ts generalizing p with
  | nil => exact h.symm
  | cons t ts ih =>
    rw [List.flatMap_cons, Text.size_append, ih h.2, stop, h.1.1, Nat.add_assoc]

/-- The tokens that lie end to end from an offset are what the text there begins with. -/
theorem Tiles.text_eq {source : Text} {ts : List Token} {p q : Nat} (h : Tiles p ts q)
    (hin : ∀ t ∈ ts, StandsIn source t) {a c : Text} (hsource : source = a ++ c)
    (hp : a.size = p) : ∃ b, c = ts.flatMap (·.text) ++ b := by
  induction ts generalizing p a c with
  | nil => exact ⟨c, rfl⟩
  | cons t ts ih =>
    obtain ⟨⟨hstart, -⟩, hts⟩ := h
    obtain ⟨a', b', hsource', ha'⟩ := hin t (by simp)
    obtain ⟨rfl, hc⟩ := Text.append_inj_of_size (hsource.symm.trans hsource') (by omega)
    obtain ⟨b, hb⟩ := ih hts (fun u hu => hin u (by simp [hu]))
      (show source = (a ++ t.text) ++ b' by simp [hsource']) (by rw [Text.size_append, stop, ha'])
    exact ⟨b, by simp [hc, hb]⟩

theorem scan_eq_ok {source : Text} {tokens : List Token} (h : scan source = .ok tokens) :
    ∃ ls, Lexeme.ofSource source = .ok ls ∧ place 0 ls = tokens := by
  rw [scan] at h
  split at h
  case h_1 ls hls =>
    cases h
    exact ⟨ls, hls, rfl⟩
  case h_2 => cases h

end Graft.Token

namespace Graft.Grammar

open Token (Tiles significant)
open Graft.Tree (build build_eq_ok_iff isSymbol_iff tokens_ne_nil)

/-! ## All tokens of a derivation -/

/-- Trivia and separators make up the space between nodes. -/
def IsFiller (t : Token) : Prop := t.isTrivia ∨ IsSeparator t

/-- The tokens that a node keeps of a part of the source. -/
def kept (ts : List Token) : List Token := (significant ts).filter fun t => t.kind ≠ .newline

/-- The tokens `ts` lie end to end from `p` to `q`, and the nodes are made of them, each of the
tokens from where it begins to where it ends. -/
inductive Layout : Nat → List Token → Nat → List Node → Prop where
  | nil {p ts q} : Tiles p ts q → (∀ t ∈ ts, IsFiller t) → Layout p ts q []
  | statement {p front m name k args e rest q ns} :
      Tiles p front m → (∀ t ∈ front, IsFiller t) → Tiles m name k → name ≠ [] →
      Tiles k args e → Layout e rest q ns →
      Layout p (front ++ (name ++ (args ++ rest))) q
        (.statement (name.flatMap (·.text)) ⟨m, e⟩ (kept args) :: ns)
  | block {p front m name k header o inside c rest q cs ns} :
      Tiles p front m → (∀ t ∈ front, IsFiller t) → Tiles m name k → name ≠ [] →
      Tiles k header o.start → o.isSymbol '{' → c.isSymbol '}' →
      Layout o.stop inside c.start cs → Layout c.stop rest q ns →
      Layout p (front ++ (name ++ (header ++ o :: (inside ++ c :: rest)))) q
        (.block (name.flatMap (·.text)) ⟨m, c.stop⟩ (kept header) ⟨o.start, c.start⟩ cs :: ns)

private theorem Layout.prepend {p m q : Nat} {front ts : List Token} {ns : List Node}
    (hfront : Tiles p front m) (hfill : ∀ t ∈ front, IsFiller t) (h : Layout m ts q ns) :
    Layout p (front ++ ts) q ns := by
  have hall {xs : List Token} (hxs : ∀ t ∈ xs, IsFiller t) : ∀ t ∈ front ++ xs, IsFiller t := by
    intro t ht
    obtain ht | ht := List.mem_append.mp ht
    · exact hfill t ht
    · exact hxs t ht
  cases h with
  | nil hts hts' => exact .nil (Token.tiles_append.mpr ⟨m, hfront, hts⟩) (hall hts')
  | statement hf hf' hname hne hargs hrest =>
    rw [← List.append_assoc]
    exact .statement (Token.tiles_append.mpr ⟨m, hfront, hf⟩) (hall hf') hname hne hargs hrest
  | block hf hf' hname hne hheader ho hc hinside hrest =>
    rw [← List.append_assoc]
    exact .block (Token.tiles_append.mpr ⟨m, hfront, hf⟩) (hall hf') hname hne hheader ho hc hinside
      hrest

/-! ### Splitting tokens by the significant ones -/

theorem significant_append (xs ys : List Token) :
    significant (xs ++ ys) = significant xs ++ significant ys := by
  simp [significant]

private theorem isTrivia_of_significant_eq_nil {ts : List Token} (h : significant ts = []) :
    ∀ t ∈ ts, IsFiller t := by
  intro t ht
  have := List.filter_eq_nil_iff.mp h t ht
  exact .inl (by simpa using this)

private theorem significant_eq_cons {ts us : List Token} {t : Token}
    (h : significant ts = t :: us) :
    ∃ front rest, ts = front ++ t :: rest ∧ significant front = [] ∧ significant rest = us := by
  obtain ⟨front, rest, rfl, hfront, -, hrest⟩ := List.filter_eq_cons_iff.mp h
  exact ⟨front, rest, rfl, List.filter_eq_nil_iff.mpr hfront, hrest⟩

private theorem significant_eq_append {ts xs ys : List Token} (h : significant ts = xs ++ ys) :
    ∃ as bs, ts = as ++ bs ∧ significant as = xs ∧ significant bs = ys :=
  List.filter_eq_append_iff.mp h

/-- The first part can be chosen to end with its last significant token. -/
theorem significant_eq_append_last {ts xs ys : List Token} {x : Token}
    (h : significant ts = (xs ++ [x]) ++ ys) :
    ∃ as bs, ts = (as ++ [x]) ++ bs ∧ significant (as ++ [x]) = xs ++ [x] ∧
      significant bs = ys := by
  rw [List.append_assoc, List.singleton_append] at h
  obtain ⟨as, rest, rfl, has, hrest⟩ := significant_eq_append h
  obtain ⟨front, bs, rfl, hfront, hx, hbs⟩ := List.filter_eq_cons_iff.mp hrest
  have hf : significant front = [] := List.filter_eq_nil_iff.mpr hfront
  refine ⟨as ++ front, bs, by simp, ?_, hbs⟩
  have hx' : significant [x] = [x] := by
    simp only [significant, List.filter_cons, hx, if_true, List.filter_nil]
  rw [significant_append, significant_append, has, hf, hx', List.append_nil]

private theorem exists_linked_tiles {ps : List (Token × Token)} {stop q : Nat} {ts us : List Token}
    (hps : Name.Linked stop ps) (hts : Tiles stop ts q)
    (h : significant ts = (ps.flatMap fun p => [p.1, p.2]) ++ us) :
    ∃ rest, ts = (ps.flatMap fun p => [p.1, p.2]) ++ rest ∧ significant rest = us := by
  have hnext {t : Token} {stop : Nat} {ts us : List Token} (hts : Tiles stop ts q)
      (h : significant ts = t :: us) (ht : stop = t.start) :
      ∃ rest, ts = t :: rest ∧ significant rest = us := by
    obtain ⟨front, rest, rfl, -, hrest⟩ := significant_eq_cons h
    obtain ⟨m, hfront, hm⟩ := Token.tiles_append.mp hts
    cases front with
    | nil => exact ⟨rest, rfl, hrest⟩
    | cons f fs =>
      have hf := hfront.bounds (t := f) (by simp)
      have hstart := hm.1.1
      omega
  induction ps generalizing stop ts with
  | nil => exact ⟨ts, rfl, h⟩
  | cons p ps ih =>
    obtain ⟨⟨-, hstop⟩, ⟨-, htouch⟩, hlinked⟩ := hps
    obtain ⟨ts₁, rfl, h₁⟩ := hnext hts h hstop
    obtain ⟨ts₂, rfl, h₂⟩ := hnext hts.2 h₁ (by simpa [Token.touches] using htouch)
    obtain ⟨rest, rfl, hrest⟩ := ih hlinked hts.2.2 h₂
    exact ⟨rest, rfl, hrest⟩

/-! ### Layouts of derivations -/

private theorem Name.Valid.text_eq {n : Name} {following : List Token} (h : n.Valid following) :
    n.tokens.flatMap (·.text) = n.text := by
  have hrest {ps : List (Token × Token)} {stop : Nat} (hps : Name.Linked stop ps) :
      (ps.flatMap fun p => [p.1, p.2]).flatMap (·.text) = ps.flatMap fun p => '.' :: p.2.text := by
    induction ps generalizing stop with
    | nil => rfl
    | cons p ps ih =>
      obtain ⟨⟨hpoint, -⟩, -, hlinked⟩ := hps
      have htext : p.1.text = ['.'] := (isSymbol_iff.mp hpoint).2
      simp [htext, ih hlinked]
  simp [Name.tokens, Name.text, hrest h.linked]

private theorem exists_name_tiles {n : Name} {following ts us : List Token} {p q : Nat}
    (hn : n.Valid following) (hts : Tiles p ts q) (h : significant ts = n.tokens ++ us) :
    ∃ front rest k, ts = front ++ (n.tokens ++ rest) ∧ Tiles p front n.first.start ∧
      (∀ t ∈ front, IsFiller t) ∧ Tiles n.first.start n.tokens k ∧ Tiles k rest q ∧
      significant rest = us := by
  obtain ⟨front, ts', rfl, hfront, hts'⟩ := significant_eq_cons h
  obtain ⟨m, htiles, htail⟩ := Token.tiles_append.mp hts
  obtain rfl := htail.1.1
  obtain ⟨rest, rfl, hrest⟩ := exists_linked_tiles hn.linked htail.2 hts'
  have hname : Tiles n.first.start (n.tokens ++ rest) q := htail
  obtain ⟨k, hname, hrest'⟩ := Token.tiles_append.mp hname
  exact ⟨front, rest, k, rfl, htiles, isTrivia_of_significant_eq_nil hfront, hname, hrest', hrest⟩

/-- The tokens of a derivation, with all trivia put back, are laid out as its nodes. -/
theorem layout_of_valid {after : List Token} {b : Body} (hb : b.Valid after) {p q : Nat}
    {ts : List Token} (hts : Tiles p ts q) (h : significant ts = b.tokens) :
    Layout p ts q b.nodes := by
  induction hb generalizing p q ts with
  | nil => exact .nil hts (isTrivia_of_significant_eq_nil h)
  | @separator _ t _ ht _ ih =>
    obtain ⟨front, ts', rfl, hfront, hts'⟩ := significant_eq_cons h
    obtain ⟨m, htiles, htail⟩ := Token.tiles_append.mp hts
    rw [List.append_cons]
    refine Layout.prepend (m := t.stop) ?_ ?_ (ih htail.2 hts')
    · exact Token.tiles_append.mpr ⟨m, htiles, htail.1, rfl⟩
    · intro u hu
      obtain hu | hu := List.mem_append.mp hu
      · exact isTrivia_of_significant_eq_nil hfront u hu
      · obtain rfl := List.mem_singleton.mp hu
        exact .inr ht
  | @statement _ n args rest hn hne _ _ _ ih =>
    simp only [Body.tokens, List.append_assoc] at h
    obtain ⟨front, ts', k, rfl, hfront, hfill, hname, htail, hts'⟩ := exists_name_tiles hn hts h
    obtain ⟨xs, x, hxs⟩ : ∃ xs x, args.tokens = xs ++ [x] :=
      ⟨_, _, (List.dropLast_concat_getLast (tokens_ne_nil hne)).symm⟩
    rw [hxs] at hts'
    obtain ⟨as, bs, rfl, has, hbs⟩ := significant_eq_append_last hts'
    obtain ⟨e, hargs, hbs'⟩ := Token.tiles_append.mp htail
    obtain ⟨_, -, -, rfl⟩ := Token.tiles_append.mp hargs
    have hnodes : (Body.statement n args rest).nodes = .statement (n.tokens.flatMap (·.text))
        ⟨n.first.start, x.stop⟩ (kept (as ++ [x])) :: rest.nodes := by
      rw [Body.nodes, hn.text_eq, kept, has, Pieces.kept, hxs, List.getLast?_concat]
      rfl
    rw [hnodes]
    exact .statement hfront hfill hname (by simp [Name.tokens]) hargs (ih hbs' hbs)
  | @block _ n header breaks o inside c rest hn _ hbr _ ho _ _ ihi ihr =>
    simp only [Body.tokens, List.append_assoc, List.cons_append] at h
    obtain ⟨front, ts', k, rfl, hfront, hfill, hname, htail, hts'⟩ := exists_name_tiles hn hts h
    rw [← List.append_assoc] at hts'
    obtain ⟨hd, tl, rfl, hhd, htl⟩ := significant_eq_append hts'
    obtain ⟨gap, tl', rfl, hgap, htl'⟩ := significant_eq_cons htl
    obtain ⟨ins, tl'', rfl, hins, htl''⟩ := significant_eq_append htl'
    obtain ⟨gap', rest', rfl, hgap', hrest'⟩ := significant_eq_cons htl''
    obtain ⟨m, hheader, hopen⟩ := Token.tiles_append.mp (List.append_assoc hd gap _ ▸ htail)
    obtain rfl := hopen.1.1
    obtain ⟨m', hinside, hclose⟩ := Token.tiles_append.mp (List.append_assoc ins gap' _ ▸ hopen.2)
    obtain rfl := hclose.1.1
    have hsig : significant (ins ++ gap') = inside.tokens := by
      rw [significant_append, hins, hgap', List.append_nil]
    have hbreaks : breaks.filter (fun t => t.kind ≠ .newline) = [] := by
      simpa [List.filter_eq_nil_iff] using hbr
    have hkept : kept (hd ++ gap) = header.kept := by
      rw [kept, significant_append, hhd, hgap, List.append_nil, List.filter_append, hbreaks,
        List.append_nil, Pieces.kept]
    rw [Body.nodes, ← hn.text_eq, ← hkept]
    have := Layout.block hfront hfill hname (by simp [Name.tokens]) hheader ho.1 ho.2
      (ihi hinside hsig) (ihr hclose.2 hrest')
    simpa using this

/-- A script that parses has a derivation, which makes its tree. -/
theorem exists_derivation_of_parse {source : Text} {d : Document}
    (h : Document.parse source = .ok d) :
    ∃ (ls : List Lexeme) (b : Body), Lexeme.ofSource source = .ok ls ∧
      b.Derives (significant (Token.place 0 ls)) ∧ d = ⟨source, b.nodes⟩ := by
  cases hscan : Token.scan source with
  | error e =>
    rw [Document.parse, hscan] at h
    cases h
  | ok tokens =>
    rw [parse_of_scan hscan] at h
    cases hbuild : build (significant tokens) with
    | error f =>
      rw [hbuild] at h
      cases h
    | ok nodes =>
      rw [hbuild] at h
      cases h
      obtain ⟨b, hb, rfl⟩ := build_eq_ok_iff.mp hbuild
      obtain ⟨ls, hls, rfl⟩ := Token.scan_eq_ok hscan
      exact ⟨ls, b, hls, hb, rfl⟩

theorem parse_layout {source : Text} {d : Document} (h : Document.parse source = .ok d) :
    ∃ tokens, Token.scan source = .ok tokens ∧ d.source = source ∧
      Layout 0 tokens source.size d.nodes ∧ ∀ t ∈ tokens, t.StandsIn source := by
  obtain ⟨ls, b, hls, hb, rfl⟩ := exists_derivation_of_parse h
  obtain ⟨htexts, hne⟩ := Lexeme.ofSource_texts hls
  have htiles := Token.tiles_place hne 0
  rw [htexts, Nat.zero_add] at htiles
  refine ⟨_, by rw [Token.scan, hls], rfl, layout_of_valid hb.2 htiles hb.1.symm, ?_⟩
  intro t ht
  have := Token.standsIn_place (a := []) (b := []) ht
  simpa [htexts] using this

end Graft.Grammar

theorem Graft.Document.source_of_parse {source : Text} {d : Document}
    (h : Document.parse source = .ok d) : d.source = source := by
  obtain ⟨ls, b, -, -, rfl⟩ := Grammar.exists_derivation_of_parse h
  rfl
