import Graft.Proofs.Conversion
import Graft.Proofs.Lexeme.Frame
import Graft.Proofs.Reading

/-!
# The grammar of literals

What a literal is, byte by byte, and that the reader finds the end of exactly these. The reader goes
through characters with a stack of frames. A frame stands for what the grammar still asks for before
the frame is closed, so one character on the stack is one rule of the grammar.
-/
namespace Graft.Literal

/-! ## The grammar -/

def IsQuote (b : UInt8) : Prop := b = '\''.toUInt8 ∨ b = '"'.toUInt8

mutual

/-- The bytes are a literal and then `k`. Two more quotes behind the first make a delimiter of
three. -/
inductive Quoted : List UInt8 → List UInt8 → Prop where
  | single {q i k} : IsQuote q → ¬ [q, q] <+: i → Elements q false i k → Quoted (q :: i) k
  | triple {q i k} : IsQuote q → Elements q true i k → Quoted (q :: q :: q :: i) k

/-- The bytes are elements of a literal, its closing delimiter and then `k`. -/
inductive Elements : UInt8 → Bool → List UInt8 → List UInt8 → Prop where
  | close {q k} : Elements q false (q :: k) k
  | closeTriple {q k} : Elements q true (q :: q :: q :: k) k
  | escape {q triple b i k} : Elements q triple i k → Elements q triple ('\\'.toUInt8 :: b :: i) k
  | interpolation {triple i m k} : Interior i m → Elements '"'.toUInt8 triple m k →
      Elements '"'.toUInt8 triple ('$'.toUInt8 :: '{'.toUInt8 :: i) k
  | quote {q i k} : ¬ [q, q] <+: i → Elements q true i k → Elements q true (q :: i) k
  | byte {q triple b i k} : b ≠ q → b ≠ '\\'.toUInt8 → (triple = false → b ≠ '\n'.toUInt8) →
      ¬ (q = '"'.toUInt8 ∧ b = '$'.toUInt8 ∧ ['{'.toUInt8] <+: i) → Elements q triple i k →
      Elements q triple (b :: i) k

/-- The bytes are the inside of an interpolation, its closing brace and then `k`. -/
inductive Interior : List UInt8 → List UInt8 → Prop where
  | close {k} : Interior ('}'.toUInt8 :: k) k
  | braces {i m k} : Interior i m → Interior m k → Interior ('{'.toUInt8 :: i) k
  | literal {i m k} : Quoted i m → Interior m k → Interior i k
  | byte {b i k} : b ≠ '{'.toUInt8 → b ≠ '}'.toUInt8 → ¬ IsQuote b → Interior i k →
      Interior (b :: i) k

end

/-- The bytes of the source from `start` up to `stop` are a literal. -/
def IsLiteral (source : Text) (start stop : Nat) : Prop :=
  stop ≤ source.size ∧ Quoted (source.bytes.drop start) (source.bytes.drop stop)

/-! ## The first byte -/

private theorem IsQuote.ne {b : UInt8} (h : IsQuote b) : b ≠ '\\'.toUInt8 ∧ b ≠ '\n'.toUInt8 ∧
    b ≠ '$'.toUInt8 ∧ b ≠ '{'.toUInt8 ∧ b ≠ '}'.toUInt8 := by
  obtain rfl | rfl := h <;> decide

section Bytes

variable {q b : UInt8} {triple : Bool} {i k : List UInt8}

private theorem not_elements_nil : ¬ Elements q triple [] k := by
  intro h
  cases h

private theorem not_interior_nil : ¬ Interior [] k := by
  intro h
  cases h with
  | literal hq _ => cases hq

private theorem elements_escape_iff (hq : IsQuote q) :
    Elements q triple ('\\'.toUInt8 :: i) k ↔ ∃ b j, i = b :: j ∧ Elements q triple j k := by
  constructor
  · intro h
    cases h with
    | close | closeTriple | quote _ _ => exact absurd rfl hq.ne.1
    | byte _ hesc _ _ _ => exact absurd rfl hesc
    | escape h => exact ⟨_, _, rfl, h⟩
  · rintro ⟨b, j, rfl, h⟩
    exact .escape h

private theorem not_elements_newline (hq : IsQuote q) :
    ¬ Elements q false ('\n'.toUInt8 :: i) k := by
  intro h
  cases h with
  | close => exact absurd rfl hq.ne.2.1
  | byte _ _ hline _ _ => exact absurd rfl (hline rfl)

private theorem elements_close_iff (hq : IsQuote q) : Elements q false (q :: i) k ↔ i = k := by
  constructor
  · intro h
    cases h with
    | close => rfl
    | escape _ => exact absurd rfl hq.ne.1
    | byte hne _ _ _ _ => exact absurd rfl hne
  · rintro rfl
    exact .close

private theorem elements_closeTriple_iff (hq : IsQuote q) :
    Elements q true (q :: q :: q :: i) k ↔ i = k := by
  constructor
  · intro h
    cases h with
    | closeTriple => rfl
    | escape _ => exact absurd rfl hq.ne.1
    | quote hne _ => exact absurd (List.prefix_append [q, q] i) hne
    | byte hne _ _ _ _ => exact absurd rfl hne
  · rintro rfl
    exact .closeTriple

private theorem elements_quote_iff (hq : IsQuote q) (hi : ¬ [q, q] <+: i) :
    Elements q true (q :: i) k ↔ Elements q true i k := by
  constructor
  · intro h
    cases h with
    | closeTriple => exact absurd (List.prefix_append [q, q] k) hi
    | escape _ => exact absurd rfl hq.ne.1
    | quote _ h => exact h
    | byte hne _ _ _ _ => exact absurd rfl hne
  · exact .quote hi

private theorem elements_interpolation_iff :
    Elements '"'.toUInt8 triple ('$'.toUInt8 :: '{'.toUInt8 :: i) k ↔
      ∃ m, Interior i m ∧ Elements '"'.toUInt8 triple m k := by
  constructor
  · intro h
    cases h with
    | interpolation hm h => exact ⟨_, hm, h⟩
    | byte _ _ _ hopen _ => exact absurd ⟨rfl, rfl, List.prefix_append _ i⟩ hopen
  · rintro ⟨m, hm, h⟩
    exact .interpolation hm h

private theorem elements_byte_iff (hb : b ≠ q) (hesc : b ≠ '\\'.toUInt8)
    (hline : triple = false → b ≠ '\n'.toUInt8)
    (hopen : ¬ (q = '"'.toUInt8 ∧ b = '$'.toUInt8 ∧ ['{'.toUInt8] <+: i)) :
    Elements q triple (b :: i) k ↔ Elements q triple i k := by
  constructor
  · intro h
    cases h with
    | close | closeTriple | quote _ _ => exact absurd rfl hb
    | escape _ => exact absurd rfl hesc
    | interpolation _ _ => exact absurd ⟨rfl, rfl, List.prefix_append _ _⟩ hopen
    | byte _ _ _ _ h => exact h
  · exact .byte hb hesc hline hopen

private theorem quoted_single_iff (hq : IsQuote q) (hi : ¬ [q, q] <+: i) :
    Quoted (q :: i) k ↔ Elements q false i k := by
  constructor
  · intro h
    cases h with
    | single _ _ h => exact h
    | triple _ _ => exact absurd (List.prefix_append [q, q] _) hi
  · exact .single hq hi

private theorem quoted_triple_iff (hq : IsQuote q) :
    Quoted (q :: q :: q :: i) k ↔ Elements q true i k := by
  constructor
  · intro h
    cases h with
    | single _ hi _ => exact absurd (List.prefix_append [q, q] i) hi
    | triple _ h => exact h
  · exact .triple hq

private theorem isQuote_of_quoted (h : Quoted (b :: i) k) : IsQuote b := by
  cases h with
  | single hq _ _ | triple hq _ => exact hq

private theorem interior_close_iff : Interior ('}'.toUInt8 :: i) k ↔ i = k := by
  constructor
  · intro h
    cases h with
    | close => rfl
    | literal hq _ => exact absurd rfl (isQuote_of_quoted hq).ne.2.2.2.2
    | byte _ hclose _ _ => exact absurd rfl hclose
  · rintro rfl
    exact .close

private theorem interior_open_iff :
    Interior ('{'.toUInt8 :: i) k ↔ ∃ m, Interior i m ∧ Interior m k := by
  constructor
  · intro h
    cases h with
    | braces hm h => exact ⟨_, hm, h⟩
    | literal hq _ => exact absurd rfl (isQuote_of_quoted hq).ne.2.2.2.1
    | byte hopen _ _ _ => exact absurd rfl hopen
  · rintro ⟨m, hm, h⟩
    exact .braces hm h

private theorem interior_quote_iff (hb : IsQuote b) :
    Interior (b :: i) k ↔ ∃ m, Quoted (b :: i) m ∧ Interior m k := by
  constructor
  · intro h
    cases h with
    | close => exact absurd rfl hb.ne.2.2.2.2
    | braces _ _ => exact absurd rfl hb.ne.2.2.2.1
    | literal hm h => exact ⟨_, hm, h⟩
    | byte _ _ hne _ => exact absurd hb hne
  · rintro ⟨m, hm, h⟩
    exact .literal hm h

private theorem interior_byte_iff (hopen : b ≠ '{'.toUInt8) (hclose : b ≠ '}'.toUInt8)
    (hb : ¬ IsQuote b) : Interior (b :: i) k ↔ Interior i k := by
  constructor
  · intro h
    cases h with
    | close => exact absurd rfl hclose
    | braces _ _ => exact absurd rfl hopen
    | literal hq _ => exact absurd (isQuote_of_quoted hq) hb
    | byte _ _ _ h => exact h
  · exact .byte hopen hclose hb

/-! ## Bytes of larger characters -/

private theorem ne_of_high {c : Char} (hb : 128 ≤ b.toNat) (hc : c.toUInt8.toNat < 128) :
    b ≠ c.toUInt8 := by
  rintro rfl
  omega

private theorem IsQuote.lt (h : IsQuote b) : b.toNat < 128 := by
  obtain rfl | rfl := h <;> decide

private theorem elements_high_iff {w : List UInt8} (hq : IsQuote q) (hw : ∀ b ∈ w, 128 ≤ b.toNat) :
    Elements q triple (w ++ i) k ↔ Elements q triple i k := by
  induction w with
  | nil => rfl
  | cons b w ih =>
    have hb : 128 ≤ b.toNat := hw b List.mem_cons_self
    have hne : b ≠ q := by
      rintro rfl
      have := hq.lt
      omega
    rw [List.cons_append, elements_byte_iff hne (ne_of_high hb (by decide))
      (fun _ => ne_of_high hb (by decide)) fun h => ne_of_high hb (by decide) h.2.1,
      ih fun d hd => hw d (List.mem_cons_of_mem _ hd)]

private theorem interior_high_iff {w : List UInt8} (hw : ∀ b ∈ w, 128 ≤ b.toNat) :
    Interior (w ++ i) k ↔ Interior i k := by
  induction w with
  | nil => rfl
  | cons b w ih =>
    have hb : 128 ≤ b.toNat := hw b List.mem_cons_self
    have hne : ¬ IsQuote b := by
      intro h
      have := h.lt
      omega
    rw [List.cons_append, interior_byte_iff (ne_of_high hb (by decide))
      (ne_of_high hb (by decide)) hne, ih fun d hd => hw d (List.mem_cons_of_mem _ hd)]

end Bytes

/-! ## The first character -/

private theorem bytes_ascii {c : Char} (hc : c.utf8Size = 1) (r : Text) :
    Text.bytes (c :: r) = c.toUInt8 :: Text.bytes r := by
  rw [Text.bytes_cons, String.utf8EncodeChar_eq_singleton hc]
  rfl

private theorem toUInt8_inj {c d : Char} (hc : c.utf8Size = 1) (hd : d.utf8Size = 1)
    (h : c.toUInt8 = d.toUInt8) : c = d := by
  have hval : c.val.toNat = d.val.toNat := by
    rw [← (Text.toNat_toUInt8_of_ascii hc).1, ← (Text.toNat_toUInt8_of_ascii hd).1, h]
  exact Char.ext (UInt32.toNat_inj.mp hval)

private theorem ascii_of_isQuote {q : Char} (hq : isQuote q = true) : q.utf8Size = 1 := by
  obtain rfl | rfl := isQuote_iff.mp hq <;> decide

private theorem isQuote_toUInt8_iff {c : Char} (hc : c.utf8Size = 1) :
    IsQuote c.toUInt8 ↔ isQuote c = true := by
  rw [isQuote_iff]
  constructor
  · rintro (h | h)
    · exact .inl (toUInt8_inj hc (by decide) h)
    · exact .inr (toUInt8_inj hc (by decide) h)
  · rintro (rfl | rfl)
    · exact .inl rfl
    · exact .inr rfl

private theorem isQuote_toUInt8 {q : Char} (hq : isQuote q = true) : IsQuote q.toUInt8 :=
  (isQuote_toUInt8_iff (ascii_of_isQuote hq)).mpr hq

private theorem bytes_eq_cons_iff {d : Char} (hd : d.utf8Size = 1) {r : Text} {i : List UInt8} :
    d.toUInt8 :: i = r.bytes ↔ ∃ s, r = d :: s ∧ i = Text.bytes s := by
  constructor
  · intro h
    cases r with
    | nil => cases h
    | cons c s =>
      by_cases hc : c.utf8Size = 1
      · rw [bytes_ascii hc, List.cons.injEq] at h
        exact ⟨s, by rw [toUInt8_inj hd hc h.1], h.2⟩
      · have hmem : d.toUInt8 ∈ String.utf8EncodeChar c := by
          rw [Text.bytes_cons] at h
          cases hw : String.utf8EncodeChar c with
          | nil => simp at hw
          | cons b w =>
            rw [hw, List.cons_append, List.cons.injEq] at h
            exact h.1 ▸ List.mem_cons_self
        have := Text.le_of_mem_utf8EncodeChar hmem hc
        have := Text.toNat_toUInt8_of_ascii hd
        omega
  · rintro ⟨s, rfl, rfl⟩
    rw [bytes_ascii hd]

private theorem byte_prefix_iff {d : Char} (hd : d.utf8Size = 1) {r : Text} :
    [d.toUInt8] <+: r.bytes ↔ r.head? = some d := by
  rw [List.head?_eq_some_iff]
  constructor
  · rintro ⟨i, h⟩
    obtain ⟨s, rfl, -⟩ := (bytes_eq_cons_iff hd).mp h
    exact ⟨s, rfl⟩
  · rintro ⟨s, rfl⟩
    exact ⟨Text.bytes s, (bytes_ascii hd s).symm⟩

private theorem quotes_prefix_iff {q : Char} (hq : q.utf8Size = 1) {r : Text} :
    [q.toUInt8, q.toUInt8] <+: r.bytes ↔ isTripled q r = true := by
  rw [isTripled_iff]
  constructor
  · rintro ⟨i, h⟩
    obtain ⟨s, rfl, hs⟩ := (bytes_eq_cons_iff hq).mp h
    obtain ⟨s, rfl, -⟩ := (bytes_eq_cons_iff hq).mp hs
    exact ⟨s, rfl⟩
  · rintro ⟨s, rfl⟩
    rw [bytes_ascii hq, bytes_ascii hq]
    exact List.prefix_append _ _

section Characters

variable {q c : Char} {triple : Bool} {r : Text} {k : List UInt8}

/-- An escape skips a character whole, though it asks for one byte only. -/
theorem elements_escaped_iff (hq : isQuote q = true) :
    Elements q.toUInt8 triple (Text.bytes ('\\' :: r)) k ↔
      Elements q.toUInt8 triple (Text.bytes (r.drop 1)) k := by
  have hq' := isQuote_toUInt8 hq
  rw [bytes_ascii (by decide), elements_escape_iff hq']
  cases r with
  | nil =>
    constructor
    · rintro ⟨b, j, h, -⟩
      cases h
    · exact fun h => absurd h not_elements_nil
  | cons d r =>
    cases hw : String.utf8EncodeChar d with
    | nil => simp at hw
    | cons b w =>
      have hhigh : ∀ b ∈ w, 128 ≤ b.toNat := by
        intro b' hb'
        refine Text.le_of_mem_utf8EncodeChar (hw ▸ List.mem_cons_of_mem _ hb') fun hd => ?_
        rw [String.utf8EncodeChar_eq_singleton hd, List.cons.injEq] at hw
        rw [← hw.2] at hb'
        cases hb'
      simp only [Text.bytes_cons, hw, List.cons_append, List.cons.injEq, List.drop_succ_cons,
        List.drop_zero]
      rw [← elements_high_iff hq' hhigh]
      constructor
      · rintro ⟨b, j, ⟨rfl, rfl⟩, h⟩
        exact h
      · exact fun h => ⟨b, _, ⟨rfl, rfl⟩, h⟩

private theorem elements_character_iff (hq : isQuote q = true) (hesc : c ≠ '\\')
    (hline : triple = false → c ≠ '\n') (hc : c ≠ q)
    (hopen : ¬ (q = '"' ∧ c = '$' ∧ r.head? = some '{')) :
    Elements q.toUInt8 triple (Text.bytes (c :: r)) k ↔
      Elements q.toUInt8 triple (Text.bytes r) k := by
  by_cases hsize : c.utf8Size = 1
  · have hne {d : Char} (hd : d.utf8Size = 1) (h : c ≠ d) : c.toUInt8 ≠ d.toUInt8 :=
      fun he => h (toUInt8_inj hsize hd he)
    have hq1 := ascii_of_isQuote hq
    rw [bytes_ascii hsize]
    refine elements_byte_iff (hne hq1 hc) (hne (by decide) hesc)
      (fun ht => hne (by decide) (hline ht)) ?_
    rintro ⟨hquote, hdollar, hbrace⟩
    exact hopen ⟨toUInt8_inj hq1 (by decide) hquote, toUInt8_inj hsize (by decide) hdollar,
      (byte_prefix_iff (by decide)).mp hbrace⟩
  · rw [Text.bytes_cons]
    exact elements_high_iff (isQuote_toUInt8 hq)
      fun b hb => Text.le_of_mem_utf8EncodeChar hb hsize

private theorem interior_character_iff (hopen : c ≠ '{') (hclose : c ≠ '}')
    (hc : isQuote c = false) : Interior (Text.bytes (c :: r)) k ↔ Interior (Text.bytes r) k := by
  by_cases hsize : c.utf8Size = 1
  · have hne {d : Char} (hd : d.utf8Size = 1) (h : c ≠ d) : c.toUInt8 ≠ d.toUInt8 :=
      fun he => h (toUInt8_inj hsize hd he)
    rw [bytes_ascii hsize]
    refine interior_byte_iff (hne (by decide) hopen) (hne (by decide) hclose) ?_
    rw [isQuote_toUInt8_iff hsize, hc]
    exact Bool.false_ne_true
  · rw [Text.bytes_cons]
    exact interior_high_iff fun b hb => Text.le_of_mem_utf8EncodeChar hb hsize

private theorem quoted_bytes_single_iff (hq : isQuote q = true) (ht : isTripled q r = false) :
    Quoted (Text.bytes (q :: r)) k ↔ Elements q.toUInt8 false (Text.bytes r) k := by
  have hq1 := ascii_of_isQuote hq
  rw [bytes_ascii hq1, quoted_single_iff (isQuote_toUInt8 hq)]
  rw [quotes_prefix_iff hq1, ht]
  exact Bool.false_ne_true

private theorem quoted_bytes_triple_iff (hq : isQuote q = true) (ht : isTripled q r = true) :
    Quoted (Text.bytes (q :: r)) k ↔ Elements q.toUInt8 true (Text.bytes (r.drop 2)) k := by
  have hq1 := ascii_of_isQuote hq
  obtain ⟨s, rfl⟩ := isTripled_iff.mp ht
  rw [bytes_ascii hq1, bytes_ascii hq1, bytes_ascii hq1, quoted_triple_iff (isQuote_toUInt8 hq)]
  rfl

end Characters

/-! ## Frames -/

/-- The bytes are what the grammar asks for up to the end of the frame, and then `k`. -/
def Frame.Rest : Frame → List UInt8 → List UInt8 → Prop
  | .quoted q triple _ => Elements q.toUInt8 triple
  | .hole _ => Interior

/-- The bytes complete the frames, from the innermost to the outermost, and then `k` follows. -/
def Completes : List Frame → List UInt8 → List UInt8 → Prop
  | [], i, k => i = k
  | f :: fs, i, k => ∃ m, f.Rest i m ∧ Completes fs m k

/-- The text completes what a move leaves open, and then `k` follows. -/
def Move.Completes (r : Text) (k : List UInt8) : Move → Prop
  | .fail _ => False
  | .close more => Text.bytes (r.drop more) = k
  | .next skip top below => Literal.Completes (top :: below) (Text.bytes (r.drop skip)) k

private theorem completes_leave {more : Nat} {fs : List Frame} {r : Text} {k : List UInt8} :
    (leave more fs).Completes r k ↔ Completes fs (Text.bytes (r.drop more)) k := by
  cases fs <;> rfl

private theorem Frame.not_rest_nil (f : Frame) (k : List UInt8) : ¬ f.Rest [] k := by
  cases f with
  | quoted q triple o => exact not_elements_nil
  | hole o => exact not_interior_nil

/-- A frame is left for one inside it and entered again. -/
theorem completes_push {f g : Frame} {fs : List Frame} {i j k : List UInt8}
    (h : ∀ m, f.Rest i m ↔ ∃ l, g.Rest j l ∧ f.Rest l m) :
    Completes (f :: fs) i k ↔ Completes (g :: f :: fs) j k := by
  simp only [Completes, h]
  constructor
  · rintro ⟨m, ⟨l, hl, hm⟩, hk⟩
    exact ⟨l, hl, m, hm, hk⟩
  · rintro ⟨l, hl, m, hm, hk⟩
    exact ⟨m, ⟨l, hl, hm⟩, hk⟩

/-- One rule of the reader is one rule of the grammar. -/
theorem Turn.completes_iff {f : Frame} {fs : List Frame} {c : Char} {r : Text} {m : Move}
    (h : Turn fs c r f m) (hf : f.Proper) (k : List UInt8) :
    Completes (f :: fs) (Text.bytes (c :: r)) k ↔ m.Completes r k := by
  cases h with
  | escape hc =>
    subst hc
    simp only [Completes, Frame.Rest, Move.Completes, elements_escaped_iff hf]
  | broken hc =>
    subst hc
    simp only [Completes, Frame.Rest, Move.Completes, iff_false, not_exists, not_and]
    intro m hm
    rw [bytes_ascii (by decide)] at hm
    exact absurd hm (not_elements_newline (isQuote_toUInt8 hf))
  | single hc _ _ =>
    subst hc
    rw [completes_leave, bytes_ascii (ascii_of_isQuote hf)]
    simp only [Completes, Frame.Rest, elements_close_iff (isQuote_toUInt8 hf), exists_eq_left',
      List.drop_zero]
  | triple hc _ ht =>
    subst hc
    obtain ⟨s, rfl⟩ := isTripled_iff.mp ht
    have hc := ascii_of_isQuote hf
    rw [completes_leave, bytes_ascii hc, bytes_ascii hc, bytes_ascii hc]
    simp only [Completes, Frame.Rest, elements_closeTriple_iff (isQuote_toUInt8 hf),
      exists_eq_left', List.drop_succ_cons, List.drop_zero]
  | quote hc _ ht =>
    subst hc
    have hc := ascii_of_isQuote hf
    have hnot : ¬ [c.toUInt8, c.toUInt8] <+: r.bytes := by
      rw [quotes_prefix_iff hc, ht]
      exact Bool.false_ne_true
    rw [bytes_ascii hc]
    simp only [Completes, Frame.Rest, Move.Completes, elements_quote_iff (isQuote_toUInt8 hf) hnot,
      List.drop_zero]
  | interpolation hc hr =>
    subst hc
    obtain ⟨s, rfl⟩ := List.head?_eq_some_iff.mp hr
    rw [bytes_ascii (by decide), bytes_ascii (by decide)]
    exact completes_push fun m => elements_interpolation_iff
  | character hesc hline hc hopen =>
    simp only [Completes, Frame.Rest, Move.Completes,
      elements_character_iff hf hesc hline hc hopen, List.drop_zero]
  | opening hc =>
    subst hc
    rw [bytes_ascii (by decide)]
    exact completes_push fun m => interior_open_iff
  | closing hc =>
    subst hc
    rw [completes_leave, bytes_ascii (by decide)]
    simp only [Completes, Frame.Rest, interior_close_iff, exists_eq_left', List.drop_zero]
  | literal hc ht =>
    refine completes_push fun m => ?_
    simp only [Frame.Rest, List.drop_zero, ← quoted_bytes_single_iff hc ht,
      bytes_ascii (ascii_of_isQuote hc)]
    exact interior_quote_iff (isQuote_toUInt8 hc)
  | tripled hc ht =>
    refine completes_push fun m => ?_
    simp only [Frame.Rest, ← quoted_bytes_triple_iff hc ht, bytes_ascii (ascii_of_isQuote hc)]
    exact interior_quote_iff (isQuote_toUInt8 hc)
  | other hopen hclose hc =>
    simp only [Completes, Frame.Rest, Move.Completes, interior_character_iff hopen hclose hc,
      List.drop_zero]

/-! ## Whole literals -/

private theorem ends_map_succ_iff {x : Except Fault Nat} {c : Char} {r : Text} {k : List UInt8} :
    (∃ n, x.map (· + 1) = .ok n ∧ Text.bytes ((c :: r).drop n) = k) ↔
      ∃ n, x = .ok n ∧ Text.bytes (r.drop n) = k := by
  cases x <;> simp [Except.map]

private theorem closing_iff {f : Frame} {fs : List Frame} {t : Text} {skip : Nat}
    (hfs : ∀ g ∈ f :: fs, g.Proper) (k : List UInt8) :
    (∃ n, closing skip f fs t = .ok n ∧ Text.bytes (t.drop n) = k) ↔
      Completes (f :: fs) (Text.bytes (t.drop skip)) k := by
  induction t generalizing skip f fs with
  | nil =>
    rw [List.drop_nil]
    constructor
    · rintro ⟨n, h, -⟩
      cases h
    · rintro ⟨m, hm, -⟩
      exact absurd hm (f.not_rest_nil m)
  | cons c r ih =>
    cases skip with
    | succ skip =>
      rw [List.drop_succ_cons, ← ih hfs, closing, ends_map_succ_iff]
    | zero =>
      have hturn := turn_move f fs c r
      rw [List.drop_zero, hturn.completes_iff (hfs f List.mem_cons_self), closing]
      cases hmove : move f fs c r with
      | fail e => simp [Move.Completes]
      | close more => simp [Move.Completes]
      | next skip g gs =>
        rw [Move.Completes, ← ih (hturn.proper hmove hfs), ends_map_succ_iff]

private theorem extent_iff {q : Char} {r : Text} (hq : isQuote q = true) (k : List UInt8) :
    (∃ n, extent q r = .ok n ∧ Text.bytes (r.drop n) = k) ↔ Quoted (Text.bytes (q :: r)) k := by
  have hproper {triple : Bool} : ∀ g ∈ [Frame.quoted q triple (q :: r)], g.Proper := by
    intro g hg
    obtain rfl := List.mem_singleton.mp hg
    exact hq
  rw [extent]
  cases ht : isTripled q r with
  | false =>
    rw [if_neg Bool.false_ne_true, closing_iff hproper, quoted_bytes_single_iff hq ht]
    simp [Completes, Frame.Rest]
  | true =>
    rw [if_pos rfl, closing_iff hproper, quoted_bytes_triple_iff hq ht]
    simp [Completes, Frame.Rest]

/-! ## Literals in a source -/

/-- Where the literal whose quote is at `start` stops. -/
def stopAt (source : Text) (start : Nat) : Except LexError Nat :=
  match source.dropBytes start with
  | [] => .error (.ofFault source ⟨.string, []⟩)
  | q :: r =>
    match extent q r with
    | .ok n => .ok (start + Text.size (q :: r.take n))
    | .error fault => .error (.ofFault source fault)

private theorem exists_quote {source : Text} {start : Nat} {b : UInt8}
    (hb : source.byteAt? start = some b) (hq : IsQuote b) :
    ∃ (a : Text) (q : Char) (r : Text),
      source = a ++ q :: r ∧ a.size = start ∧ isQuote q = true := by
  have hchar {q : Char} (hbq : b = q.toUInt8) (hquote : isQuote q = true) :
      ∃ (a : Text) (q : Char) (r : Text),
        source = a ++ q :: r ∧ a.size = start ∧ isQuote q = true := by
    rw [hbq, Text.byteAt?_eq_some_iff (ascii_of_isQuote hquote)] at hb
    obtain ⟨a, r, rfl, ha, -⟩ := Text.asciiAt?_eq_some_iff.mp hb
    exact ⟨a, q, r, rfl, ha, hquote⟩
  obtain hbq | hbq := hq
  · exact hchar hbq (by decide)
  · exact hchar hbq (by decide)

section Source

variable {a r : Text} {q : Char}

private theorem stopAt_append (a r : Text) (q : Char) : stopAt (a ++ q :: r) a.size =
    match extent q r with
    | .ok n => .ok (Text.size (a ++ q :: r.take n))
    | .error fault => .error (.ofFault (a ++ q :: r) fault) := by
  rw [stopAt, Text.dropBytes_size_append]
  simp only [Text.size_append]

private theorem stopAt_eq_ok_iff {stop : Nat} : stopAt (a ++ q :: r) a.size = .ok stop ↔
    ∃ n, extent q r = .ok n ∧ stop = Text.size (a ++ q :: r.take n) := by
  rw [stopAt_append]
  cases extent q r <;> simp [eq_comm]

private theorem drop_bytes (a b : Text) : (Text.bytes (a ++ b)).drop a.size = b.bytes := by
  rw [Text.bytes_append, ← Text.length_bytes, List.drop_left]

private theorem append_take_drop (a r : Text) (q : Char) (n : Nat) :
    a ++ q :: r = (a ++ q :: r.take n) ++ r.drop n := by
  simp

private theorem isLiteral_iff (hq : isQuote q = true) {stop : Nat} :
    IsLiteral (a ++ q :: r) a.size stop ↔
      ∃ n, extent q r = .ok n ∧ stop = Text.size (a ++ q :: r.take n) := by
  rw [IsLiteral, drop_bytes, ← extent_iff hq]
  constructor
  · rintro ⟨hle, n, hn, hrest⟩
    refine ⟨n, hn, ?_⟩
    -- what is left behind the literal has the right length at one offset only
    have hlength := congrArg List.length hrest
    have hsize := congrArg Text.size (append_take_drop a r q n)
    rw [Text.length_bytes, List.length_drop, Text.length_bytes] at hlength
    rw [Text.size_append _ (r.drop n)] at hsize
    omega
  · rintro ⟨n, hn, rfl⟩
    have hcut := append_take_drop a r q n
    refine ⟨?_, n, hn, ?_⟩
    · rw [hcut, Text.size_append _ (r.drop n)]
      omega
    · rw [hcut, drop_bytes]

private theorem stopAt_of_scan {source : Text} {ts : List Token} {t : Token}
    (h : Token.scan source = .ok ts) (ht : t ∈ ts) (hk : t.kind = .string) :
    stopAt source t.start = .ok t.stop := by
  obtain ⟨ls, hls, rfl⟩ := Token.scan_eq_ok h
  obtain ⟨rfl, hbegins⟩ := Lexeme.ofSource_eq_ok_iff.mp hls
  have hmem : t ∈ Token.significant (Token.place 0 ls) := by
    simp [Token.significant, Token.isTrivia, hk, ht, Token.Kind.isTrivia]
  obtain ⟨xs, ys, hsplit⟩ := List.append_of_mem hmem
  obtain ⟨ks, ms, rfl, hstart, -, -⟩ := Lexeme.exists_split hsplit
  obtain ⟨-, hstands, -⟩ := hbegins.split (by simp [hk])
  obtain ⟨q, w, htext, hext⟩ := hstands
  rw [List.append_nil, hk] at hext
  cases Lexeme.rule_of_extent hext with
  | string _ hn =>
    rw [Lexeme.texts_append, Lexeme.texts_cons, htext, hstart, Nat.zero_add, List.cons_append,
      stopAt_eq_ok_iff]
    exact ⟨_, hn, by simp [Token.stop, hstart, htext]⟩

end Source

/-- Literals are recognised exactly. At a quote the reader stops where a literal of the grammar
does, which is one place at most, and reports a defect where there is none. -/
theorem stopAt_exact {source : Text} {start : Nat} {b : UInt8}
    (hb : source.byteAt? start = some b) (hq : IsQuote b) :
    (∀ stop, stopAt source start = .ok stop ↔ IsLiteral source start stop) ∧
    (∀ stop stop', IsLiteral source start stop → IsLiteral source start stop' → stop = stop') ∧
    ((∀ stop, ¬ IsLiteral source start stop) → ∃ e, stopAt source start = .error e ∧
      (e.defect = .string ∨ e.defect = .interpolation)) ∧
    (∀ stop, stopAt source start = .ok stop →
      start < stop ∧ stop ≤ source.size ∧ source.isBoundary stop = true) ∧
    ∀ ts, Token.scan source = .ok ts → ∀ t ∈ ts, t.start = start → t.kind = .string →
      stopAt source start = .ok t.stop := by
  obtain ⟨a, q, r, rfl, rfl, hquote⟩ := exists_quote hb hq
  have hiff (stop : Nat) : stopAt (a ++ q :: r) (Text.size a) = .ok stop ↔
      IsLiteral (a ++ q :: r) (Text.size a) stop := by
    rw [stopAt_eq_ok_iff, isLiteral_iff hquote]
  refine ⟨hiff, ?_, ?_, ?_, ?_⟩
  · intro stop stop' h h'
    rw [← hiff] at h h'
    exact Except.ok.inj (h.symm.trans h')
  · intro hnone
    rw [stopAt_append]
    cases hext : extent q r with
    | ok n => exact absurd ((isLiteral_iff hquote).mpr ⟨n, hext, rfl⟩) (hnone _)
    | error e =>
      obtain ⟨g, rfl, -⟩ := extent_fault hext
      refine ⟨_, rfl, ?_⟩
      cases g with
      | quoted _ _ _ => exact .inl rfl
      | hole _ => exact .inr rfl
  · intro stop h
    obtain ⟨n, -, rfl⟩ := stopAt_eq_ok_iff.mp h
    have hcut := append_take_drop a r q n
    have hpos := Text.size_pos (List.cons_ne_nil q (r.take n))
    refine ⟨?_, ?_, ?_⟩
    · rw [Text.size_append]
      omega
    · rw [hcut, Text.size_append _ (r.drop n)]
      omega
    · rw [hcut]
      exact Text.isBoundary_size_append _ _
  · intro ts hts t ht hstart hkind
    rw [← hstart]
    exact stopAt_of_scan hts ht hkind

/-- Behind a character of two bytes: braces in a hole, in them a literal of three quotes that holds
a quote and a brace, and an escaped character of two bytes. The escape at the end of the second text
has nothing to skip. -/
theorem stopAt_exact_nested :
    Text.byteAt? 2 "é\"$\x7b\x7b'''x'\x7d'''\x7d\x7d\\é\" '".toList = some '"'.toUInt8 ∧
      IsLiteral "é\"$\x7b\x7b'''x'\x7d'''\x7d\x7d\\é\" '".toList 2 21 ∧
      (∀ stop, IsLiteral "é\"$\x7b\x7b'''x'\x7d'''\x7d\x7d\\é\" '".toList 2 stop → stop = 21) ∧
      Text.byteAt? 0 "'a\\".toList = some '\''.toUInt8 ∧
      ∀ stop, ¬ IsLiteral "'a\\".toList 0 stop := by
  have hb : Text.byteAt? 2 "é\"$\x7b\x7b'''x'\x7d'''\x7d\x7d\\é\" '".toList = some '"'.toUInt8 := by
    cbv
  have hb' : Text.byteAt? 0 "'a\\".toList = some '\''.toUInt8 := by cbv
  have hstop : stopAt "é\"$\x7b\x7b'''x'\x7d'''\x7d\x7d\\é\" '".toList 2 = .ok 21 := by cbv
  have herror : stopAt "'a\\".toList 0 = .error ⟨.string, ⟨0, 1, 1⟩⟩ := by cbv
  obtain ⟨hiff, hunique, -⟩ := stopAt_exact hb (.inr rfl)
  obtain ⟨hiff', -⟩ := stopAt_exact hb' (.inl rfl)
  have hliteral := (hiff 21).mp hstop
  refine ⟨hb, hliteral, fun stop h => hunique stop 21 h hliteral, hb', fun stop h => ?_⟩
  rw [← hiff', herror] at h
  cases h

end Graft.Literal
