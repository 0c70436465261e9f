import Graft.Proofs.Lexeme.Frame

/-!
# Literals under another line end

What becomes of a literal when each line feed of a text gets a carriage return in front of it. The
carriage return is no mark of the reader, so a literal ends where it did. One rule counts characters
and not line ends: an escape skips one of them. A literal of single quotes that goes on behind an
escaped line feed is cut there once the carriage return is the character that is skipped.
-/
namespace Graft

namespace Text

/-- The text with a carriage return before each line feed. -/
def crlf (t : Text) : Text := t.flatMap fun c => if c = '\n' then ['\r', '\n'] else [c]

@[simp] theorem crlf_nil : crlf [] = [] := rfl

@[simp] theorem crlf_newline (t : Text) : crlf ('\n' :: t) = '\r' :: '\n' :: crlf t := rfl

theorem crlf_cons {c : Char} (h : c ≠ '\n') (t : Text) : crlf (c :: t) = c :: crlf t := by
  simp [crlf, h]

@[simp] theorem crlf_append (s t : Text) : crlf (s ++ t) = crlf s ++ crlf t := List.flatMap_append

theorem crlf_of_not_mem {t : Text} (h : '\n' ∉ t) : crlf t = t := by
  induction t with
  | nil => rfl
  | cons c t ih =>
    rw [List.mem_cons, not_or] at h
    rw [crlf_cons (Ne.symm h.1), ih h.2]

private theorem length_le_crlf (t : Text) : t.length ≤ (crlf t).length := by
  induction t with
  | nil => exact Nat.le_refl 0
  | cons c t ih =>
    by_cases hc : c = '\n'
    · rw [hc, crlf_newline]
      simp only [List.length_cons]
      omega
    · rw [crlf_cons hc]
      simpa using ih

theorem eq_nil_of_crlf {t : Text} (h : crlf t = []) : t = [] := by
  have hle := length_le_crlf t
  rw [h] at hle
  exact List.length_eq_zero_iff.mp (Nat.le_zero.mp hle)

theorem crlf_eq_cons_iff {c : Char} (hc : c ≠ '\n' ∧ c ≠ '\r') {t u : Text} :
    crlf t = c :: u ↔ ∃ s, t = c :: s ∧ u = crlf s := by
  constructor
  · intro h
    cases t with
    | nil => cases h
    | cons d s =>
      by_cases hd : d = '\n'
      · rw [hd, crlf_newline] at h
        exact absurd (List.cons.inj h).1.symm hc.2
      · rw [crlf_cons hd] at h
        obtain ⟨rfl, rfl⟩ := List.cons.inj h
        exact ⟨s, rfl, rfl⟩
  · rintro ⟨s, rfl, rfl⟩
    exact crlf_cons hc.1 s

/-- The new text begins as the old one does, but for line ends. -/
theorem head?_crlf_iff {c : Char} (hc : c ≠ '\n' ∧ c ≠ '\r') {t : Text} :
    (crlf t).head? = some c ↔ t.head? = some c := by
  rw [List.head?_eq_some_iff, List.head?_eq_some_iff]
  constructor
  · rintro ⟨u, hu⟩
    obtain ⟨s, hs, -⟩ := (crlf_eq_cons_iff hc).mp hu
    exact ⟨s, hs⟩
  · rintro ⟨s, hs⟩
    exact ⟨crlf s, (crlf_eq_cons_iff hc).mpr ⟨s, hs, rfl⟩⟩

end Text

namespace Literal

open Text (crlf crlf_cons crlf_newline crlf_of_not_mem crlf_eq_cons_iff head?_crlf_iff)

/-! ## Literals that join lines -/

/-- The frame of a literal that is to end on its line. -/
def Frame.isSingle : Frame → Bool
  | .quoted _ triple _ => !triple
  | .hole _ => false

/-- On the way to the end of the frames, a line feed is escaped where a literal is to end on its
line. -/
def joins : Nat → Frame → List Frame → Text → Bool
  | _, _, _, [] => false
  | skip + 1, f, fs, _ :: r => joins skip f fs r
  | 0, f, fs, c :: r =>
    (f.isSingle && c = '\\' && r.head? = some '\n') ||
      match move f fs c r with
      | .next skip g gs => joins skip g gs r
      | _ => false

/-- The literal with the quote `q` before `r` escapes a line feed, itself or in its holes, where a
literal is to end on its line. -/
def joinsLines (q : Char) (r : Text) : Bool :=
  if isTripled q r then joins 2 (.quoted q true (q :: r)) [] r
  else joins 0 (.quoted q false (q :: r)) [] r

/-! ## One character -/

private theorem isSingle_of_bare {f f' : Frame} (h : f.bare = f'.bare) :
    f'.isSingle = f.isSingle := by
  cases f <;> cases f' <;> simp_all [Frame.bare, Frame.isSingle]

private theorem proper_of_bare {f f' : Frame} (h : f.bare = f'.bare) (hf : f.Proper) :
    f'.Proper := by
  cases f <;> cases f' <;> simp_all [Frame.bare, Frame.Proper]

private theorem Move.Alike.trans {l m n : Move} (h : l.Alike m) (h' : m.Alike n) : l.Alike n := by
  cases h with
  | fail =>
    cases h'
    exact .fail
  | close =>
    cases h'
    exact .close
  | next hf hfs =>
    cases h' with
    | next hg hgs => exact .next (hf.trans hg) (hfs.trans hgs)

private theorem weight_of_bare {f f' : Frame} (h : f.bare = f'.bare) : f'.weight = f.weight := by
  cases f <;> cases f' <;> simp_all [Frame.bare]

private theorem weights_of_bare {fs fs' : List Frame} (h : fs.map Frame.bare = fs'.map Frame.bare) :
    weights fs' = weights fs := by
  induction fs generalizing fs' with
  | nil =>
    obtain rfl : fs' = [] := by simpa using h.symm
    rfl
  | cons f fs ih =>
    obtain ⟨f', fs', rfl, hf, hfs⟩ := List.map_eq_cons_iff.mp h.symm
    rw [weights_cons, weights_cons, weight_of_bare hf.symm, ih hfs.symm]

private theorem Move.Alike.need_eq {m n : Move} (h : m.Alike n) : n.need = m.need := by
  cases h with
  | fail => rfl
  | close => rfl
  | next hf hfs => rw [need_next, need_next, weight_of_bare hf, weights_of_bare hfs]

theorem ne_of_isQuote {q : Char} (hq : isQuote q = true) : q ≠ '\n' ∧ q ≠ '\r' := by
  obtain rfl | rfl := isQuote_iff.mp hq <;> decide

private theorem isTripled_crlf {q : Char} (hq : isQuote q = true) (r : Text) :
    isTripled q (crlf r) = isTripled q r := by
  have hne := ne_of_isQuote hq
  rw [Bool.eq_iff_iff, isTripled_iff, isTripled_iff]
  constructor
  · rintro ⟨u, hu⟩
    obtain ⟨s, rfl, hs⟩ := (crlf_eq_cons_iff hne).mp hu
    obtain ⟨s, rfl, -⟩ := (crlf_eq_cons_iff hne).mp hs.symm
    exact ⟨s, rfl⟩
  · rintro ⟨s, rfl⟩
    exact ⟨crlf s, by rw [crlf_cons hne.1, crlf_cons hne.1]⟩

private theorem move_crlf {f f' : Frame} {fs fs' : List Frame} (c : Char) (r : Text)
    (hproper : f.Proper) (hf : f.bare = f'.bare) (hfs : fs.map Frame.bare = fs'.map Frame.bare) :
    (move f fs c r).Alike (move f' fs' c (crlf r)) := by
  have hbrace : (crlf r).head? = some '{' ↔ r.head? = some '{' := head?_crlf_iff (by decide)
  cases f with
  | quoted q triple o =>
    cases f' with
    | hole _ => cases hf
    | quoted q' triple' o' =>
      obtain ⟨rfl, rfl⟩ : q = q' ∧ triple = triple' := by simpa [Frame.bare] using hf
      simp only [move, hbrace, isTripled_crlf hproper]
      repeat' split
      all_goals first
        | exact .fail
        | exact leave_alike _ hfs
        | exact .next hf hfs
        | exact .next rfl (by simp [hf, hfs])
  | hole o =>
    cases f' with
    | quoted _ _ _ => cases hf
    | hole o' =>
      by_cases hquote : isQuote c = true
      · simp only [move, if_pos hquote, isTripled_crlf hquote]
        repeat' split
        all_goals first
          | exact leave_alike _ hfs
          | exact .next hf (by simp [hf, hfs])
          | exact .next rfl (by simp [hf, hfs])
      · simp only [move, if_neg hquote]
        repeat' split
        all_goals first
          | exact leave_alike _ hfs
          | exact .next hf (by simp [hf, hfs])

private theorem move_return {f : Frame} (fs : List Frame) (r : Text) (hf : f.Proper) :
    move f fs '\r' r = .next 0 f fs := by
  cases f with
  | hole o => rfl
  | quoted q triple o =>
    have hne : '\r' ≠ q := (ne_of_isQuote hf).2.symm
    simp [move, hne]

private theorem move_newline {f : Frame} (fs : List Frame) (r : Text) (hf : f.Proper)
    (h : f.isSingle = false) : move f fs '\n' r = .next 0 f fs := by
  cases f with
  | hole o => rfl
  | quoted q triple o =>
    have hne : '\n' ≠ q := (ne_of_isQuote hf).1.symm
    obtain rfl : triple = true := by simpa [Frame.isSingle] using h
    simp [move, hne]

private theorem isSingle_of_closing {f : Frame} {fs : List Frame} {r : Text} {n : Nat}
    (h : closing 0 f fs ('\n' :: r) = .ok n) : f.isSingle = false := by
  cases f with
  | hole o => rfl
  | quoted q triple o =>
    cases triple with
    | true => rfl
    | false => cases h

private theorem not_mem_of_isTripled {q : Char} {r : Text} (hq : isQuote q = true)
    (ht : isTripled q r = true) : '\n' ∉ r.take 2 := by
  obtain ⟨s, rfl⟩ := isTripled_iff.mp ht
  simpa using (ne_of_isQuote hq).1.symm

private theorem not_mem_of_close {f : Frame} {fs : List Frame} {c : Char} {r : Text} (hf : f.Proper)
    (h : move f fs c r = .close r.length) : '\n' ∉ r := by
  cases f with
  | hole o =>
    obtain ⟨-, hr⟩ := hole_close h
    simp [List.length_eq_zero_iff.mp hr]
  | quoted q triple o =>
    obtain ⟨-, -, hmore⟩ := quoted_close h
    cases triple with
    | false => simp [List.length_eq_zero_iff.mp hmore]
    | true =>
      obtain ⟨ht, hlength⟩ := hmore
      simpa [← hlength] using not_mem_of_isTripled hf ht

/-- No line feed is skipped but as an escaped one in a frame that bears line feeds. -/
def Clear (skip : Nat) (f : Frame) (t : Text) : Prop :=
  '\n' ∈ t.take skip → skip = 1 ∧ f.isSingle = false

private theorem clear_zero (f : Frame) (t : Text) : Clear 0 f t := by
  intro h
  rw [List.take_zero] at h
  cases h

private theorem Clear.tail {skip : Nat} {f : Frame} {c : Char} {t : Text}
    (h : Clear (skip + 1) f (c :: t)) : Clear skip f t := by
  intro hmem
  have hskip := (h (List.mem_cons_of_mem c hmem)).1
  obtain rfl : skip = 0 := by omega
  rw [List.take_zero] at hmem
  cases hmem

private theorem Turn.clear {f g : Frame} {fs gs : List Frame} {c : Char} {r : Text} {m : Move}
    {skip : Nat} (h : Turn fs c r f m) (hm : m = .next skip g gs) (hf : f.Proper)
    (hjoin : (f.isSingle && c = '\\' && r.head? = some '\n') = false) : Clear skip g r := by
  have hskip {more : Nat} (hmore : '\n' ∉ r.take more) (hleave : leave more fs = .next skip g gs) :
      Clear skip g r := by
    cases fs with
    | nil => cases hleave
    | cons f' fs =>
      cases hleave
      exact fun hmem => absurd hmem hmore
  cases h with
  | broken _ => cases hm
  | escape hc =>
    cases hm
    intro hmem
    refine ⟨rfl, ?_⟩
    have hhead : r.head? = some '\n' := by
      cases r with
      | nil => cases hmem
      | cons d r => simpa [eq_comm] using hmem
    simpa [hc, hhead] using hjoin
  | single _ _ _ | closing _ => exact hskip (by simp) hm
  | triple _ _ ht => exact hskip (not_mem_of_isTripled hf ht) hm
  | interpolation _ hr =>
    cases hm
    obtain ⟨s, rfl⟩ := List.head?_eq_some_iff.mp hr
    intro hmem
    simp at hmem
  | tripled hc ht =>
    cases hm
    exact fun hmem => absurd hmem (not_mem_of_isTripled hc ht)
  | quote _ _ _ | character _ _ _ _ | opening _ | literal _ _ | other _ _ _ =>
    cases hm
    exact clear_zero _ _

private theorem move_crlf_append {f f' : Frame} {fs fs' : List Frame} {a : Text} (u : Text)
    (c : Char) (hproper : f.Proper) (hf : f.bare = f'.bare)
    (hfs : fs.map Frame.bare = fs'.map Frame.bare) (h : (move f fs c a).need ≤ a.length) :
    (move f fs c a).Alike (move f' fs' c (crlf a ++ u)) := by
  have hcrlf := move_crlf c a hproper hf hfs
  have hneed : (move f' fs' c (crlf a ++ [])).need ≤ (crlf a).length := by
    rw [List.append_nil, hcrlf.need_eq]
    exact h.trans (Text.length_le_crlf a)
  have happend := move_alike u c rfl rfl hneed
  rw [List.append_nil] at happend
  exact hcrlf.trans happend

private theorem need_le {f : Frame} {fs : List Frame} {c : Char} {r : Text}
    (h : closing 0 f fs (c :: r) = .ok (c :: r).length) : (move f fs c r).need ≤ r.length := by
  rw [List.length_cons] at h
  obtain ⟨more, hm, hn⟩ | ⟨skip, g, gs, m, hm, hr, hn⟩ := closing_eq_ok h
  · rw [hm, need_close]
    omega
  · have := weight_le_closing hr
    rw [hm, need_next]
    omega

/-! ## Whole literals -/

/-- Reading comes to an end after `n` characters or, if lines were joined, at a broken literal. -/
inductive Returns (n : Nat) : Bool → Except Fault Nat → Prop where
  | ok : Returns n false (.ok n)
  | broken {e} : e.defect = .string → Returns n true (.error e)

private theorem Returns.succ {n : Nat} {joined : Bool} {x : Except Fault Nat}
    (h : Returns n joined x) : Returns (n + 1) joined (x.map (· + 1)) := by
  cases h with
  | ok => exact .ok
  | broken he => exact .broken he

private theorem closing_newline {f : Frame} (fs : List Frame) (r : Text) (hf : f.Proper)
    (h : f.isSingle = false) :
    closing 0 f fs ('\n' :: r) = (closing 0 f fs r).map (· + 1) := by
  rw [closing, move_newline fs r hf h]

private theorem joins_newline {f : Frame} (fs : List Frame) (r : Text) (hf : f.Proper)
    (h : f.isSingle = false) : joins 0 f fs ('\n' :: r) = joins 0 f fs r := by
  rw [joins, move_newline fs r hf h, h, Bool.false_and, Bool.false_and, Bool.false_or]

private theorem eq_ok_of_map_succ {x : Except Fault Nat} {n : Nat}
    (h : x.map (· + 1) = .ok (n + 1)) : x = .ok n := by
  cases x with
  | error e => cases h
  | ok m => simpa [Except.map] using h

private theorem closing_return {f : Frame} (fs : List Frame) (r : Text) (hf : f.Proper) :
    closing 0 f fs ('\r' :: r) = (closing 0 f fs r).map (· + 1) := by
  rw [closing, move_return fs r hf]

/-- The reader meets a line feed in a literal that is to end on its line. -/
theorem closing_joined {f : Frame} (fs : List Frame) (r : Text) (h : f.isSingle = true) :
    ∃ e, closing 0 f fs ('\\' :: '\r' :: '\n' :: r) = .error e ∧ e.defect = .string := by
  cases f with
  | hole o => cases h
  | quoted q triple o =>
    obtain rfl : triple = false := by simpa [Frame.isSingle] using h
    exact ⟨⟨.string, o⟩, rfl, rfl⟩

/-- The frames end at the same place of the new text, whatever follows it, unless lines are
joined. -/
theorem closing_crlf {a : Text} (u : Text) {skip : Nat} {f f' : Frame} {fs fs' : List Frame}
    (h : closing skip f fs a = .ok a.length) (hclear : Clear skip f a)
    (hproper : ∀ g ∈ f :: fs, g.Proper) (hbare : f.bare = f'.bare)
    (hfs : fs.map Frame.bare = fs'.map Frame.bare) :
    Returns (crlf a).length (joins skip f fs a) (closing skip f' fs' (crlf a ++ u)) := by
  -- `Clear` carries the induction: what is skipped in the one text is skipped in the other
  induction a generalizing skip f f' fs fs' with
  | nil => cases h
  | cons c a ih =>
    have hf' : f'.Proper := proper_of_bare hbare (hproper f List.mem_cons_self)
    cases skip with
    | succ skip =>
      obtain ⟨m, hm, hn⟩ := closing_succ_eq_ok h
      obtain rfl : a.length = m := by simpa using hn
      have hrest := ih hm hclear.tail hproper hbare hfs
      by_cases hc : c = '\n'
      · subst hc
        obtain ⟨hskip, hsingle⟩ := hclear (by simp)
        obtain rfl : skip = 0 := by omega
        rw [crlf_newline, List.cons_append, List.cons_append, closing,
          closing_newline fs' _ hf' (by rw [isSingle_of_bare hbare, hsingle])]
        exact hrest.succ.succ
      · rw [crlf_cons hc, List.cons_append, closing]
        exact hrest.succ
    | zero =>
      by_cases hc : c = '\n'
      · subst hc
        have hsingle := isSingle_of_closing h
        have hf := hproper f List.mem_cons_self
        rw [closing_newline fs a hf hsingle] at h
        rw [crlf_newline, List.cons_append, List.cons_append, closing_return fs' _ hf',
          closing_newline fs' _ hf' (by rw [isSingle_of_bare hbare, hsingle]),
          joins_newline fs a hf hsingle]
        exact (ih (eq_ok_of_map_succ h) (clear_zero f a) hproper hbare hfs).succ.succ
      rw [crlf_cons hc, List.cons_append, joins]
      cases hjoin : (f.isSingle && c = '\\' && a.head? = some '\n') with
      | true =>
        simp only [Bool.and_eq_true, decide_eq_true_eq] at hjoin
        obtain ⟨⟨hsingle, rfl⟩, hhead⟩ := hjoin
        obtain ⟨a, rfl⟩ := List.head?_eq_some_iff.mp hhead
        rw [← isSingle_of_bare hbare] at hsingle
        obtain ⟨e, he, hdefect⟩ := closing_joined fs' (crlf a ++ u) hsingle
        rw [crlf_newline, List.cons_append, List.cons_append, he, Bool.true_or]
        exact .broken hdefect
      | false =>
        have hmove := move_crlf_append u c (hproper f List.mem_cons_self) hbare hfs (need_le h)
        obtain ⟨more, hm, hn⟩ | ⟨skip, g, gs, m, hm, hr, hn⟩ := closing_eq_ok h
        · obtain rfl : a.length = more := by simpa using hn
          rw [hm] at hmove ⊢
          generalize hm' : move f' fs' c (crlf a ++ u) = m' at hmove
          cases hmove
          have ha := crlf_of_not_mem (not_mem_of_close (hproper f List.mem_cons_self) hm)
          rw [closing, hm', List.length_cons, ha]
          exact .ok
        · obtain rfl : a.length = m := by simpa using hn
          have hturn := turn_move f fs c a
          have hclear' := hturn.clear hm (hproper f List.mem_cons_self) hjoin
          have hproper' := hturn.proper hm hproper
          rw [hm] at hmove ⊢
          generalize hm' : move f' fs' c (crlf a ++ u) = m' at hmove
          cases hmove with
          | next hg hgs =>
            rw [closing, hm', List.length_cons, Bool.false_or]
            exact (ih hr hclear' hproper' hg hgs).succ

private theorem isTripled_crlf_append {q : Char} {a u : Text} (hq : isQuote q = true)
    (h : extent q a = .ok a.length) (hempty : a = [q] → u.head? ≠ some q) :
    isTripled q (crlf a ++ u) = isTripled q a := by
  by_cases hlong : 2 ≤ a.length
  · rw [isTripled_append q u [] (hlong.trans (Text.length_le_crlf a)), List.append_nil,
      isTripled_crlf hq]
  · -- a literal of two characters is empty
    have hlast : a.getLast? = some q := getLast?_of_extent (b := []) (by rwa [List.append_nil])
    obtain ⟨init, hinit⟩ := List.getLast?_eq_some_iff.mp hlast
    obtain rfl : init = [] := by
      rw [hinit, List.length_append, List.length_singleton] at hlong
      exact List.length_eq_zero_iff.mp (by omega)
    obtain rfl : a = [q] := hinit
    have hnew : isTripled q (crlf [q] ++ u) = false := by
      rw [Bool.eq_false_iff, Ne, isTripled_iff, crlf_cons (ne_of_isQuote hq).1]
      rintro ⟨s, hs⟩
      obtain rfl : u = q :: s := by simpa using hs
      exact hempty rfl rfl
    rw [hnew]
    simp [isTripled]

theorem extent_crlf {q : Char} {a u : Text} (hq : isQuote q = true)
    (h : extent q a = .ok a.length) (hempty : a = [q] → u.head? ≠ some q) :
    Returns (crlf a).length (joinsLines q a) (extent q (crlf a ++ u)) := by
  have hproper {triple : Bool} : ∀ g ∈ [Frame.quoted q triple (q :: a)], g.Proper := by
    intro g hg
    obtain rfl := List.mem_singleton.mp hg
    exact hq
  have htriple := isTripled_crlf_append hq h hempty
  rw [extent, htriple, joinsLines]
  rw [extent] at h
  cases ht : isTripled q a with
  | true =>
    rw [ht, if_pos rfl] at h
    rw [if_pos rfl, if_pos rfl]
    have hclear : Clear 2 (.quoted q true (q :: a)) a :=
      fun hmem => absurd hmem (not_mem_of_isTripled hq ht)
    exact closing_crlf u h hclear hproper rfl rfl
  | false =>
    rw [ht, if_neg Bool.false_ne_true] at h
    rw [if_neg Bool.false_ne_true, if_neg Bool.false_ne_true]
    exact closing_crlf u h (clear_zero _ _) hproper rfl rfl

end Literal
end Graft
