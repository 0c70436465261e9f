/-!
# Text and byte offsets

A text is a list of characters. Offsets into it count the bytes of its UTF-8 form, so a cut at an
offset keeps whole characters only: an offset inside a character is taken back to its first byte.
-/
namespace Graft

/-- A text is the list of its characters. -/
abbrev Text := List Char

namespace Text

/-- Number of bytes of the UTF-8 form. -/
def size : Text → Nat
  | [] => 0
  | c :: r => c.utf8Size + size r

/-- The longest beginning of at most `n` bytes. -/
def takeBytes : Nat → Text → Text
  | _, [] => []
  | n, c :: r => if n < c.utf8Size then [] else c :: takeBytes (n - c.utf8Size) r

/-- What follows `takeBytes n`. -/
def dropBytes : Nat → Text → Text
  | _, [] => []
  | n, c :: r => if n < c.utf8Size then c :: r else dropBytes (n - c.utf8Size) r

/-- The characters from byte `start` up to byte `stop`. -/
def slice (start stop : Nat) (t : Text) : Text :=
  takeBytes (stop - start) (dropBytes start t)

/-- An offset is a boundary when a character begins there or the text ends there. -/
def isBoundary (n : Nat) (t : Text) : Bool :=
  size (takeBytes n t) == n

/-- The byte at offset `n`, if a one-byte character stands there. -/
def asciiAt? (n : Nat) (t : Text) : Option Char :=
  if isBoundary n t then
    match dropBytes n t with
    | c :: _ => if c.utf8Size = 1 then some c else none
    | [] => none
  else none

@[simp] theorem size_nil : size [] = 0 := rfl

@[simp] theorem size_cons (c : Char) (r : Text) : size (c :: r) = c.utf8Size + size r := rfl

@[simp] theorem size_append (s t : Text) : size (s ++ t) = size s + size t := by
  induction s with
  | nil => simp
  | cons c r ih => simp [ih]; omega

theorem takeBytes_append_dropBytes (n : Nat) (t : Text) :
    takeBytes n t ++ dropBytes n t = t := by
  induction t generalizing n with
  | nil => rfl
  | cons c r ih =>
    unfold takeBytes dropBytes
    split <;> simp [ih]

theorem size_takeBytes_le (n : Nat) (t : Text) : size (takeBytes n t) ≤ n := by
  induction t generalizing n with
  | nil => simp [takeBytes]
  | cons c r ih =>
    unfold takeBytes
    split
    · simp
    · have := ih (n - c.utf8Size)
      simp only [size_cons]
      omega

/-! ## Lines -/

/-- The part after the last line feed. -/
def lastLine (t : Text) : Text :=
  (t.reverse.takeWhile (· ≠ '\n')).reverse

/-- Goes on behind the part of a line that is given backwards. -/
def lineHeadFrom (line : Text) : Nat → Text → Text
  | _, [] => line.reverse
  | n, c :: r =>
    if n < c.utf8Size then line.reverse
    else lineHeadFrom (if c = '\n' then [] else c :: line) (n - c.utf8Size) r

/-- The part of the line around `offset` that stands before it. -/
def lineHead (offset : Nat) (t : Text) : Text := lineHeadFrom [] offset t

/-- The number of line feeds among the first `offset` bytes. -/
def lineFeeds : Nat → Text → Nat
  | _, [] => 0
  | n, c :: r =>
    if n < c.utf8Size then 0 else lineFeeds (n - c.utf8Size) r + if c = '\n' then 1 else 0

theorem lastLine_of_all {t : Text} (h : ∀ c ∈ t, c ≠ '\n') : lastLine t = t := by
  have all (s : Text) (hs : ∀ c ∈ s, c ≠ '\n') : s.takeWhile (· ≠ '\n') = s := by
    induction s with
    | nil => rfl
    | cons c r ih => simp_all
  rw [lastLine, all _ fun c hc => h c (List.mem_reverse.1 hc), List.reverse_reverse]

theorem lastLine_append_lineFeed (s t : Text) : lastLine (s ++ '\n' :: t) = lastLine t := by
  have : (t.reverse ++ '\n' :: s.reverse).takeWhile (· ≠ '\n')
      = t.reverse.takeWhile (· ≠ '\n') := by
    induction t.reverse with
    | nil => simp
    | cons c r ih => by_cases h : c = '\n' <;> simp_all
  simp only [lastLine, List.reverse_append, List.reverse_cons, List.append_assoc,
    List.singleton_append, this]

theorem lineHeadFrom_eq {line : Text} (h : ∀ c ∈ line, c ≠ '\n') (n : Nat) (t : Text) :
    lineHeadFrom line n t = lastLine (line.reverse ++ takeBytes n t) := by
  have stop {s : Text} (hs : ∀ c ∈ s, c ≠ '\n') : s.reverse = lastLine (s.reverse ++ []) := by
    rw [List.append_nil, lastLine_of_all fun c hc => hs c (List.mem_reverse.1 hc)]
  induction t generalizing line n with
  | nil => exact stop h
  | cons c r ih =>
    unfold lineHeadFrom takeBytes
    split
    · exact stop h
    · by_cases hc : c = '\n'
      · rw [if_pos hc, ih (by simp), hc, lastLine_append_lineFeed]
        rfl
      · have hl : ∀ d ∈ c :: line, d ≠ '\n' := by simpa [hc] using h
        rw [if_neg hc, ih hl]
        simp

/-- The head of a line is the last line of what stands before the offset. -/
theorem lineHead_eq (offset : Nat) (t : Text) :
    lineHead offset t = lastLine (takeBytes offset t) := by
  simp [lineHead, lineHeadFrom_eq]

/-- Offset at which the line around `offset` begins. -/
def lineStart (offset : Nat) (t : Text) : Nat :=
  offset - size (lineHead offset t)

/-- Spaces and tabs indent; no other character does. -/
def isIndent (c : Char) : Bool :=
  c == ' ' || c == '\t'

/-- Leading spaces and tabs of the line around `offset`. -/
def lineIndent (offset : Nat) (t : Text) : Text :=
  (lineHead offset t ++ dropBytes offset t).takeWhile isIndent

/-- Only spaces and tabs stand before `offset` on its line. -/
def startsLine (offset : Nat) (t : Text) : Bool :=
  (lineHead offset t).all isIndent

/-- Texts set one after another with a separator between each two. -/
def join (separator : Text) : List Text → Text
  | [] => []
  | [t] => t
  | t :: ts => t ++ separator ++ join separator ts

end Text
end Graft
