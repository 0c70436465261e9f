import Graft.Shell.Tool.File

/-!
# Pieces of files

`split` cuts a file into pieces of a size or into a number of pieces, and writes each under a name of
its own or hands it to a command.
-/
namespace Graft.Shell.Tool

/-! ## Names -/

/-- The names of pieces: what stands before and behind the part that is counted. -/
private structure PieceNames where
  stem : Bytes
  ending : Bytes
  alphabet : Bytes
  width : Nat
  start : Nat
  /-- More letters are taken when those of the width are nearly used up. -/
  grows : Bool

/-- The letters that count a piece. -/
private def PieceNames.letters (p : PieceNames) (width n : Nat) : Bytes :=
  let base := p.alphabet.length
  (List.range width).reverse.map fun k => p.alphabet.getD (n / Nat.pow base k % base) 'a'

/-- The part of a name that grows: all but the last letter may stand first, and behind those the
last letter is put in front of a wider part. -/
private def PieceNames.growing (p : PieceNames) : Nat → Nat → Nat → Bytes
  | 0, width, n => p.letters width n
  | fuel + 1, width, n =>
    let base := p.alphabet.length
    let most := (base - 1) * Nat.pow base (width - 1)
    if n < most then p.letters width n
    else (p.alphabet.getLast?.getD 'z') :: p.growing fuel (width + 1) (n - most)

/-- The name of a piece, unless there are too many. -/
private def PieceNames.name? (p : PieceNames) (n : Nat) : Option Bytes :=
  let n := n + p.start
  if p.grows then some (p.stem ++ p.growing n p.width n ++ p.ending)
  else if n < Nat.pow p.alphabet.length p.width then
    some (p.stem ++ p.letters p.width n ++ p.ending)
  else none

/-! ## Cuts -/

inductive Cut where
  | lines (n : Nat)
  | bytes (n : Nat)
  /-- Whole lines as far as they fit into a number of bytes. -/
  | lineBytes (n : Nat)
  /-- So many pieces, or one of them. -/
  | chunks (kind : Option Char) (chosen : Option Nat) (n : Nat)

/-- Cuts a list into pieces of a size. -/
private def cutInto {α : Type} (size : Nat) (xs : List α) : List (List α) :=
  let rec go : Nat → List α → List (List α) → List (List α)
    | 0, _, done => done.reverse
    | _, [], done => done.reverse
    | fuel + 1, xs, done => go fuel (xs.drop size) (xs.take size :: done)
  go xs.length xs []

/-- Records with the separators at their ends. -/
private def recordsOf (mark : Char) (t : Bytes) : List Bytes :=
  let (last, done) := t.foldl (fun ((current, done) : Bytes × List Bytes) c =>
    if c == mark then ([], (c :: current).reverse :: done) else (c :: current, done)) ([], [])
  (if last.isEmpty then done else last.reverse :: done).reverse

/-- Fills pieces with whole lines; a line that is too long for one is cut where it begins a piece.
-/
private def fill (most : Nat) (lines : List Bytes) : List Bytes :=
  let flush (piece : Bytes) (done : List Bytes) : List Bytes :=
    if piece.isEmpty then done else piece :: done
  let (piece, done) := lines.foldl (fun ((piece, done) : Bytes × List Bytes) l =>
    let parts := cutInto most l
    let last := parts.getLast?.getD []
    match parts.dropLast with
    | [] => if piece.length + l.length > most then (l, flush piece done) else (piece ++ l, done)
    | long => (last, long.reverse ++ flush piece done)) ([], [])
  (flush piece done).reverse

/-- Where each of a number of equal pieces ends; the first ones take what is left over. -/
private def chunkEnds (size n : Nat) : List Nat :=
  (List.range n).map fun k => (k + 1) * (size / n) + min (k + 1) (size % n)

/-- The pieces of a text. -/
private def Cut.pieces (mark : Char) (t : Bytes) : Cut → List Bytes
  | .lines n => (cutInto n (recordsOf mark t)).map List.flatten
  | .bytes n => cutInto n t
  | .lineBytes n => fill n (recordsOf mark t)
  | .chunks none _ n =>
    let starts := 0 :: chunkEnds t.length n
    (starts.zip (chunkEnds t.length n)).map fun (a, b) => (t.drop a).take (b - a)
  | .chunks (some 'l') _ n =>
    let lines := recordsOf mark t
    let (_, placed) := lines.foldl (fun ((place, done) : Nat × List (Nat × Bytes)) l =>
      (place + l.length, (place, l) :: done)) (0, [])
    let placed := placed.reverse
    let starts := 0 :: chunkEnds t.length n
    (starts.zip (chunkEnds t.length n)).map fun (a, b) =>
      (placed.filter fun (k, _) => a ≤ k && k < b).flatMap (·.2)
  | .chunks (some _) _ n =>
    let lines := (recordsOf mark t).zipIdx
    (List.range n).map fun k => (lines.filter fun (_, i) => i % n == k).flatMap (·.1)

/-! ## The program -/

/-- A number above zero without a letter behind it. -/
private def positive? (t : Bytes) : Option Nat :=
  let ds := if t.head? == some '+' then t.drop 1 else t
  if isDigits ds && ofDigits ds != 0 then some (ofDigits ds) else none

/-- Reads a number of pieces, perhaps with the kind of pieces and the one that is meant. -/
private def chunks? (t : Bytes) : Except String Cut :=
  let (kind, t) : Option Char × Bytes := match t with
    | 'l' :: '/' :: r => (some 'l', r)
    | 'r' :: '/' :: r => (some 'r', r)
    | t => (none, t)
  let chosen := t.takeWhile Char.isDigit
  match t.drop chosen.length with
  | '/' :: r =>
    if chosen.isEmpty then .error ("invalid number of chunks: " ++ quote t)
    else
      match positive? r with
      | none => .error ("invalid number of chunks: " ++ quote r)
      | some n =>
        if ofDigits chosen == 0 || ofDigits chosen > n then
          .error ("invalid chunk number: " ++ quote chosen)
        else .ok (.chunks kind (some (ofDigits chosen)) n)
  | _ =>
    match positive? t with
    | some n => .ok (.chunks kind none n)
    | none => .error ("invalid number of chunks: " ++ quote t)

/-- What an option says about the cut, if it is about it. -/
private def cutOf? (key : String) (v : Bytes) : Option (Except String Cut) :=
  let number (n? : Option Nat) (word : String) (make : Nat → Cut) : Except String Cut :=
    match n?.filter (· != 0) with
    | some n => .ok (make n)
    | none => .error ("invalid number of " ++ word ++ ": " ++ quote v)
  match key with
  | "l" => some (number (positive? v) "lines" .lines)
  | "b" => some (number (sized? v) "bytes" .bytes)
  | "C" => some (number (sized? v) "lines" .lineBytes)
  | "n" => some (chunks? v)
  | _ => none

/-- A refusal, with or without a reference to the help. -/
private structure Refusal where
  message : String
  helps : Bool

/-- The cut that the options ask for. -/
private def cutOf (o : Options) : Except Refusal Cut :=
  let step (c : Option Cut) (e : String × Option Bytes) : Except Refusal (Option Cut) :=
    match cutOf? e.1 (e.2.getD []), c with
    | none, c => .ok c
    | some _, some _ => .error ⟨"cannot split in more than one way", true⟩
    | some (.error message), none => .error ⟨message, false⟩
    | some (.ok c), none => .ok (some c)
  (o.foldlM step none).map fun c => c.getD (.lines 1000)

/-- The character that ends records. -/
private def separatorOf (o : Options) : Except Refusal Char :=
  match o.value? "t" with
  | none => .ok '\n'
  | some [c] => .ok c
  | some [] => .error ⟨"empty record separator", false⟩
  | some ['\\', '0'] => .ok (Char.ofNat 0)
  | some t => .error ⟨"multi-character separator " ++ quote t, false⟩

/-- How many letters count so many pieces. -/
private def lettersNeeded (base : Nat) : Nat → Nat → Nat
  | 0, _ => 1
  | fuel + 1, last => if last < base then 1 else lettersNeeded base fuel (last / base) + 1

/-- The names that the options ask for. -/
private def namesOf (o : Options) (stem : Bytes) (cut : Cut) : Except Refusal PieceNames := do
  let kind := o.last? ["d", "x", "numeric-suffixes", "hex-suffixes"]
  let isHex := kind == some "x" || kind == some "hex-suffixes"
  let alphabet := (if isHex then "0123456789abcdef" else if kind.isSome then "0123456789"
    else "abcdefghijklmnopqrstuvwxyz").toList
  let first? := (o.value? "numeric-suffixes") <|> (o.value? "hex-suffixes")
  let isDigit (c : Char) : Bool := alphabet.contains c
  if let some f := first? then
    if !f.all isDigit then
      throw ⟨quote f ++ ": invalid start value for " ++
        (if isHex then "hexadecimal" else "numerical") ++ " suffix", true⟩
  let start := (first?.getD []).foldl (fun n c => n * alphabet.length + alphabet.idxOf c) 0
  let given ← match o.value? "a" with
    | none => pure 0
    | some a =>
      if isDigits a then pure (ofDigits a) else throw ⟨"invalid suffix length: " ++ quote a, false⟩
  let ending := (o.value? "additional-suffix").getD []
  if ending.contains '/' then
    throw ⟨"invalid suffix " ++ quote ending ++ ", contains directory separator", true⟩
  let needed := match cut with
    | .chunks _ _ n =>
      let last := n - 1 + (if first?.isSome && start < n then start else 0)
      lettersNeeded alphabet.length last last
    | _ => 0
  if given != 0 && given < needed then
    throw ⟨"the suffix length needs to be at least " ++ toString needed, false⟩
  let width := if given != 0 then given else max 2 needed
  if (first?.getD []).length > width then
    throw ⟨"numerical suffix start value is too large for the suffix length", false⟩
  return ⟨stem, ending, alphabet, width, start, given == 0 && needed == 0 && first?.isNone⟩

/-- Digits behind a dash are a number of lines, unless they are the value of an option. -/
private def linesOptions : List Bytes → List Bytes
  | [] => []
  | ['-', '-'] :: r => ['-', '-'] :: r
  | ['-', k] :: v :: r =>
    if "lbnaCt".toList.contains k then ['-', k] :: v :: linesOptions r
    else if k.isDigit then "-l".toList :: [k] :: linesOptions (v :: r)
    else ['-', k] :: linesOptions (v :: r)
  | a :: r =>
    match a with
    | '-' :: c :: ds =>
      if (c :: ds).all Char.isDigit then "-l".toList :: (c :: ds) :: linesOptions r
      else a :: linesOptions r
    | _ => a :: linesOptions r

/-- Writes a piece, or hands it to a command. -/
private def putPiece (launch : Launch) (o : Options) (s : State) (name part : Bytes) : State :=
  match o.value? "filter" with
  | some command =>
    let s := if o.has "verbose" then
        s.print ("executing with FILE=" ++ quoteIfWild name ++ "\n").toList
      else s
    let (piped, i) := s.openPipe part State.unlimited
    let words := ["env".toList, "FILE=".toList ++ name, "sh".toList, "-c".toList, command]
    let (after, e) := launch.run (piped.setDescriptor 0 i) words
    let after := { after with descriptors := s.descriptors }
    match e with
    | .exited 0 => after
    | .exited n =>
      after.grumble n ("with FILE=" ++ quoteIfWild name ++ ", exit " ++ toString n ++
        " from command: " ++ String.ofList command)
    | .killed _ => after.finish 1
  | none =>
    match s.place name with
    | .ok l =>
      let s := if o.has "verbose" then
          s.print ("creating file " ++ quote name ++ "\n").toList
        else s
      s.store l false part
    | .error f => s.grumble 1 (plainly name f.reason)

/-- Writes pieces one after the other until one fails. -/
private def putPieces (launch : Launch) (o : Options) (names : PieceNames) (source : Option Location) :
    State → Nat → List Bytes → State
  | s, _, [] => s
  | s, n, part :: rest =>
    if part.isEmpty && o.has "e" then putPieces launch o names source s n rest
    else
      match names.name? n with
      | none => s.grumble 1 "output file suffixes exhausted"
      | some name =>
        if source.isSome && (s.disk.reach s.here (Bytes.toText name)).toOption == source then
          s.grumble 1 (quote name ++ " would overwrite input; aborting")
        else
          let s := putPiece launch o s name part
          if s.status != 0 then s else putPieces launch o names source s (n + 1) rest

def split (launch : Launch) (s : State) (args : List Bytes) : State :=
  withFlags ("a=/suffix-length b=/bytes C=/line-bytes d x /numeric-suffixes? /hex-suffixes? " ++
    "e/elide-empty-files l=/lines n=/number t=/separator u/unbuffered /additional-suffix= " ++
    "/filter= /verbose") 1 s (linesOptions args) fun o ps =>
    let planned : Except Refusal (Cut × Char × PieceNames) := do
      let cut ← cutOf o
      let mark ← separatorOf o
      if let _ :: _ :: extra :: _ := ps then throw ⟨"extra operand " ++ quote extra, true⟩
      let isChosen := cut matches .chunks _ (some _) _
      if isChosen && o.has "filter" then
        throw ⟨"--filter does not process a chunk extracted to stdout", true⟩
      return (cut, mark, ← namesOf o (ps.getD 1 ['x']) cut)
    match planned with
    | .error r => if r.helps then refuse s 1 r.message else s.grumble 1 r.message
    | .ok (cut, mark, names) =>
      let path := ps.headD ['-']
      match content s path with
      | (s, .error reason) =>
        if reason == "Is a directory" then s.grumble 1 (plainly path reason)
        else s.grumble 1 ("cannot open " ++ quote path ++ " for reading: " ++ reason)
      | (s, .ok t) =>
        let pieces := cut.pieces mark t
        match cut with
        | .chunks _ (some k) _ => s.print (pieces.getD (k - 1) [])
        | _ =>
          let source := if path == ['-'] then none
            else (s.disk.reach s.here path.toText).toOption
          putPieces launch o names source s 0 pieces

end Graft.Shell.Tool
