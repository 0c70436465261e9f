import Graft.Shell.Tool.System

/-!
# Arguments from the input

`xargs` runs a command with arguments that it reads.
-/
namespace Graft.Shell.Tool

namespace Xargs

/-- An argument, and whether it is the last one of its line. -/
structure Item where
  text : Bytes
  isLast : Bool

private def unmatched (kind : String) : String :=
  "unmatched " ++ kind ++ " quote; by default quotes are special to xargs unless you use the " ++
    "-0 option"

/-- Reads arguments. Blanks and line ends divide them, unless quotes or backslashes are around; a
blank at the end of a line joins it with the next. -/
private def items : Nat → List Item → Option Bytes → Bytes → Except (List Item × String) (List Item)
  | 0, done, _, _ => .ok done.reverse
  | fuel + 1, done, current, t =>
    let close (isLast : Bool) : List Item :=
      match current with
      | some b => ⟨b.reverse, isLast⟩ :: done
      | none => done
    match t with
    | [] => .ok (close true).reverse
    | '\\' :: c :: r => items fuel done (some (c :: current.getD [])) r
    | '\\' :: [] => .error (done.reverse, "")
    | '\'' :: r | '"' :: r =>
      let mark := t.headD ' '
      let inside := r.takeWhile fun c => c != mark && c != '\n'
      match r.drop inside.length with
      | c :: rest =>
        if c == mark then items fuel done (some (inside.reverse ++ current.getD [])) rest
        else .error (done.reverse, unmatched (if mark == '"' then "double" else "single"))
      | [] => .error (done.reverse, unmatched (if mark == '"' then "double" else "single"))
    | '\n' :: r => items fuel (close true) none r
    | c :: r =>
      if c == ' ' || c == '\t' then items fuel (close false) none r
      else items fuel done (some (c :: current.getD [])) r

/-- Reads lines as they are, without the blanks before them. -/
private def wholeLines : Nat → List Item → Bytes → Except (List Item × String) (List Item)
  | 0, done, _ => .ok done.reverse
  | fuel + 1, done, t =>
    match t.dropWhile fun c => c == ' ' || c == '\t' || c == '\n' with
    | [] => .ok done.reverse
    | t =>
      let line := t.takeWhile (· != '\n')
      match items (2 * line.length + 2) [] none (line.map fun c =>
          if c == ' ' then Char.ofNat 1 else if c == '\t' then Char.ofNat 2 else c) with
      | .error (_, m) => .error (done.reverse, m)
      | .ok parts =>
        let text := (parts.map (·.text)).flatten.map fun c =>
          if c == Char.ofNat 1 then ' ' else if c == Char.ofNat 2 then '\t' else c
        wholeLines fuel (⟨text, true⟩ :: done) (t.drop line.length)

/-- Reads arguments that a sign divides. -/
private def divided (mark : Char) (t : Bytes) : List Item :=
  let parts := Bytes.split mark t
  let parts := if parts.getLast? == some [] then parts.dropLast else parts
  parts.map fun p => ⟨p, true⟩

/-- The sign that a text stands for. -/
private def markOf (t : Bytes) : Char :=
  match t with
  | '\\' :: r => (Format.escape r).1
  | c :: _ => c
  | [] => Char.ofNat 0

/-- How many arguments, lines and bytes a command may get. -/
structure Limits where
  arguments : Option Nat
  lines : Option Nat
  bytes : Nat

/-- Divides arguments into groups, one for each command. Fails if one alone is too long. -/
private def batches (limits : Limits) (base : Nat) :
    List Item → List Bytes → Nat → Nat → Nat → List (List Bytes) →
      Except (List (List Bytes)) (List (List Bytes))
  | [], [], _, _, _, done => .ok done.reverse
  | [], current, _, _, _, done => .ok (current.reverse :: done).reverse
  | i :: rest, current, count, lines, size, done =>
    let cost := i.text.length + 1
    let isFull := limits.arguments.any (· ≤ count) || limits.lines.any (· ≤ lines) ||
      limits.bytes < size + cost
    let lineEnds := if i.isLast then 1 else 0
    if isFull && !current.isEmpty then
      if limits.bytes < base + cost then .error (current.reverse :: done).reverse
      else batches limits base rest [i.text] 1 lineEnds (base + cost) (current.reverse :: done)
    else if limits.bytes < size + cost then .error done.reverse
    else
      batches limits base rest (i.text :: current) (count + 1) (lines + lineEnds) (size + cost) done

/-- Puts an argument wherever a text stands. -/
private def replaced (mark new : Bytes) : Nat → Bytes → Bytes
  | 0, t => t
  | _, [] => []
  | fuel + 1, c :: r =>
    if !mark.isEmpty && mark.isPrefixOf (c :: r) then
      new ++ replaced mark new fuel ((c :: r).drop mark.length)
    else c :: replaced mark new fuel r

/-- Runs a command. Gives a status that ends the run, if there is one. -/
private def runOne (launch : Launch) (talks : Bool) (s : State) (words : List Bytes) :
    State × Option Nat :=
  let name := words.headD []
  let status := s.status
  let s := if talks then
      let line := Text.join [' '] (words.map fun w => (quoteIfWild w).toList) ++ ['\n']
      { s.write 2 line with lost := s.lost }
    else s
  let stop (s : State) (n : Nat) (message : String) : State × Option Nat :=
    (s.grumble n (String.ofList name ++ ": " ++ message), some n)
  match obstacle? s name with
  | some f => stop s (if f == .notFound then 127 else 126) f.reason
  | none =>
    let (closed, i) := s.openSource ⟨.null, 0, false, true, true⟩
    let (after, e) := launch.run (closed.setDescriptor 0 i) words
    let after := { after with descriptors := s.descriptors }
    match e with
    | .exited 0 => (after.finish status, none)
    | .exited 255 => stop after 124 "exited with status 255; aborting"
    | .exited _ => (after.finish 123, none)
    | .killed n => stop after 125 ("terminated by signal " ++ toString n)

private def flags : String :=
  "0/null a=/arg-file d=/delimiter E=/eof n=/max-args L=/max-lines l?/max-lines I=/replace i? " ++
    "s=/max-chars P=/max-procs r/no-run-if-empty t/verbose p/interactive x/exit o/open-tty e? " ++
    "/process-slot-var= /show-limits"

/-- How many bytes a command may get if nothing else is said. -/
private def usualBytes : Nat := 131072

end Xargs

open Xargs in
def xargs (launch : Launch) (s : State) (args : List Bytes) : State :=
  withFirstFlags flags 1 s args fun o ps =>
    let command := if ps.isEmpty then ["echo".toList] else ps
    let number (key : Char) : Except String (Option Nat) :=
      match o.value? key.toString with
      | none => .ok none
      | some v =>
        if !isDigits v then
          .error ("invalid number \"" ++ String.ofList v ++ "\" for -" ++ key.toString ++ " option")
        else if ofDigits v == 0 && key != 'P' then
          .error ("value 0 for -" ++ key.toString ++ " option should be >= 1")
        else .ok (some (ofDigits v))
    let numbers : Except String (Option Nat × Option Nat × Option Nat) := do
      return (← number 'n', ← number 'L', ← number 's')
    match numbers with
    | .error message => refuse s 1 message
    | .ok (count, lines, bytes) =>
      let mark := match o.last? ["I", "i"] with
        | some "I" => o.value? "I"
        | some _ => some ((o.value? "i").getD ['\x7b', '\x7d'])
        | none => none
      let lines := if o.has "l" then some (((o.value? "l").map ofDigits).getD 1) else lines
      let last := o.last? ["n", "L", "I", "i", "l"]
      let s := if o.has "n" && mark.isSome && last != some "n" then
          (s.grumble 0 ("warning: options --max-args and --replace/-I/-i are mutually exclusive, " ++
            "ignoring previous --max-args value")).finish 0
        else s
      let source := (o.value? "a").getD ['-']
      let base := (command.map fun w => w.length + 1).foldl (· + ·) 0
      let limit := bytes.getD usualBytes
      if limit < base then
        s.grumble 1 "cannot fit single argument within argument list size limit"
      else match content s source with
      | (s, .error reason) =>
        s.grumble 1 ("Cannot open input file " ++ quote source ++ ": " ++ reason)
      | (s, .ok t) =>
        let read : Except (List Item × String) (List Item) :=
          match o.last? ["0", "d"] with
          | some "0" => .ok (divided (Char.ofNat 0) t)
          | some _ => .ok (divided (markOf ((o.value? "d").getD [])) t)
          | none =>
            if mark.isSome then wholeLines (t.length + 1) [] t else items (2 * t.length + 2) [] none t
        let (found, wrong) : List Item × Option String := match read with
          | .ok is => (is, none)
          | .error (is, m) => (is, some m)
        let found := match o.value? "E" with
          | some e => found.takeWhile (·.text != e)
          | none => found
        let talks := o.has "t"
        let runs : List (List Bytes) × Option String := match mark with
          | some m =>
            (found.map fun i => command.map fun w => replaced m i.text (w.length + 1) w, none)
          | none =>
            let count := if last == some "L" || last == some "l" then none else count
            let lines := if count.isSome then none else lines
            match batches ⟨count, lines, limit⟩ base found [] 0 0 base [] with
            | .ok gs => (gs.map (command ++ ·), none)
            | .error gs => (gs.map (command ++ ·), some "argument line too long")
        let isBare := found.isEmpty && wrong.isNone && mark.isNone && !o.has "r"
        let all := if isBare then [command] else runs.1
        let all := if wrong.isSome then
            (if count.isSome || lines.isSome || mark.isSome then all else [])
          else all
        let (s, stopped) := all.foldl (fun ((s, stopped) : State × Bool) words =>
          if stopped || s.halt.isSome then (s, true)
          else
            match runOne launch talks s words with
            | (s, none) => (s, false)
            | (s, some n) => (s.finish n, true)) (s, false)
        if stopped then s
        else
          match wrong.orElse fun _ => runs.2 with
          | some m => s.grumble 1 m
          | none => s

end Graft.Shell.Tool
