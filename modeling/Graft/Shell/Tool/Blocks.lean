import Graft.Shell.Tool.Transfer

/-!
# Programs for blocks of bytes

`dd` copies blocks, `install` copies files and sets permissions.
-/
namespace Graft.Shell.Tool

/-! ## Copying blocks -/

/-- A number of bytes or blocks; factors may stand between crosses. -/
private def blockCount? (t : Bytes) : Option Nat :=
  let parts := (Bytes.split 'x' t).map fun (p : Bytes) =>
    if p.head?.any Char.isDigit then sized? p else none
  parts.foldl (fun n p => n.bind fun n => p.map (n * ·)) (some 1)

private def ddNames : List String :=
  ["if", "of", "bs", "ibs", "obs", "cbs", "count", "skip", "iseek", "seek", "oseek", "conv",
    "status",
    "iflag", "oflag"]

/-- How many whole blocks and how many parts of one there are. -/
private def recordCounts (size block : Nat) : String :=
  toString (size / block) ++ "+" ++ (if size % block == 0 then "0" else "1")

private def swapped : Bytes → Bytes
  | a :: b :: r => b :: a :: swapped r
  | r => r

/-- Every block filled up with zeros. -/
private def filledUp (block : Nat) (t : Bytes) : Bytes :=
  t ++ List.replicate ((block - t.length % block) % block) (Char.ofNat 0)

def dd (s : State) (args : List Bytes) : State :=
  let pairs := args.map fun a =>
    let name := a.takeWhile (· != '=')
    (String.ofList name, a.drop (name.length + 1), a)
  let odd := pairs.find? fun (name, _, a) => !(ddNames.contains name && a.contains '=')
  let get (name : String) : Option Bytes :=
    (pairs.reverse.find? (·.1 == name)).map (·.2.1)
  let sizes := ["bs", "ibs", "obs", "cbs", "count", "skip", "iseek", "seek", "oseek"]
  let bad := pairs.find? fun (name, v, _) => sizes.contains name && ((blockCount? v).isNone ||
    ((name == "bs" || name == "ibs" || name == "obs") && blockCount? v == some 0))
  match odd, bad with
  | some (_, _, a), _ => refuse s 1 ("unrecognized operand " ++ quote a)
  | _, some (_, v, _) => s.grumble 1 ("invalid number: " ++ quote v)
  | none, none =>
    let number (names : List String) : Option Nat := names.findSome? fun n =>
      (get n).bind blockCount?
    let inBlock := (number ["bs", "ibs"]).getD 512
    let outBlock := (number ["bs", "obs"]).getD 512
    let flags (name : String) : List String :=
      (Bytes.split ',' ((get name).getD [])).map String.ofList
    let conversions := flags "conv"
    let inBytes (flag : String) (block n : Nat) : Nat :=
      if (flags "iflag" ++ flags "oflag").contains flag then n else n * block
    let skip := inBytes "skip_bytes" inBlock ((number ["skip", "iseek"]).getD 0)
    let limit := (number ["count"]).map (inBytes "count_bytes" inBlock)
    let known :=
      ["", "ascii", "ebcdic", "ibm", "block", "unblock", "lcase", "ucase", "sparse", "swab",
      "sync", "excl", "nocreat", "notrunc", "noerror", "fdatasync", "fsync"]
    match conversions.find? (!known.contains ·) with
    | some c => refuse s 1 ("invalid conversion: " ++ quote c.toList)
    | none =>
      let wanted (t : Bytes) : Bytes := match limit with
        | some n => (t.drop skip).take n
        | none => t.drop skip
      let source : State × Except String Bytes := match get "if" with
        | none =>
          match s.readable 0 with
          | .ok (t, cut) =>
            let isShort := match limit with
              | some n => decide (t.length < skip + n)
              | none => true
            let taken := match limit with
              | some n => min t.length (skip + n)
              | none => t.length
            ({ s.advance 0 taken with starved := s.starved || (cut && isShort) }, .ok (wanted t))
          | .error reason => (s, .error ("error reading 'standard input': " ++ reason))
        | some p =>
          match content s p with
          | (s, .ok t) => (s, .ok (wanted t))
          | (s, .error reason) =>
            if reason == "Is a directory" then
              (s, .error ("error reading " ++ quote p ++ ": " ++ reason))
            else (s, .error ("failed to open " ++ quote p ++ ": " ++ reason))
      match source with
      | (s, .error message) => s.grumble 1 message
      | (s, .ok data) =>
        let size := data.length
        let data := if conversions.contains "ucase" then data.map Char.toUpper
          else if conversions.contains "lcase" then data.map Char.toLower else data
        let data := if conversions.contains "swab" then swapped data else data
        let data := if conversions.contains "sync" then filledUp inBlock data else data
        let s : State × Option String := match get "of" with
          | none => (s.print data, none)
          | some p =>
            match device? p with
            | some .output => (s.print data, none)
            | some _ => (s, none)
            | none =>
              match s.place p with
              | .error f => (s, some ("failed to open " ++ quote p ++ ": " ++ f.reason))
              | .ok l =>
                let start := inBytes "seek_bytes" outBlock ((number ["seek", "oseek"]).getD 0)
                let old := (State.bytesAt s.disk l).getD []
                let old := if conversions.contains "notrunc" then old else old.take start
                (s.store l false (State.overwrite old start data), none)
        match s with
        | (s, some message) => s.grumble 1 message
        | (s, none) =>
          let counts := recordCounts size inBlock ++ " records in\n" ++
            recordCounts data.length outBlock ++
            " records out"
          let bytes := toString data.length ++ (if data.length == 1 then " byte" else " bytes") ++
            " copied, 0.0001 s, 1.0 MB/s"
          match (get "status").map String.ofList with
          | some "none" => s
          | some "noxfer" => s.complain s.status counts.toList
          | _ => s.complain s.status (counts ++ "\n" ++ bytes).toList

/-! ## Installing -/

def install (s : State) (args : List Bytes) : State :=
  withFlags ("b c C d/directory D g=/group m=/mode o=/owner p s S= t=/target-directory " ++
    "T/no-target-directory v/verbose") 1 s args fun o ps =>
    let mode := ((o.value? "m").bind fun m => Mode.of? false 0 m 0).getD 0o755
    let setMode (s : State) (p : Bytes) : State := match s.disk.reach s.here p.toText with
      | .ok l => s.setMode l mode
      | .error _ => s
    if o.has "d" then
      let mask := s.mask
      let after := { mkdir { s with mask := 0o022 } ("-p".toList :: "--".toList :: ps) with mask }
      if after.status == 0 then ps.foldl setMode after else after
    else
      match o.value? "t", ps with
      | _, [] => refuse s 1 "missing file operand"
      | none, [one] => refuse s 1 ("missing destination file operand after " ++ quote one)
      | target, ps =>
        let goal := target.getD (ps.getLast?.getD [])
        let sources := if target.isSome then ps else ps.dropLast
        let s := if o.has "D" then
            mkdir s ["-p".toList, "--".toList, if target.isSome then goal else parentPath goal]
          else s
        let isInside := target.isSome || s.disk.leadsToDirectory s.here goal.toText
        sources.foldl (fun s p =>
          let final := if isInside then
              (if goal.getLast? == some '/' then goal else goal ++ ['/']) ++ lastName p
            else goal
          let after :=
            cp { s with status := 0 } ["--remove-destination".toList, "--".toList, p, final]
          if after.status == 0 then
            let after := setMode after final
            let after := if o.has "v" then
                after.print (quote p ++ " -> " ++ quote final ++ "\n").toList
              else after
            after.finish s.status
          else after) s

def unlink (s : State) (args : List Bytes) : State :=
  withFlags "" 1 s args fun _ ps =>
    match ps with
    | [] => missing s 1
    | [p] =>
      match itemOf s p with
      | .ok (_, .directory) => s.grumble 1 ("cannot unlink " ++ quote p ++ ": Is a directory")
      | .ok (l, _) => s.remove l
      | .error f => s.grumble 1 ("cannot unlink " ++ quote p ++ ": " ++ f.reason)
    | _ :: extra :: _ => refuse s 1 ("extra operand " ++ quote extra)

def link (s : State) (args : List Bytes) : State :=
  withFlags "" 1 s args fun _ ps =>
    match ps with
    | [] => missing s 1
    | [p] => refuse s 1 ("missing operand after " ++ quote p)
    | [p, q] =>
      let cannot (f : Disk.Fault) : State :=
        s.grumble 1 ("cannot create link " ++ quote q ++ " to " ++ quote p ++ ": " ++ f.reason)
      match itemOf s p, entryOf s q with
      | .ok (k, _), .ok l =>
        if (s.disk.get? l).isSome then cannot .alreadyExists else s.join k l
      | .error f, _ | _, .error f => cannot f
    | _ :: _ :: extra :: _ => refuse s 1 ("extra operand " ++ quote extra)

end Graft.Shell.Tool
