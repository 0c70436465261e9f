import Graft.Shell.Tool.Awk.Run

/-!
# Reports

`awk` runs a report program over files.
-/
namespace Graft.Shell.Tool

namespace Awk

/-- What the command line asks for. -/
structure Request where
  /-- The texts of the program that were given, and the files that they are in. -/
  sources : List Bytes
  separator : Option Bytes
  assigned : List (Bytes × Bytes)
  operands : List Bytes

/-- Reads the arguments. -/
private def request : Nat → Request → List Bytes → Except String Request
  | 0, r, _ => .ok r
  | _, r, [] => .ok r
  | fuel + 1, r, a :: rest =>
    let lacks (c : Char) : Except String Request :=
      .error ("option -" ++ c.toString ++ " lacks argument")
    let value (c : Char) (more : Bytes) (f : Bytes → Except String Request) :
        Except String Request := do
      match more, rest with
      | [], [] => lacks c
      | [], v :: rest => request fuel (← f v) rest
      | v, rest => request fuel (← f v) rest
    match a with
    | ['-'] => .ok { r with operands := a :: rest }
    | ['-', '-'] => .ok { r with operands := rest }
    | '-' :: 'F' :: v =>
      value 'F' v fun v => .ok { r with separator := some (unescapeText (v.length + 1) [] v) }
    | '-' :: 'f' :: v => value 'f' v fun v => .ok { r with sources := r.sources ++ [v] }
    | '-' :: 'v' :: v =>
      value 'v' v fun v =>
        match Machine.assignment? v with
        | some p => .ok { r with assigned := r.assigned ++ [p] }
        | none => .error ("improper assignment: -v " ++ String.ofList v)
    | '-' :: 'W' :: v => value 'W' v fun _ => .ok r
    | '-' :: '-' :: _ => request fuel r rest
    | '-' :: c :: _ => .error ("not an option: -" ++ c.toString)
    | _ => .ok { r with operands := a :: rest }

/-- The state in which a program begins. -/
private def prepared (s : State) (r : Request) (p : Program) (operands : List Bytes) : Machine :=
  let words := s.called :: operands
  let arguments := words.foldl (fun ((t, n) : Table × Nat) a =>
    (t.set [] (.number (Float.ofNat n)) (.given a), n + 1)) (.empty, 0)
  let environment := (environment s).foldl (fun (t : Table) (k, v) =>
    t.set [] (.text k) (.given v)) .empty
  let text (t : String) : Slot := .scalar (.text t.toList)
  let number (n : Nat) : Slot := .scalar (.number (Float.ofNat n))
  let special : Array Slot :=
    #[number 0, number 0, number words.length, .unset, number 0, .table environment, text " ",
      text "\n", text " ", text "\n", .unset, .unset, text "\x1c", .table arguments.1, text "%.6g",
      text "%.6g"]
  let m : Machine := {
    state := s
    program := p
    shared := special ++ Array.replicate (p.names.size - special.size) .unset
    calls := #[]
    record := []
    isStale := false
    fields := none
    ranges := []
    pending := []
    size := 0
    outputs := []
    inputs := []
    main := none
    nextArgument := 1
    hasRead := false
    isCut := false
    regexes := ∅
    status := 0
    isEnding := false
    hasFailed := false
    returned := .unset
    seed := .number 0
    draws := 1 }
  let m := match r.separator with
    | some f => m.setVariable (.shared Special.fs) (.text f)
    | none => m
  r.assigned.foldl (fun m (name, v) => m.assignNamed name v) m

end Awk

open Awk in
def awk (launch : Launch) (s : State) (args : List Bytes) : State :=
  match request (args.length + 1) ⟨[], none, [], []⟩ args with
  | .error message => s.grumble 2 message
  | .ok r =>
    let (text, place, operands) : Except String Bytes × String × List Bytes :=
      match r.sources, r.operands with
      | [], [] => (.error "", "", [])
      | [], t :: ps => (.ok t, "", ps)
      | fs, ps =>
        let texts : Except String (List Bytes) := fs.mapM fun f =>
          match content s f with
          | (_, .ok t) => .ok t
          | (_, .error why) => .error ("cannot open \"" ++ String.ofList f ++ "\" (" ++ why ++ ")")
        (texts.map fun ts => ts.flatten, String.ofList (fs.getLastD []) ++ ": ", ps)
    match text with
    | .error "" => s.complain 2 "Usage: mawk [Options] [Program] [file ...]\n".toList
    | .error message => s.grumble 2 message
    | .ok text =>
      match Program.parse text with
      | .error flaws =>
        flaws.foldl (fun s f =>
          s.grumble 2 (if "unexpected character".toList.isPrefixOf f.message.toList then
            place ++ toString f.line ++ ": " ++ f.message
          else place ++ "line " ++ toString f.line ++ ": " ++ f.message)) s
      | .ok p =>
        let m := (prepared s r p operands).run launch
        m.state.finish m.status

end Graft.Shell.Tool
