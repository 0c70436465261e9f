import Graft.Shell.Account
import Graft.Shell.Tool.File

/-!
# Programs for permissions and owners

`chmod` changes what may be done with files, `chown` and `chgrp` whom they belong to.
-/
namespace Graft.Shell.Tool

/-- What stands in a tree of directories, each directory before what is in it, or behind it. -/
private def treeAt (d : Disk) (isLast : Bool) : Nat → Location → List Location
  | 0, l => [l]
  | fuel + 1, l =>
    let names := ((d.list l).map fun e => Bytes.ofText e.1).mergeSort notAfter
    let inner := names.flatMap fun n => treeAt d isLast fuel (l ++ [Bytes.toText n])
    if isLast then inner ++ [l] else l :: inner

/-- What an operand stands for: what is in its tree, or itself. -/
private def allAt (s : State) (recurses isLast : Bool) (l : Location) : List Location :=
  if recurses && s.disk.isDirectory l then treeAt s.disk isLast s.disk.entries.length l else [l]

private def isLink (s : State) (l : Location) : Bool := s.disk.get? l matches some (.link _)

/-! ## Permissions -/

/-- Options that name permissions, so that they can be taken away without an operand. -/
private def isModeOption : Bytes → Bool
  | '-' :: c :: _ => "rwxXstugoa,+=01234567".toList.contains c
  | _ => false

/-- Where the permissions come from: changes, or another file. -/
private inductive Wanted where
  | changes (cs : List Mode.Change)
  | same (mode : Nat)

/-- Changes permissions and tells of it. A change without an operand fails where the mask kept it
from doing what it says. -/
private def changeMode (o : Options) (wanted : Wanted) (isOption : Bool) (s : State) (l : Location)
    (shown : Bytes) : State :=
  let before := s.modeOf l
  let isDirectory := s.disk.isDirectory l
  let apply (mask : Nat) : Nat := match wanted with
    | .changes cs => Mode.adjust isDirectory mask cs before
    | .same mode => mode
  let after := apply s.mask
  let inLetters (m : Nat) : String := Mode.octal m ++ " (" ++ String.ofList (Mode.text m) ++ ")"
  let s := s.setMode l after
  let s := if o.has "v" && before == after then
      s.print ("mode of " ++ quote shown ++ " retained as " ++ inLetters after ++ "\n").toList
    else if (o.has "v" || o.has "c") && before != after then
      s.print ("mode of " ++ quote shown ++ " changed from " ++ inLetters before ++ " to " ++
        inLetters after ++ "\n").toList
    else s
  let naive := apply 0
  if isOption && Mode.without after naive != 0 then
    s.grumble 1 (plainly shown ("new permissions are " ++ String.ofList (Mode.text after) ++
      ", not " ++ String.ofList (Mode.text naive)))
  else s

def chmod (s : State) (args : List Bytes) : State :=
  let front := args.takeWhile (· != ['-', '-'])
  let modes := front.filter isModeOption
  let others := front.filter (!isModeOption ·) ++ args.drop front.length
  withFlags ("c/changes f/silent/quiet v/verbose R/recursive /reference= /preserve-root " ++
    "/no-preserve-root") 1 s others fun o ps =>
    let given : Option Bytes :=
      if modes.isEmpty then none else some (Text.join [','] modes)
    let fail (s : State) (p : Bytes) (message : String) : State :=
      let s := if o.has "f" then s.finish 1 else s.grumble 1 message
      if o.has "v" then s.print (quote p ++ " could not be accessed\n").toList else s
    let run (wanted : Wanted) (s : State) (ps : List Bytes) : State :=
      ps.foldl (fun s p =>
        match s.disk.reach s.here p.toText with
        | .error f =>
          if (itemOf s p) matches .ok (_, .link _) then
            fail s p ("cannot operate on dangling symlink " ++ quote p)
          else fail s p ("cannot access " ++ quote p ++ ": " ++ f.reason)
        | .ok l =>
          (allAt s (o.has "R") false l).foldl (fun s m =>
            let shown := pathWithin p l m
            if isLink s m then
              if o.has "v" then
                s.print ("neither symbolic link " ++ quote shown ++
                  " nor referent has been changed\n").toList
              else s
            else changeMode o wanted given.isSome s m shown) s) s
    let byText (m : Bytes) (ps : List Bytes) : State :=
      match Mode.parse? m with
      | none => refuse s 1 ("invalid mode: " ++ quote m)
      | some cs => run (.changes cs) s ps
    match o.value? "reference", given, ps with
    | some _, some _, _ => refuse s 1 "cannot combine mode and --reference options"
    | some _, none, [] | none, _, [] => missing s 1
    | some r, none, ps =>
      match s.disk.reach s.here r.toText with
      | .ok l => run (.same (s.modeOf l)) s ps
      | .error f => s.grumble 1 ("failed to get attributes of " ++ quote r ++ ": " ++ f.reason)
    | none, some m, ps => byText m ps
    | none, none, [m] => refuse s 1 ("missing operand after " ++ quote m)
    | none, none, m :: ps => byText m ps

/-! ## Owners -/

/-- A user or group that a file is given, with the name by which it was asked for. -/
private structure Party where
  id : Nat
  name? : Option String

private def Party.shown (p : Party) : String := p.name?.getD (toString p.id)

/-- A number of a user or group. -/
private def partyNumber? (t : Bytes) : Option Nat :=
  let ds := if t.head? == some '+' then t.drop 1 else t
  if isDigits ds && ofDigits ds < 4294967295 then some (ofDigits ds) else none

private def groupByName? (t : Bytes) : Option Nat := Account.groups.lookup (String.ofList t)

/-- A group by name or number. -/
private def group? (t : Bytes) : Option Party :=
  match groupByName? t with
  | some n => some ⟨n, some (String.ofList t)⟩
  | none => (partyNumber? t).map fun n => ⟨n, none⟩

/-- Owners with a mark between the user and the group. A user before a mark at the end brings the
group of the account. -/
private def owners (mark : Char) (t : Bytes) : Except String (Option Party × Option Party) := do
  let name := t.takeWhile (· != mark)
  let isMarked : Bool := name.length < t.length
  let group := t.drop (name.length + 1)
  let account := Account.byName? name
  let user : Option Party ← match account with
    | some a => pure (some ⟨a.id, some a.name⟩)
    | none =>
      if name.isEmpty then pure none
      else if isMarked && group.isEmpty then throw "invalid spec"
      else
        match partyNumber? name with
        | some n => pure (some ⟨n, none⟩)
        | none => throw "invalid user"
  if group.isEmpty then
    let own := if isMarked then account.map fun a =>
        (⟨a.group, some ((Account.groupNameOf? a.group).getD (toString a.group))⟩ : Party)
      else none
    return (user, own)
  match group? group with
  | some g => return (user, some g)
  | none => throw "invalid group"

/-- Owners as they are written, and a warning where a point stands for a colon. -/
private def ownersOf (t : Bytes) :
    Except String ((Option Party × Option Party) × Option String) :=
  match owners ':' t with
  | .ok r => .ok (r, none)
  | .error message =>
    let other := if t.contains '.' && !t.contains ':' then (owners '.' t).toOption else none
    match other with
    | some r => .ok (r, some ("warning: '.' should be ':': " ++ quote t))
    | none => .error (message ++ ": " ++ quote t)

/-- A user and a group in a message. -/
private def pairText (user group : Option String) : String :=
  match user, group with
  | some u, some g => u ++ ":" ++ g
  | some u, none => u
  | none, some g => g
  | none, none => ""

/-- Tells what became of the owners of a file. -/
private def told (shown : Bytes) (user group : Option String) (old : Option (Nat × Nat))
    (isDone isChanged : Bool) : String :=
  let kind := if user.isSome || group.isNone then "ownership" else "group"
  let new := pairText user group
  let before := old.map fun (u, g) =>
    pairText (user.map fun _ => (Account.nameOf? u).getD (toString u))
      (group.map fun _ => (Account.groupNameOf? g).getD (toString g))
  let isNone := user.isNone && group.isNone
  let start := if !isDone then "failed to change " ++ kind ++ " of " ++ quote shown
    else if isChanged then "changed " ++ kind ++ " of " ++ quote shown
    else kind ++ " of " ++ quote shown ++ " retained"
  let rest := if isNone then ""
    else if !isDone then
      match before with
      | some b => " from " ++ b ++ " to " ++ new
      | none => " to " ++ new
    else if isChanged then " from " ++ before.getD "" ++ " to " ++ new
    else " as " ++ before.getD ""
  start ++ rest ++ "\n"

/-- How owners of files are changed. -/
private structure Handover where
  user : Option Party
  group : Option Party
  /-- The words for them in messages. -/
  userText : Option String
  groupText : Option String
  /-- Owners that a file must have. -/
  required : Option Party × Option Party

/-- Gives files to others. -/
private def handOver (o : Options) (h : Handover) (s : State) (ps : List Bytes) : State :=
  let recurses := o.has "R"
  let way := o.last? ["H", "L", "P"]
  let follows := if recurses && (way == none || way == some "P") then false
    else o.last? ["h", "dereference"] != some "h"
  let tell (s : State) (shown : Bytes) (old : Option (Nat × Nat)) (isDone isChanged : Bool) : State :=
    if o.has "v" || (o.has "c" && isDone && isChanged) then
      s.print (told shown h.userText h.groupText old isDone isChanged).toList
    else s
  let fail (s : State) (shown : Bytes) (message : String) : State :=
    let s := if o.has "f" then s.finish 1 else s.grumble 1 message
    tell s shown none false false
  let change (s : State) (shown : Bytes) (l : Location) : State :=
    let old := s.ownerOf l
    let isMeant := h.required.1.all (·.id == old.1) && h.required.2.all (·.id == old.2)
    let new := ((h.user.map (·.id)).getD old.1, (h.group.map (·.id)).getD old.2)
    let new := if isMeant then new else old
    tell (if old == new then s else s.setOwner l new) shown (some old) true (old != new)
  ps.foldl (fun s p =>
    match itemOf s p with
    | .error f => fail s p ("cannot access " ++ quote p ++ ": " ++ f.reason)
    | .ok (l, item) =>
      let isFollowed := item matches .link _ && (if recurses then way == some "H" || way == some "L"
        else follows)
      let top : Except Disk.Fault Location :=
        if isFollowed then s.disk.reach s.here p.toText else .ok l
      match top with
      | .error f => fail s p ("cannot dereference " ++ quote p ++ ": " ++ f.reason)
      | .ok top =>
        (allAt s recurses true top).foldl (fun s m =>
          let shown := pathWithin p top m
          if follows && isLink s m then
            match s.disk.reach s.here (Bytes.toText shown) with
            | .ok l => change s shown l
            | .error f => fail s shown ("cannot dereference " ++ quote shown ++ ": " ++ f.reason)
          else change s shown m) s) s

private def ownerFlags : String :=
  "c/changes f/silent/quiet v/verbose R/recursive h/no-dereference /dereference H L P " ++
    "/from= /reference= /preserve-root /no-preserve-root"

/-- Refuses options that contradict each other, or goes on. -/
private def withWay (o : Options) (s : State) (go : State) : State :=
  let way := o.last? ["H", "L", "P"]
  let last := o.last? ["h", "dereference"]
  if !o.has "R" then go
  else if (way == none || way == some "P") && last == some "dereference" then
    s.grumble 1 "-R --dereference requires either -H or -L"
  else go

/-- The owners of a file that is an example for others. -/
private def exampleOwners (s : State) (r : Bytes) (go : Nat × Nat → State) : State :=
  match s.disk.reach s.here r.toText with
  | .ok l => go (s.ownerOf l)
  | .error f => s.grumble 1 ("failed to get attributes of " ++ quote r ++ ": " ++ f.reason)

def chown (s : State) (args : List Bytes) : State :=
  withFlags ownerFlags 1 s args fun o ps =>
    withWay o s <|
      let required : Except String ((Option Party × Option Party) × Option String) :=
        match o.value? "from" with
        | some t => ownersOf t
        | none => .ok ((none, none), none)
      match required with
      | .error message => s.grumble 1 message
      | .ok (required, _) =>
        match o.value? "reference", ps with
        | some _, [] | none, [] => missing s 1
        | some r, ps =>
          exampleOwners s r fun (u, g) =>
            let user := (Account.nameOf? u).getD (toString u)
            let group := (Account.groupNameOf? g).getD (toString g)
            handOver o ⟨some ⟨u, some user⟩, some ⟨g, some group⟩, some user, some group, required⟩
              s ps
        | none, [t] => refuse s 1 ("missing operand after " ++ quote t)
        | none, t :: ps =>
          match ownersOf t with
          | .error message => s.grumble 1 message
          | .ok ((user, group), warning) =>
            let s := match warning with
              | some w => s.grumble s.status w
              | none => s
            let named := (user.bind (·.name?)).isSome
            /- A group alone by its name is told of as an owner without a user. -/
            let userText := if !named && (group.bind (·.name?)).isSome then some ""
              else user.map Party.shown
            handOver o ⟨user, group, userText, group.map Party.shown, required⟩ s ps

def chgrp (s : State) (args : List Bytes) : State :=
  withFlags ownerFlags 1 s args fun o ps =>
    withWay o s <|
      match o.value? "reference", ps with
      | some _, [] | none, [] => missing s 1
      | some r, ps =>
        exampleOwners s r fun (_, g) =>
          let group := (Account.groupNameOf? g).getD (toString g)
          handOver o ⟨none, some ⟨g, some group⟩, none, some group, (none, none)⟩ s ps
      | none, [t] => refuse s 1 ("missing operand after " ++ quote t)
      | none, t :: ps =>
        if t.isEmpty then handOver o ⟨none, none, none, none, (none, none)⟩ s ps
        else
          match group? t with
          | some g =>
            handOver o ⟨none, some g, none, some (String.ofList t), (none, none)⟩ s ps
          | none => s.grumble 1 ("invalid group: " ++ quote t)

end Graft.Shell.Tool
