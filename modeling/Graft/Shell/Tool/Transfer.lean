import Graft.Shell.Tool.File

/-!
# Copying, moving and linking

`cp`, `mv` and `ln` put files in place of others. What they replace can be kept under the name of a
backup.
-/
namespace Graft.Shell.Tool

namespace Transfer

/-! ## Backups -/

/-- How backups are named: with an ending, with a number, or as those that are there already. -/
inductive Backup where
  | simple
  | numbered
  | existing
  deriving DecidableEq, Repr

/-- The kind of backup that a word names, or that there are none. -/
private def backupKind? (t : Bytes) : Option (Option Backup) :=
  match String.ofList t with
  | "none" | "off" => some none
  | "simple" | "never" => some (some .simple)
  | "existing" | "nil" => some (some .existing)
  | "numbered" | "t" => some (some .numbered)
  | _ => none

/-- The kind of backup that is asked for, with its ending. -/
def backup (s : State) (o : Options) : Except String (Option (Backup × Bytes)) :=
  let ending :=
    (o.value? "S").getD (((s.textOf "SIMPLE_BACKUP_SUFFIX").filter (!·.isEmpty)).getD ['~'])
  if !(o.has "b" || o.has "S" || o.has "backup") then .ok none
  else
    let wanted := (o.value? "backup") <|> s.textOf "VERSION_CONTROL"
    match wanted with
    | none => .ok (some (.existing, ending))
    | some t =>
      match backupKind? t with
      | some kind => .ok (kind.map (·, ending))
      | none =>
        .error ("invalid argument " ++ quote t ++ " for 'backup type'\nValid arguments are:\n" ++
          "  - 'none', 'off'\n  - 'simple', 'never'\n  - 'existing', 'nil'\n  - 'numbered', 't'")

/-- The number of a numbered backup of a name. -/
private def backupNumber? (name t : Bytes) : Option Nat :=
  let front := name ++ ['.', '~']
  if front.isPrefixOf t && t.getLast? == some '~' then
    let ds := (t.drop front.length).dropLast
    if isDigits ds then some (ofDigits ds) else none
  else none

/-- What is added to a name for its backup. -/
private def backupEnding (s : State) (l : Location) (kind : Backup) (ending : Bytes) : Bytes :=
  let name := Bytes.ofText (l.getLast?.getD [])
  let numbers := (namesAt s.disk l.dropLast).filterMap (backupNumber? name)
  if kind == .simple || kind == .existing && numbers.isEmpty then ending
  else ['.', '~'] ++ (toString (numbers.foldl max 0 + 1)).toList ++ ['~']

/-- Keeps what stands at a location as a backup. Says what was added to its name. -/
private def keepBackup (s : State) (l : Location) : Option (Backup × Bytes) → State × Option Bytes
  | none => (s, none)
  | some (kind, ending) =>
    if (s.disk.get? l).isNone then (s, none)
    else
      let added := backupEnding s l kind ending
      let name := Bytes.ofText (l.getLast?.getD []) ++ added
      (s.rename l (l.dropLast ++ [name.toText]), some added)

/-! ## Sources and targets -/

/-- The sources and the target that operands name: the target is a directory if there are several
sources. -/
private def operands (s : State) (o : Options) (ps : List Bytes) :
    Except State (List Bytes × Bytes × Bool) :=
  let refused (message : String) : Except State (List Bytes × Bytes × Bool) :=
    .error (refuse s 1 message)
  match o.value? "t", ps with
  | _, [] => refused "missing file operand"
  | some target, sources => .ok (sources, target, true)
  | none, [one] => refused ("missing destination file operand after " ++ quote one)
  | none, ps =>
    let target := ps.getLast?.getD []
    let sources := ps.dropLast
    if o.has "T" then
      match sources with
      | _ :: extra :: _ => refused ("extra operand " ++ quote (ps.getD 2 extra))
      | _ => .ok (sources, target, false)
    else if isDirectoryPath s target then .ok (sources, target, true)
    else if sources.length > 1 then
      let reason := match s.disk.reach s.here target.toText with
        | .ok _ => "Not a directory"
        | .error f => f.reason
      .error (s.grumble 1 ("target " ++ quote target ++ ": " ++ reason))
    else .ok (sources, target, false)

private def behind (directory name : Bytes) : Bytes :=
  (if directory.getLast? == some '/' then directory else directory ++ ['/']) ++ name

/-- The path of a source in the target. -/
private def targetOf (inside : Bool) (target source : Bytes) : Bytes :=
  if inside then behind target (lastName source) else target

private def shownPair (a b : Bytes) : String := quote a ++ " -> " ++ quote b

/-- Which files are replaced. -/
inductive Update where
  | all
  | none
  | older
  deriving DecidableEq, Repr

private def updateOf (o : Options) : Except String Update :=
  if !(o.has "u" || o.has "update") then .ok .all
  else
    match (o.value? "u") <|> (o.value? "update") with
    | Option.none => .ok .older
    | some t =>
      match String.ofList t with
      | "all" => .ok .all
      | "none" => .ok .none
      | "older" => .ok .older
      | _ =>
        .error ("invalid argument " ++ quote t ++ " for '--update'\nValid arguments are:\n" ++
          "  - 'all'\n  - 'none'\n  - 'older'")

/-- Asks whether a file is replaced. -/
private def agrees (s : State) (asks : Bool) (target : Bytes) : State × Bool :=
  if asks then confirm s ("overwrite " ++ quote target ++ "?") else (s, true)

/-! ## Copying -/

/-- How files are copied. -/
structure Manner where
  recursive : Bool
  /-- Links are copied, not what they lead to. -/
  keepsLinks : Bool
  /-- Links that are given are followed nevertheless. -/
  followsGiven : Bool
  keepsMode : Bool
  /-- Permissions are not copied at all. -/
  dropsMode : Bool
  keepsTime : Bool
  keepsOld : Bool
  asks : Bool
  removes : Bool
  makesNames : Bool
  makesLinks : Bool
  talks : Bool
  update : Update
  backup : Option (Backup × Bytes)

private def mannerOf (s : State) (o : Options) : Except String Manner := do
  let recursive := o.has "r" || o.has "R" || o.has "a"
  let isArchive := o.has "a"
  let kinds := (o.values "preserve").flatMap (Bytes.split ',')
  let keeps (kind : String) : Bool :=
    isArchive || o.has "p" || (o.has "preserve" && kinds.isEmpty) ||
      kinds.contains kind.toList || kinds.contains "all".toList
  let drops := ((o.values "no-preserve").flatMap (Bytes.split ',')).contains "mode".toList
  let follows := o.last? ["L", "P", "d", "a", "H"]
  return {
    recursive
    keepsLinks := match follows with
      | some "L" => false
      | some "H" => true
      | some _ => true
      | none => recursive
    followsGiven := follows == some "H"
    keepsMode := keeps "mode" && !drops
    dropsMode := drops
    keepsTime := keeps "timestamps"
    keepsOld := o.last? ["n", "i", "f"] == some "n"
    asks := o.last? ["n", "i"] == some "i"
    removes := o.has "remove-destination"
    makesNames := o.has "l"
    makesLinks := o.has "s"
    talks := o.has "v"
    update := ← updateOf o
    backup := ← backup s o }

/-- Gives a copy the permissions and the time that it gets from its source. A device has no place of
its own, and everybody may read and write it. -/
private def dress (m : Manner) (s : State) (isNew : Bool) (l copy : Location) : State :=
  let mode := if l.isEmpty then 0o666 else s.modeOf l
  let s := if m.keepsMode then s.setMode copy mode
    else if isNew && !m.dropsMode && s.modeOf copy != mode &&& 0o777 - (mode &&& s.mask) then
      s.setMode copy ((mode &&& 0o777) - (mode &&& 0o777 &&& s.mask))
    else s
  if m.keepsTime then s.stampAs copy (s.changed l) else s

/-- Copies one file, link or directory, without what is in it. -/
private def copyItem (m : Manner) (s : State) (source target : Bytes) (l : Location)
    (item : Disk.Item) : State × Option String :=
  match entryOf s target with
  | .error f =>
    let what := match item with
      | .directory => "directory "
      | .link _ => "symbolic link "
      | .file .. => "regular file "
    let reason := if target.getLast? == some '/' && item != .directory then "Not a directory"
      else f.reason
    (s, some ("cannot create " ++ what ++ quote target ++ ": " ++ reason))
  | .ok entry =>
    let reached := (s.disk.reach s.here target.toText).toOption
    let goal := reached.getD entry
    let there := s.disk.get? goal
    let say (s : State) (added : Option Bytes) : State :=
      if !m.talks then s
      else
        let note := match added with
          | some t => " (backup: " ++ quote (target ++ t) ++ ")"
          | none => ""
        s.print (shownPair source target ++ note ++ "\n").toList
    if item != .directory && target.getLast? == some '/' && there.isNone then
      (s, some ("cannot create regular file " ++ quote target ++ ": Not a directory"))
    else if there.isSome && s.isSame l goal && !l.isEmpty then
      if m.makesNames && l != goal then (s, none)
      else (s, some (quote source ++ " and " ++ quote target ++ " are the same file"))
    else
      match item, there with
      | .directory, some (.file ..) | .directory, some (.link _) =>
        (s, some ("cannot overwrite non-directory " ++ quote target ++ " with directory " ++
          quote source))
      | .directory, some .directory => (s, none)
      | .directory, none =>
        let s := (s.setDisk (s.disk.set entry .directory)).stamp entry
        (dress m (say s none) true l entry, none)
      | _, some .directory =>
        (s, some ("cannot overwrite directory " ++ quote target ++ " with non-directory"))
      | _, _ =>
        let isThere := (s.disk.get? entry).isSome
        let isStale := match m.update with
          | .all => true
          | .none => !isThere
          | .older => !isThere || s.changed goal < s.changed l
        if !isStale || isThere && m.keepsOld then (s, none)
        else
          let (s, agreed) := agrees s (isThere && m.asks) target
          if !agreed then (s, some "")
          else
            let (s, added) := keepBackup s entry m.backup
            let s := if m.removes && isThere && added.isNone then s.remove entry else s
            let isThere := (s.disk.get? entry).isSome
            if m.makesNames then
              if isThere && !m.removes then
                (s, some ("cannot create hard link " ++ quote target ++ " to " ++ quote source ++
                  ": File exists"))
              else (say (s.join l entry) added, none)
            else if m.makesLinks then
              if source.head? != some '/' && entry.dropLast != s.here then
                (s, some (quoteIfWild target ++
                  ": can make relative symbolic links only in current directory"))
              else if isThere then
                (s, some ("cannot create symbolic link " ++ quote target ++ " to " ++
                  quote source ++ ": File exists"))
              else (say (s.setDisk (s.disk.set entry (.link source.toText))) added, none)
            else
              match item, s.disk.get? entry, reached with
              | .link t, old, _ =>
                let s := if old.isSome then s.remove entry else s
                (say ((s.setDisk (s.disk.set entry (.link t))).stamp entry) added, none)
              | _, some (.link _), none =>
                (s, some ("not writing through dangling symlink " ++ quote target))
              | .file content _, old, _ =>
                let goal := if old.isSome then goal else entry
                let s := s.store goal false content.bytes
                (say (dress m s old.isNone l goal) added, none)
              | .directory, _, _ => (s, none)

/-- Copies a directory with all that is in it. What lies in the target is not copied. -/
private def copyTree (m : Manner) (s : State) (source target : Bytes) (l : Location) :
    State × Option String :=
  match (s.disk.reach s.here target.toText).toOption <|> (entryOf s target).toOption with
  | none => copyItem m s source target l .directory
  | some goal =>
    let isInside (k : Location) : Bool := k.isWithin l && !k.isWithin goal
    let inner := (s.disk.entries.filter fun e => isInside e.1 && e.1 != l).mergeSort fun a b =>
      Location.compare a.1 b.1 != .gt
    match copyItem m s source target l .directory with
    | (s, some message) => (s, some message)
    | (s, none) =>
      let s := inner.foldl (fun s (k, item) =>
        match copyItem m s (pathWithin source l k) (pathWithin target l k) k item with
        | (s, none) => s
        | (s, some message) => if message.isEmpty then s.finish 1 else s.grumble 1 message) s
      if goal.isWithin l then
        (s, some ("cannot copy a directory, " ++ quote source ++ ", into itself, " ++ quote target))
      else (s, none)

private def copyOne (m : Manner) (s : State) (source target : Bytes) : State × Option String :=
  let found : Except Disk.Fault (Location × Disk.Item) :=
    if m.keepsLinks && !m.followsGiven then itemOf s source
    else
      match device? source with
      | some _ => .ok ([], .file (.raw []) false)
      | none => do
        let l ← s.disk.reach s.here source.toText
        match s.disk.get? l with
        | some item => .ok (l, item)
        | none => .error .notFound
  match found, device? target with
  | .error f, _ => (s, some ("cannot stat " ++ quote source ++ ": " ++ f.reason))
  | .ok (_, .file content _), some .output => (s.print content.bytes, none)
  | .ok (_, .file ..), some _ => (s, none)
  | .ok (l, item), _ =>
    if item == .directory && !m.recursive then
      (s, some ("-r not specified; omitting directory " ++ quote source))
    else if (s.disk.reach s.here target.toText) matches .error .notDirectory then
      (s, some ("cannot stat " ++ quote target ++ ": Not a directory"))
    else if item == .directory then copyTree m s source target l
    else copyItem m s source target l item

/-- Makes the directories above a path in the target, like those above the source. -/
private def copyParents (m : Manner) (s : State) (source target : Bytes) :
    State × Option String :=
  let names := (Bytes.split '/' (parentPath source)).filter fun n => !n.isEmpty && n != ['.']
  let root := if source.head? == some '/' then ['/'] else []
  (List.range names.length).foldl (fun ((s, failed) : State × Option String) n =>
    if failed.isSome then (s, failed)
    else
      let part := Text.join ['/'] (names.take (n + 1))
      let p := root ++ part
      match s.disk.reach s.here (Bytes.toText p) with
      | .error f => (s, some ("failed to get attributes of " ++ quote p ++ ": " ++ f.reason))
      | .ok l =>
        let made := behind target part
        if isDirectoryPath s made then (s, none)
        else
          match entryOf s made with
          | .error f => (s, some ("cannot make directory " ++ quote made ++ ": " ++ f.reason))
          | .ok k =>
            let s := dress m ((s.setDisk (s.disk.set k .directory)).stamp k) true l k
            (if m.talks then s.print (p ++ " -> ".toList ++ made ++ ['\n']) else s, none))
    (s, none)

end Transfer

open Transfer

/-- Does something for each source. A failure without words only counts. -/
private def forEachSource (s : State) (ps : List Bytes)
    (f : State → Bytes → State × Option String) : State :=
  ps.foldl (fun s p =>
    match f s p with
    | (s, none) => s
    | (s, some message) => if message.isEmpty then s.finish 1 else s.grumble 1 message) s

def cp (s : State) (args : List Bytes) : State :=
  withFlags ("a/archive b d f/force i/interactive H l/link L/dereference n/no-clobber " ++
    "P/no-dereference p r/recursive R s/symbolic-link S=/suffix t=/target-directory " ++
    "T/no-target-directory u v/verbose x/one-file-system Z /update? /preserve? /no-preserve= " ++
    "/parents /backup? /remove-destination /sparse= /reflink? /attributes-only " ++
    "/strip-trailing-slashes /debug /copy-contents") 1 s args fun o ps =>
    match mannerOf s o with
    | .error message => refuse s 1 message
    | .ok m =>
      let s := if o.has "n" then
          s.grumble 0 ("warning: behavior of -n is non-portable and may change in future; " ++
            "use --update=none instead")
        else s
      let m := if m.makesNames && o.has "f" then { m with removes := true } else m
      match operands s o ps with
      | .error s => s
      | .ok (sources, target, inside) =>
        if o.has "parents" then
          if !inside then refuse s 1 "with --parents, the destination must be a directory"
          else
            forEachSource s sources fun s p =>
              match copyParents m s p target with
              | (s, none) => copyOne m s p (behind target (p.dropWhile (· == '/')))
              | failed => failed
        else forEachSource s sources fun s p => copyOne m s p (targetOf inside target p)

/-! ## Moving -/

private def moveOne (o : Options) (u : Update) (b : Option (Backup × Bytes)) (s : State)
    (source target : Bytes) : State × Option String :=
  match itemOf s source with
  | .error f => (s, some ("cannot stat " ++ quote source ++ ": " ++ f.reason))
  | .ok (l, item) =>
    let cannot (f : String) : State × Option String :=
      (s, some ("cannot move " ++ quote source ++ " to " ++ quote target ++ ": " ++ f))
    match entryOf s target with
    | .error f => cannot f.reason
    | .ok m =>
      let there := s.disk.get? m
      let leadsThere := match item with
        | .link _ => (s.disk.reach s.here source.toText).toOption == some m
        | _ => false
      if l == m || leadsThere then
        (s, some (quote source ++ " and " ++ quote target ++ " are the same file"))
      else if m.isWithin l then
        (s, some ("cannot move " ++ quote source ++ " to a subdirectory of itself, " ++
          quote target))
      else if there.isSome && o.last? ["n", "i", "f"] == some "n" then
        (s, some ("not replacing " ++ quote target))
      else if there.isSome && u == .none then (s, none)
      else if there.isSome && u == .older && !(s.changed m < s.changed l) then (s, none)
      else if item == .directory && there.isSome && there != some .directory then
        (s, some ("cannot overwrite non-directory " ++ quote target ++ " with directory " ++
          quote source))
      else if item != .directory && there == some .directory then
        (s, some ("cannot overwrite directory " ++ quote target ++ " with non-directory"))
      else if there == some .directory && !isEmptyDirectory s.disk m && b.isNone then
        (s, some ("cannot overwrite " ++ quote target ++ ": Directory not empty"))
      else if target.getLast? == some '/' && there.isNone && item != .directory then
        cannot "Not a directory"
      else
        let (s, agreed) := agrees s (there.isSome && o.last? ["n", "i", "f"] == some "i") target
        if !agreed then (s, some "")
        else
          let (s, added) := keepBackup s m b
          let s := s.rename l m
          let note := match added with
            | some t => " (backup: " ++ quote (target ++ t) ++ ")"
            | none => ""
          (if o.has "v" then s.print ("renamed " ++ shownPair source target ++ note ++ "\n").toList
            else s, none)

def mv (s : State) (args : List Bytes) : State :=
  withFlags ("b f/force i/interactive n/no-clobber S=/suffix t=/target-directory " ++
    "T/no-target-directory u v/verbose Z /update? /backup? /strip-trailing-slashes /debug") 1 s args
    fun o ps =>
    match updateOf o, backup s o with
    | .error message, _ | _, .error message => refuse s 1 message
    | .ok u, .ok b =>
      match operands s o ps with
      | .error s => s
      | .ok (sources, target, inside) =>
        forEachSource s sources fun s p => moveOne o u b s p (targetOf inside target p)

/-! ## Linking -/

/-- What becomes of a new name: a link, or another name of a file. -/
private inductive Named where
  | link (target : Bytes)
  | file (l : Location)

/-- Puts a new name on the disk. -/
private def giveName (o : Options) (b : Option (Backup × Bytes)) (s : State) (l : Location)
    (n : Named) (source target : Bytes) : State × Option String :=
  let (s, added) := keepBackup s l b
  let s := match n with
    | .link t =>
      let s := s.remove l
      (s.setDisk (s.disk.set l (.link t.toText))).stamp l
    | .file k => s.join k l
  let note := match added with
    | some t => quote (target ++ t) ++ " ~ "
    | none => ""
  let arrow := if o.has "s" then " -> " else " => "
  (if o.has "v" then s.print (note ++ quote target ++ arrow ++ quote source ++ "\n").toList else s,
    none)

private def linkOne (o : Options) (b : Option (Backup × Bytes)) (s : State)
    (source target : Bytes) : State × Option String :=
  let symbolic := o.has "s"
  let kind := if symbolic then "symbolic link" else "hard link"
  let cannot (f : Disk.Fault) : State × Option String :=
    (s, some ("failed to create " ++ kind ++ " " ++ quote target ++
      (if symbolic || f == .alreadyExists then "" else " => " ++ quote source) ++ ": " ++ f.reason))
  let named : Except String Named :=
    if symbolic then
      .ok (.link (if o.has "r" then
          match s.disk.reach s.here source.toText, entryOf s target with
          | .ok l, .ok m => relative m.dropLast l
          | _, _ => source
        else source))
    else
      match (if o.has "L" then (s.disk.reach s.here source.toText).bind fun l =>
          match s.disk.get? l with
          | some item => .ok (l, item)
          | none => .error .notFound else itemOf s source) with
      | .error f => .error ("failed to access " ++ quote source ++ ": " ++ f.reason)
      | .ok (_, .directory) =>
          .error (quoteIfWild source ++ ": hard link not allowed for directory")
      | .ok (l, _) => .ok (.file l)
  match named with
  | .error message => (s, some message)
  | .ok n =>
    match entryOf s target with
    | .error f => cannot f
    | .ok l =>
      match s.disk.get? l with
      | some .directory =>
        if o.has "T" then
          (s, some (quoteIfWild target ++ ": cannot overwrite directory"))
        else cannot .alreadyExists
      | none => giveName o b s l n source target
      | some _ =>
        let (s, agreed) : State × Bool := if o.last? ["i", "f"] == some "i" then
            confirm s ("replace " ++ quote target ++ "?")
          else (s, true)
        let replaces := o.has "f" || o.has "i" || b.isSome
        match n with
        | .file k =>
          if replaces && k == l then
            (s, some (quote source ++ " and " ++ quote target ++ " are the same file"))
          else if !agreed then (s, some "")
          else if replaces then giveName o b s l n source target
          else cannot .alreadyExists
        | .link _ =>
          if !agreed then (s, some "")
          else if replaces then giveName o b s l n source target
          else cannot .alreadyExists

def ln (s : State) (args : List Bytes) : State :=
  withFlags ("b d f/force F i/interactive L/logical n/no-dereference P/physical r/relative " ++
    "s/symbolic S=/suffix t=/target-directory T/no-target-directory v/verbose /backup?") 1 s args
    fun o ps =>
    let isLinkAt (p : Bytes) : Bool := match itemOf s p with
      | .ok (_, .link _) => true
      | _ => false
    let inside (p : Bytes) : Bool :=
      !o.has "T" && isDirectoryPath s p && !(o.has "n" && isLinkAt p)
    match backup s o with
    | .error message => refuse s 1 message
    | .ok b =>
      let into (s : State) (target : Bytes) (sources : List Bytes) : State :=
        forEachSource s sources fun s p => linkOne o b s p (targetOf true target p)
      match o.value? "t", ps with
      | _, [] => refuse s 1 "missing file operand"
      | some target, sources => into s target sources
      | none, [source] =>
        if o.has "T" then refuse s 1 ("missing destination file operand after " ++ quote source)
        else into s ['.'] [source]
      | none, ps =>
        let target := ps.getLast?.getD []
        let sources := ps.dropLast
        if inside target then into s target sources
        else if sources.length > 1 then
          if o.has "T" then refuse s 1 ("extra operand " ++ quote (ps.getD 2 []))
          else
            s.grumble 1 ("target " ++ quote target ++ ": " ++
              (match s.disk.reach s.here target.toText with
                | .ok _ => "Not a directory"
                | .error f => f.reason))
        else forEachSource s sources fun s p => linkOne o b s p target

end Graft.Shell.Tool
