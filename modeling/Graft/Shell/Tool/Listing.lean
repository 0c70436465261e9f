import Graft.Shell.Account
import Graft.Shell.Format
import Graft.Shell.Tool.File
import Graft.Shell.Tool.Order

/-!
# Programs that describe files

`ls` lists directories, `stat` tells what is known of a file, `du` adds up sizes.
-/
namespace Graft.Shell.Tool

/-- A file or directory in a list. -/
structure Listed where
  name : Bytes
  location : Location
  item : Disk.Item

namespace Listed

/-- The size in bytes. -/
def size (e : Listed) : Nat :=
  match e.item with
  | .file content _ => content.bytes.length
  | .directory => 4096
  | .link t => (Bytes.ofText t).length

/-- How many kibibytes are taken on the disk. -/
def blocks (e : Listed) : Nat :=
  match e.item with
  | .link _ => 0
  | _ => (e.size + 4095) / 4096 * 4

/-- The sign for the kind. -/
def mark (onlyDirectories : Bool) (e : Listed) : Bytes :=
  match e.item with
  | .directory => ['/']
  | .link _ => if onlyDirectories then [] else ['@']
  | .file _ x => if x && !onlyDirectories then ['*'] else []

def kind (e : Listed) : String :=
  match e.item with
  | .file content _ => if content.bytes.isEmpty then "regular empty file" else "regular file"
  | .directory => "directory"
  | .link _ => "symbolic link"

/-- The letters for the kind and the permissions. -/
def letters (s : State) (e : Listed) : Bytes :=
  let first := match e.item with
    | .file .. => '-'
    | .directory => 'd'
    | .link _ => 'l'
  first :: Mode.text (s.modeOf e.location)

/-- How many names there are for it. -/
def names (s : State) (e : Listed) : Nat :=
  match e.item with
  | .directory => 2 + ((s.disk.list e.location).filter (·.2 == .directory)).length
  | _ => 1 + (s.twinsOf e.location).length

/-- The user that it belongs to, by name or as a number. -/
def user (s : State) (e : Listed) (isNumber : Bool) : Bytes :=
  let id := (s.ownerOf e.location).1
  (if isNumber then toString id else (Account.nameOf? id).getD (toString id)).toList

/-- The group that it belongs to, by name or as a number. -/
def group (s : State) (e : Listed) (isNumber : Bool) : Bytes :=
  let id := (s.ownerOf e.location).2
  (if isNumber then toString id else (Account.groupNameOf? id).getD (toString id)).toList

end Listed

/-- What stands behind the last point of a name. -/
private def extension (name : Bytes) : Bytes :=
  if name.contains '.' then '.' :: (name.reverse.takeWhile (· != '.')).reverse else []

/-- Puts entries in the order that options ask for. -/
private def inOrder (s : State) (o : Options) (es : List Listed) : List Listed :=
  let byName (a b : Listed) : Ordering := compareBytes a.name b.name
  let order (a b : Listed) : Ordering := match o.last? ["t", "S", "X", "v", "U", "f"] with
    | some "t" => (Ord.compare (s.changed b.location) (s.changed a.location)).then (byName a b)
    | some "S" => (Ord.compare b.size a.size).then (byName a b)
    | some "X" => (compareBytes (extension a.name) (extension b.name)).then (byName a b)
    | some "v" => compareVersions a.name b.name
    | some "U" | some "f" => .eq
    | _ => byName a b
  let sorted := es.mergeSort fun a b => order a b != .gt
  if o.has "r" && !o.has "U" && !o.has "f" then sorted.reverse else sorted

/-- A size in the largest unit that fits. -/
def humanSize (n : Nat) : Bytes :=
  let rec go : Nat → Nat → List Char → Bytes
    | 0, _, _ => []
    | _, _, [] => []
    | fuel + 1, unit, c :: units =>
      let tenths := (n * 10 + unit - 1) / unit
      if tenths < 100 then (toString (tenths / 10) ++ "." ++ toString (tenths % 10)).toList ++ [c]
      else if n ≤ 1023 * unit || units.isEmpty then (toString ((n + unit - 1) / unit)).toList ++ [c]
      else go fuel (unit * 1024) units
  if n < 1024 then (toString n).toList else go 8 1024 ['K', 'M', 'G', 'T', 'P', 'E']

private def sizeText (o : Options) (n : Nat) : Bytes :=
  if o.has "h" then humanSize n else (toString n).toList

/-! ### Names -/

/-- How names are shown. -/
inductive NameStyle where
  | literal
  | escape
  | doubleQuotes
  /-- As a shell reads them: with escapes or not, and always in quotes or only if they need them. -/
  | shell (escapes always : Bool)
  deriving DecidableEq, Repr

namespace NameStyle

private def byName? (t : Bytes) : Option NameStyle :=
  match String.ofList t with
  | "literal" => some .literal
  | "shell" => some (.shell false false)
  | "shell-always" => some (.shell false true)
  | "shell-escape" => some (.shell true false)
  | "shell-escape-always" => some (.shell true true)
  | "c" | "c-maybe" | "locale" | "clocale" => some .doubleQuotes
  | "escape" => some .escape
  | _ => none

/-- The style that options or the environment ask for. -/
def ofOptions (s : State) (o : Options) : Except String NameStyle :=
  let usual := ((s.textOf "QUOTING_STYLE").bind byName?).getD .literal
  match o.last? ["b", "N", "Q", "quoting-style"] with
  | some "b" => .ok .escape
  | some "N" => .ok .literal
  | some "Q" => .ok .doubleQuotes
  | some _ =>
    let t := (o.value? "quoting-style").getD []
    match byName? t with
    | some style => .ok style
    | none =>
      .error ("invalid argument " ++ quote t ++ " for '--quoting-style'\nValid arguments are:\n" ++
        String.join (["literal", "shell", "shell-always", "shell-escape", "shell-escape-always",
          "c",
          "c-maybe", "escape", "locale"].map fun n => "  - '" ++ n ++ "'\n") ++ "  - 'clocale'")
  | none => .ok usual

/-- Whether a shell would not take a name for itself. -/
private def isWildName (t : Bytes) : Bool :=
  let isOdd (c : Char) : Bool :=
    !(' ' ≤ c && c ≤ '~') || " !\"$&'()*;<=>?[\\^\x60|".toList.contains c
  t.isEmpty || t.any isOdd || t.head? == some '#' || t.head? == some '~' || t == ['\x7b'] ||
    t == ['\x7d']

/-- A name in a style. With `hides` a question mark stands for what cannot be printed. -/
def render (style : NameStyle) (hides : Bool) (t : Bytes) : Bytes :=
  let isPlain (c : Char) : Bool := ' ' ≤ c && c ≤ '~'
  match style with
  | .literal => if hides then t.map fun c => if isPlain c then c else '?' else t
  | .escape =>
    t.flatMap fun c =>
      if c == ' ' || c == '\\' then ['\\', c] else if isPlain c then [c] else octalOf c
  | .doubleQuotes =>
    '"' :: (t.flatMap fun c =>
      if c == '"' || c == '\\' then ['\\', c] else if isPlain c then [c] else octalOf c) ++ ['"']
  | .shell escapes always =>
    if !always && !isWildName t then t
    else if escapes then (quote t).toList
    else if t.contains '\'' && !t.contains '"' && !t.contains '$' && !t.contains '\\' then
      '"' :: t ++ ['"']
    else '\'' :: (t.flatMap fun c => if c == '\'' then "'\\''".toList else [c]) ++ ['\'']

end NameStyle

/-- What a list shows of each entry. -/
structure View where
  options : Options
  style : NameStyle
  width : Nat

private def View.name (v : View) (e : Listed) : Bytes :=
  let name := v.style.render (v.options.has "q") e.name
  let name := (if v.options.has "Z" then "? ".toList else []) ++ name
  let style := v.options.value? "indicator-style"
  if v.options.has "F" || style == some "classify".toList then name ++ e.mark false
  else if v.options.has "file-type" || style == some "file-type".toList then
    name ++ (if e.item matches .file .. then [] else e.mark false)
  else if v.options.has "p" || style == some "slash".toList then name ++ e.mark true
  else name

/-! ### Long lists -/

/-- Seconds of half a year. -/
private def halfYear : Int := 15778476

/-- The time of an entry as options ask for it. -/
private def timeText (s : State) (o : Options) (e : Listed) : Bytes :=
  let milliseconds := s.changed e.location
  let t := firstMoment + milliseconds / 1000
  let now := firstMoment + s.clock / 1000
  let isRecent := now - halfYear < t && t ≤ now + 1
  let fraction := Calendar.paddedWith '0' 3 (milliseconds % 1000) ++ "000000".toList
  let full := Calendar.format t "%Y-%m-%d %H:%M:%S.".toList ++ fraction ++ " +0000".toList
  let style := (o.value? "time-style").getD []
  let style := if "posix-".toList.isPrefixOf style then style.drop 6 else style
  if o.has "full-time" then full
  else
    match String.ofList style, style with
    | "full-iso", _ => full
    | "long-iso", _ => Calendar.format t "%Y-%m-%d %H:%M".toList
    | "iso", _ => Calendar.format t (if isRecent then "%m-%d %H:%M" else "%Y-%m-%d ").toList
    | _, '+' :: f =>
      let f' := f.takeWhile (· != '\n')
      Calendar.format t (if isRecent && f'.length < f.length then f.drop (f'.length + 1) else f')
    | _, _ => Calendar.format t (if isRecent then "%b %e %H:%M" else "%b %e  %Y").toList

/-- The lines of a long list. -/
private def longLines (s : State) (v : View) (es : List Listed) : List Bytes :=
  let o := v.options
  let width (f : Listed → Bytes) : Nat := (es.map fun e => (f e).length).foldl max 0
  let links (e : Listed) : Bytes := (toString (e.names s)).toList
  let size (e : Listed) : Bytes := sizeText o e.size
  let user (e : Listed) : Bytes := e.user s (o.has "n")
  let group (e : Listed) : Bytes := e.group s (o.has "n")
  let column (isShown : Bool) (isNumber : Bool) (f : Listed → Bytes) : Listed → Bytes :=
    let w := width f
    fun e => if !isShown then [] else (if isNumber then padLeft w (f e) else padRight w (f e)) ++
      [' ']
  let linkColumn := column true true links
  let userColumn := column (!o.has "g") (o.has "n") user
  let groupColumn := column (!(o.has "o" || o.has "G" || o.has "no-group")) (o.has "n") group
  let authorColumn := column (o.has "author") (o.has "n") user
  let sizeColumn := column true true size
  es.map fun e =>
    let target := match e.item with
      | .link t => " -> ".toList ++ v.style.render (o.has "q") (Bytes.ofText t)
      | _ => []
    let name := match e.item with
      | .link _ => v.style.render (o.has "q") e.name
      | _ => v.name e
    e.letters s ++ ' ' :: linkColumn e ++ userColumn e ++ groupColumn e ++ authorColumn e ++
      sizeColumn e ++ timeText s o e ++ ' ' :: name ++ target

/-! ### Columns -/

/-- How many columns a name takes. -/
private def shownWidth (name : Bytes) : Nat := name.countP fun c => ' ' ≤ c && c ≤ '~'

/-- Names with commas between them in lines of limited width. -/
private def commaLines (width : Nat) (names : List Bytes) : Bytes :=
  let last := names.length - 1
  let (done, _) := names.zipIdx.foldl (fun ((done, column) : Bytes × Nat) (name, n) =>
    let piece := if n == last then name else name ++ [',']
    if n == 0 then (piece.reverse, shownWidth name)
    else if width != 0 && width ≤ column + shownWidth name + 2 then
      (piece.reverse ++ '\n' :: done, shownWidth name)
    else (piece.reverse ++ ' ' :: done, column + shownWidth name + 2)) ([], 0)
  if names.isEmpty then [] else done.reverse ++ ['\n']

/-- The widths of columns if there are so many of them. Names are taken down or `across`. -/
private def columnWidths (across : Bool) (lengths : List Nat) (count : Nat) : List Nat :=
  let rows := (lengths.length + count - 1) / count
  let widths := lengths.zipIdx.foldl (fun (ws : Array Nat) (n, i) =>
    let column := if across then i % count else i / rows
    let needed := n + (if column + 1 == count then 0 else 2)
    ws.modify column (max needed)) (Array.replicate count 3)
  widths.toList

/-- Tabs and blanks from one column to another. -/
private def indent (goal : Nat) : Nat → Nat → Bytes
  | 0, _ => []
  | fuel + 1, column =>
    if goal ≤ column then []
    else if (column + 1) / 8 < goal / 8 then '\t' :: indent goal fuel (column / 8 * 8 + 8)
    else ' ' :: indent goal fuel (column + 1)

/-- Names in as many columns as lines of limited width hold. -/
private def columnLines (across : Bool) (width : Nat) (names : List Bytes) : Bytes :=
  let lengths := names.map shownWidth
  let fits (count : Nat) : Bool := (columnWidths across lengths count).foldl (· + ·) 0 < width
  let most := min (max 1 (width / 3)) names.length
  let count := ((List.range most).reverse.map (· + 1)).find? fits |>.getD 1
  let widths := columnWidths across lengths count
  let rows := (names.length + count - 1) / count
  let place (row column : Nat) : Nat := if across then row * count + column else column * rows + row
  let line (row : Nat) : Bytes :=
    let cells := (List.range count).filterMap fun c =>
      (names[place row c]?).map fun n => (n, (widths.take c).foldl (· + ·) 0, widths.getD c 0)
    let last := cells.length - 1
    (cells.zipIdx.flatMap fun ((name, start, w), i) =>
      if i == last then name
      else name ++ indent (start + w) (w + 1) (start + shownWidth name)) ++ ['\n']
  if names.isEmpty then [] else (List.range rows).flatMap line

/-- The text of a list of entries. -/
private def listText (s : State) (v : View) (withTotal : Bool) (es : List Listed) : Bytes :=
  let o := v.options
  let mark := if o.has "zero" then Char.ofNat 0 else '\n'
  let blocks (e : Listed) : Bytes := (toString e.blocks).toList
  let widest := (es.map fun e => (blocks e).length).foldl max 0
  let counted (e : Listed) (line : Bytes) : Bytes :=
    if o.has "s" then padLeft widest (blocks e) ++ ' ' :: line else line
  let total := (es.map Listed.blocks).foldl (· + ·) 0
  let heading := if withTotal && (o.has "l" || o.has "s") then
      "total ".toList ++ sizeText o (if o.has "h" then total * 1024 else total) ++ ['\n'] else []
  let names := es.map fun e => counted e (v.name e)
  if o.has "l" then
    heading ++ ((es.zip (longLines s v es)).flatMap fun (e, l) => counted e l ++ [mark])
  else if o.has "m" then heading ++ commaLines v.width names
  else if o.has "C" || o.has "x" then
    heading ++ (if v.width == 0 then
        (if names.isEmpty then [] else Text.join [' ', ' '] names ++ ['\n'])
      else columnLines (o.has "x") v.width names)
  else heading ++ names.flatMap (· ++ [mark])

/-- The entries of a directory that options ask for. -/
private def entriesOf (s : State) (o : Options) (l : Location) : List Listed :=
  let all := (s.disk.list l).map fun (n, item) => ⟨Bytes.ofText n, l ++ [n], item⟩
  let hidden := o.has "a" || o.has "f"
  let shown := all.filter fun (e : Listed) =>
    hidden || o.has "A" || e.name.head? != some '.'
  let shown := if o.has "B" then shown.filter (·.name.getLast? != some '~') else shown
  let fits (e : Listed) (pattern : Bytes) : Bool := (Glob.ofBytes false pattern).covers e.name
  let isLeftOut (e : Listed) : Bool :=
    (o.values "I").any (fits e) || !(hidden || o.has "A") && (o.values "hide").any (fits e)
  let shown := shown.filter (!isLeftOut ·)
  let dots : List Listed := if hidden then
      [⟨['.'], l, .directory⟩, ⟨['.', '.'], l.dropLast, .directory⟩] else []
  inOrder s o (dots ++ shown)

/-- Lists a directory, and those in it if options ask for that. -/
private def listDirectory (v : View) : Nat → State → Bool → Bool → Bytes → Location → State
  | 0, s, _, _, _, _ => s
  | fuel + 1, s, first, headed, path, l =>
    let o := v.options
    let es := entriesOf s o l
    let heading := (if first then [] else ['\n']) ++ (if headed then path ++ [':', '\n'] else [])
    let s := s.print (heading ++ listText s v true es)
    if o.has "R" then
      (es.filter fun e => e.item == .directory && e.name != ['.'] && e.name != ['.', '.']).foldl
        (fun s e =>
          let below := if path.getLast? == some '/' then path ++ e.name else path ++ '/' :: e.name
          listDirectory v fuel s false true below e.location) s
    else s

/-- Complains about a word that an option does not know. -/
private def wrongWord? (o : Options) : Option (String × Nat) :=
  match o.value? "sort", o.value? "time-style" with
  | some t, _ =>
    if ["name".toList, "width".toList].contains t then none
    else
      some ("invalid argument " ++ quote t ++ " for '--sort'\nValid arguments are:\n  - 'none'\n" ++
        "  - 'time'\n  - 'size'\n  - 'extension'\n  - 'version'\n  - 'width'", 1)
  | none, some t =>
    let bare := if "posix-".toList.isPrefixOf t then t.drop 6 else t
    let known := ["full-iso", "long-iso", "iso", "locale"].map String.toList
    if known.contains bare || t.head? == some '+' || !o.has "l" then none
    else
      some ("invalid argument " ++ quote t ++ " for 'time style'\nValid arguments are:\n" ++
        "  - [posix-]full-iso\n  - [posix-]long-iso\n  - [posix-]iso\n  - [posix-]locale\n" ++
        "  - +FORMAT (e.g., +%H:%M) for a 'date'-style format", 2)
  | none, none => none

def ls (s : State) (args : List Bytes) : State :=
  withFlags ("a/all A/almost-all b/escape B/ignore-backups c C d/directory f F /classify? g G h " ++
    "H i/inode I=/ignore k/kibibytes l L/dereference m n/numeric-uid-gid N/literal o p " ++
    "q/hide-control-chars Q/quote-name r/reverse R/recursive s/size S t u U v w=/width x X " ++
    "Z/context 1 T=/tabsize D/dired /color? /group-directories-first /file-type /sort= /time= " ++
    "/format= /human-readable /indicator-style= /full-time /hide= /si /no-group /time-style= " ++
    "/quoting-style= /author /zero /show-control-chars /hyperlink? /block-size=") 2 s args fun o ps =>
    let o : Options := o.map fun (k, v) =>
      (if k == "human-readable" || k == "si" then "h" else k, v)
    let o : Options := o.flatMap fun (k, v) =>
      match k, v.map String.ofList with
      | "sort", some "time" => [("t", none)]
      | "sort", some "size" => [("S", none)]
      | "sort", some "extension" => [("X", none)]
      | "sort", some "version" => [("v", none)]
      | "sort", some "none" => [("U", none)]
      | "format", some "across" | "format", some "horizontal" => [("x", none)]
      | "format", some "commas" => [("m", none)]
      | "format", some "long" | "format", some "verbose" => [("l", none)]
      | "format", some "single-column" => [("1", none)]
      | "format", some "vertical" => [("C", none)]
      | "classify", none | "classify", some "always" | "classify", some "yes"
      | "classify", some "force" => [("F", none)]
      | "classify", some _ => []
      | "n", _ | "g", _ | "o", _ | "full-time", _ => [(k, v), ("l", none)]
      | _, _ => [(k, v)]
    let last := o.last? ["l", "1", "m", "C", "x"]
    let chosen := if last == some "1" && o.has "l" then some "l" else last
    let o : Options := o.filter fun e =>
      !(["l", "1", "m", "C", "x"].contains e.1) || some e.1 == chosen
    match NameStyle.ofOptions s o, wrongWord? o with
    | .error message, _ => refuse s 2 message
    | _, some (message, status) => refuse s status message
    | .ok style, none =>
    let v : View := ⟨o, style, ((o.value? "w").map ofDigits).getD 80⟩
    let ps : List Bytes := if ps.isEmpty then [['.']] else ps
    let follows := !(o.has "l" || o.has "F" || o.has "d") || o.has "L" || o.has "H"
    let (s, found) := ps.foldl (fun ((s, found) : State × List Listed) (p : Bytes) =>
      let reached := if follows then s.disk.reach s.here p.toText else .error .notFound
      let place : Except Disk.Fault Location := match reached with
        | .ok l => .ok l
        | .error _ => s.disk.locate false s.here p.toText
      match place with
      | .ok l =>
        match s.disk.get? l with
        | some item => (s, ⟨p, l, item⟩ :: found)
        | none => if l.isEmpty then (s, ⟨p, l, .directory⟩ :: found)
          else (s.grumble 2 ("cannot access " ++ quote p ++ ": No such file or directory"), found)
      | .error f =>
        if (device? p).isSome then (s, ⟨p, [], .file (.raw []) false⟩ :: found)
        else (s.grumble 2 ("cannot access " ++ quote p ++ ": " ++ f.reason), found)) (s, [])
    let found := inOrder s o found.reverse
    if o.has "d" then s.print (listText s v false found)
    else
      let files := found.filter (·.item != .directory)
      let directories := found.filter (·.item == .directory)
      let s := s.print (listText s v false files)
      let headed := ps.length > 1 || o.has "R"
      (directories.foldl (fun (s, first) e =>
        (listDirectory v 1000 s first headed e.name e.location, false)) (s, files.isEmpty)).1

/-- Lists in columns, odd characters written as escapes. -/
def dir (s : State) (args : List Bytes) : State := ls s ("-Cb".toList :: args)

/-- Lists in long lines, odd characters written as escapes. -/
def vdir (s : State) (args : List Bytes) : State := ls s ("-lb".toList :: args)

/-! ## Facts about files -/

/-- The text that a letter in a format stands for. -/
private def fact (s : State) (e : Listed) : Char → Bytes
  | 'n' => e.name
  | 'N' =>
    (quote e.name).toList ++ match e.item with
      | .link t => (" -> " ++ quote (.ofText t)).toList
      | _ => []
  | 's' => (toString e.size).toList
  | 'a' => Nat.toDigits 8 (s.modeOf e.location)
  | 'A' => e.letters s
  | 'f' =>
    let high := match e.item with
      | .file .. => 0o100000
      | .directory => 0o040000
      | .link _ => 0o120000
    Nat.toDigits 16 (high ||| s.modeOf e.location)
  | 'F' => e.kind.toList
  | 'h' => (toString (e.names s)).toList
  | 'u' => e.user s true
  | 'g' => e.group s true
  | 'U' => ((Account.nameOf? (s.ownerOf e.location).1).getD "UNKNOWN").toList
  | 'G' => ((Account.groupNameOf? (s.ownerOf e.location).2).getD "UNKNOWN").toList
  | 'b' => (toString (e.blocks * 2)).toList
  | 'B' => "512".toList
  | 'o' => "4096".toList
  | 'Y' | 'X' | 'Z' | 'W' => (toString (firstMoment + s.changed e.location / 1000)).toList
  | 'y' | 'x' | 'z' | 'w' => timeText s [("full-time", none)] e
  | 'i' | 'd' | 'D' | 't' | 'T' => ['0']
  | 'm' => ['/']
  | '%' => ['%']
  | _ => ['?']

/-- A moment in seconds with so many digits behind the point. -/
private def preciseTime (s : State) (e : Listed) (digits : Nat) : Bytes :=
  let time := firstMoment * 1000 + s.changed e.location
  let part := (time % 1000).toNat + 1000
  let shown := (toString part).toList.drop 1 ++ List.replicate digits '0'
  (toString (time / 1000)).toList ++ '.' :: shown.take digits

/-- Fills a format; letters may have a width and, for times, a number of digits. -/
private def fillFacts (s : State) (e : Listed) : Nat → Bytes → Bytes → Bytes
  | 0, done, _ => done.reverse
  | _, done, [] => done.reverse
  | fuel + 1, done, '%' :: r =>
    let flags := r.takeWhile fun c => "-+ #0".toList.contains c
    let r := r.drop flags.length
    let ds := r.takeWhile Char.isDigit
    let r := r.drop ds.length
    let (digits, r) : Option Nat × Bytes := match r with
      | '.' :: r =>
        let ds := r.takeWhile Char.isDigit
        (some (if ds.isEmpty then 9 else ofDigits ds), r.drop ds.length)
      | r => (none, r)
    match r with
    | c :: r =>
      let isTime := "XYZW".toList.contains c
      let text := match digits with
        | some n => if isTime && n != 0 then preciseTime s e n else fact s e c
        | none => fact s e c
      let text := if c == 'a' && flags.contains '#' && text.head? != some '0' then '0' :: text
        else text
      let zeros := if flags.contains '0' && !"nNAFUGmyxzw".toList.contains c then
          List.replicate (ofDigits ds - text.length) '0'
        else []
      let text := if flags.contains '-' then padRight (ofDigits ds) text
        else padLeft (ofDigits ds) (zeros ++ text)
      fillFacts s e fuel (text.reverse ++ done) r
    | [] => fillFacts s e fuel ('%' :: done) []
  | fuel + 1, done, c :: r => fillFacts s e fuel (c :: done) r

def stat (s : State) (args : List Bytes) : State :=
  withFlags "L/dereference f/file-system c=/format /printf= t/terse /cached=" 1 s args fun o ps =>
    if ps.isEmpty then missing s 1
    else
      ps.foldl (fun s p =>
        match s.disk.locate (o.has "L") s.here p.toText with
        | .error f => s.grumble 1 ("cannot statx " ++ quote p ++ ": " ++ f.reason)
        | .ok l =>
          let e : Listed := ⟨p, l, (s.disk.get? l).getD .directory⟩
          match o.value? "c", o.value? "printf" with
          | some f, _ => s.print (fillFacts s e (f.length + 1) [] f ++ ['\n'])
          | none, some f =>
            let f := (Format.unescape f).1
            s.print (fillFacts s e (f.length + 1) [] f)
          | none, none =>
            let f := ("  File: %N\n  Size: %-10s\tBlocks: %-10b IO Block: %-6o %F\n" ++
              "Device: 0,0\tInode: 0           Links: %h\n" ++
              "Access: (%04a/%A)  Uid: (%5u/%8U)   Gid: (%5g/%8G)\n" ++
              "Access: %x\nModify: %y\nChange: %z\n Birth: %w\n").toList
            s.print (fillFacts s e (f.length + 1) [] f)) s

/-- Adds up the sizes of trees. -/
def du (s : State) (args : List Bytes) : State :=
  withFlags ("a/all b/bytes c/total d=/max-depth h/human-readable k m s/summarize S x L P 0 " ++
    "/apparent-size B=/block-size /exclude=") 1 s args fun o ps =>
    let ps : List Bytes := if ps.isEmpty then [['.']] else ps
    let size (l : Location) (item : Disk.Item) : Nat :=
      let e : Listed := ⟨[], l, item⟩
      if o.has "b" then e.size else if o.has "apparent-size" then e.size else e.blocks * 1024
    let shown (n : Nat) : Bytes :=
      if o.has "h" then humanSize n
      else if o.has "b" then (toString n).toList
      else if o.has "m" then (toString ((n + 1048575) / 1048576)).toList
      else (toString ((n + 1023) / 1024)).toList
    let deepest := if o.has "s" then some 0 else (o.value? "d").map ofDigits
    let (s, total) := ps.foldl (fun ((s, total) : State × Nat) (p : Bytes) =>
      match s.disk.locate false s.here p.toText with
      | .error f => (s.grumble 1 ("cannot access " ++ quote p ++ ": " ++ f.reason), total)
      | .ok top =>
        let within := s.disk.entries.filter (·.1.isWithin top)
        let sum (l : Location) : Nat :=
          ((within.filter (·.1.isWithin l)).map fun (k, item) => size k item).foldl (· + ·) 0
        let lines := (within.filter fun (k, item) =>
          (item == .directory || o.has "a" || k == top) &&
            (match deepest with
              | some n => decide (k.length - top.length ≤ n)
              | none => true)).mergeSort fun a b =>
            if a.1.isWithin b.1 then true else if b.1.isWithin a.1 then false
            else Location.compare a.1 b.1 != .gt
        let text := lines.flatMap fun (k, _) =>
          shown (sum k) ++
            '\t' :: (p ++ (k.drop top.length).flatMap fun n => '/' :: Bytes.ofText n) ++
            ['\n']
        (s.print text, total + sum top)) (s, 0)
    if o.has "c" then s.print (shown total ++ "\ttotal\n".toList) else s

end Graft.Shell.Tool
