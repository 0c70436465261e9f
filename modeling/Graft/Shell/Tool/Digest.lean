import Graft.Data.Checksum
import Graft.Shell.Tool.Basic

/-!
# Programs for checksums

Programs that print digests of files, and that write bytes in letters.
-/
namespace Graft.Shell.Tool

private def codes (b : Bytes) : List Nat := b.map Char.toNat

private def ofCodes (ns : List Nat) : Bytes := ns.map Char.ofNat

/-! ## Digests -/

/-- A digest with the name that its lines bear and the number of its bytes. Some can be shorter. -/
structure DigestKind where
  name : String
  size : Nat
  isSized : Bool
  compute : Nat → List Nat → List Nat

def digestKinds : List (String × DigestKind) :=
  [("md5sum", ⟨"MD5", 16, false, fun _ => Checksum.md5⟩),
    ("sha1sum", ⟨"SHA1", 20, false, fun _ => Checksum.sha1⟩),
    ("sha224sum", ⟨"SHA224", 28, false, fun _ => Checksum.sha224⟩),
    ("sha256sum", ⟨"SHA256", 32, false, fun _ => Checksum.sha256⟩),
    ("sha384sum", ⟨"SHA384", 48, false, fun _ => Checksum.sha384⟩),
    ("sha512sum", ⟨"SHA512", 64, false, fun _ => Checksum.sha512⟩),
    ("b2sum", ⟨"BLAKE2b", 64, true, Checksum.blake2⟩)]

/-- The digits of a digest. -/
private def DigestKind.digits (k : DigestKind) (size : Nat) (t : Bytes) : Bytes :=
  Checksum.hex (k.compute size (codes t))

/-- The name of a digest in a line; a shorter one tells the number of its bits. -/
private def DigestKind.tag (k : DigestKind) (size : Nat) : Bytes :=
  (if size == k.size then k.name else k.name ++ "-" ++ toString (8 * size)).toList

/-- A name with a backslash and the letter `n` for line ends. -/
private def escapedName (p : Bytes) : Bytes × Bytes :=
  if p.any fun c => c == '\\' || c == '\n' || c == '\r' then
    (['\\'], p.flatMap fun c => match c with
      | '\\' => ['\\', '\\']
      | '\n' => ['\\', 'n']
      | '\r' => ['\\', 'r']
      | c => [c])
  else ([], p)

/-- A name without its escapes. -/
private def plainName? : Bytes → Option Bytes
  | [] => some []
  | '\\' :: 'n' :: r => (plainName? r).map ('\n' :: ·)
  | '\\' :: 'r' :: r => (plainName? r).map ('\r' :: ·)
  | '\\' :: '\\' :: r => (plainName? r).map ('\\' :: ·)
  | '\\' :: _ => none
  | c :: r => (plainName? r).map (c :: ·)

/-- The digest and the name in a line of a list. -/
private def checkLine? (k : DigestKind) (l : Bytes) : Option (Bytes × Bytes) :=
  let l := l.dropWhile fun c => c == ' ' || c == '\t'
  let isHex (t : Bytes) : Bool :=
    (if k.isSized then 0 < t.length && t.length ≤ 2 * k.size && t.length % 2 == 0
      else t.length == 2 * k.size) && t.all fun c =>
        c.isDigit || ('a' ≤ c && c ≤ 'f') || ('A' ≤ c && c ≤ 'F')
  let tag := k.name.toList
  let (isEscaped, l) : Bool × Bytes := match l with
    | '\\' :: r => (true, r)
    | l => (false, l)
  let found : Option (Bytes × Bytes) :=
    if tag.isPrefixOf l &&
      ((l.drop tag.length).head?.any fun c => c == ' ' || c == '(' || c == '-') then
      let r := (l.drop tag.length).dropWhile (· != '(')
      let hash := (r.reverse.takeWhile (· != ' ')).reverse
      let name := r.take (r.length - hash.length)
      let name := (name.reverse.dropWhile (· == ' ')).reverse
      match name with
      | '(' :: name =>
        if isHex hash &&
          ")".toList.isSuffixOf (name.dropLast.reverse.dropWhile (· == ' ')).reverse then
          some (hash, (name.dropLast.reverse.dropWhile (· == ' ')).reverse.dropLast)
        else none
      | _ => none
    else
      let hash := l.takeWhile (!isSpace ·)
      if !isHex hash then none
      else
        match l.drop hash.length with
        | _ :: c :: d :: name =>
          if c == ' ' || c == '*' then some (hash, d :: name) else some (hash, c :: d :: name)
        | [_, c] => if isSpace c then none else some (hash, [c])
        | _ => none
  found.bind fun (hash, name) =>
    (if isEscaped then plainName? name else some name).map (hash.map Char.toLower, ·)

/-- A count with a word for one or for several. -/
private def counted (n : Nat) (one several : String) : String :=
  toString n ++ " " ++ (if n == 1 then one else several)

/-- What was found in a list. -/
private structure Tally where
  good : Nat := 0
  bad : Nat := 0
  unread : Nat := 0
  odd : Nat := 0
  proper : Nat := 0

/-- Checks the digests in a list. -/
private def checkList (k : DigestKind) (o : Options) (s : State) (p t : Bytes) : State :=
  let p := if p == ['-'] then "standard input".toList else p
  let isQuiet := o.has "status"
  let check (s : State) (n : Tally) (hash name : Bytes) : State × Tally :=
    let (mark, shown) := escapedName name
    let say (s : State) (text : String) : State := s.print (mark ++ shown ++ text.toList)
    match content s name with
    | (s, .error reason) =>
      if o.has "ignore-missing" && reason == Disk.Fault.notFound.reason then (s, n)
      else
        let s := s.grumble 1 (plainly name reason)
        (if isQuiet then s else say s ": FAILED open or read\n", { n with unread := n.unread + 1 })
    | (s, .ok b) =>
      if k.digits (hash.length / 2) b == hash then
        (if isQuiet || o.has "quiet" then s else say s ": OK\n", { n with good := n.good + 1 })
      else (if isQuiet then s else say s ": FAILED\n", { n with bad := n.bad + 1 })
  let (s, n) := (Bytes.lines t).zipIdx.foldl (fun ((s, n) : State × Tally) (l, i) =>
    let l := bare l
    let l := if l.getLast? == some '\r' then l.dropLast else l
    if l.isEmpty || l.head? == some '#' then (s, n)
    else
      match checkLine? k l with
      | some (hash, name) => check s { n with proper := n.proper + 1 } hash name
      | none =>
        let s := if o.has "w" then
            s.grumble s.status (plainly p (toString (i + 1) ++ ": improperly formatted " ++
              k.name ++
              " checksum line"))
          else s
        (s, { n with odd := n.odd + 1 })) (s, {})
  if n.proper == 0 then
    s.grumble 1 (plainly p "no properly formatted checksum lines found")
  else
    let warn (s : State) (n : Nat) (text : String) (status : Nat) : State :=
      if n == 0 then s
      else if isQuiet then s.finish status
      else s.grumble status ("WARNING: " ++ text)
    let s := warn s n.odd (counted n.odd "line is" "lines are" ++ " improperly formatted")
      (if o.has "strict" then 1 else s.status)
    let s := warn s n.unread (counted n.unread "listed file" "listed files" ++
      " could not be read") 1
    let s := warn s n.bad (counted n.bad "computed checksum" "computed checksums" ++
      " did NOT match") 1
    if o.has "ignore-missing" && n.good == 0 then s.grumble 1 (plainly p "no file was verified")
    else s

/-- What is wrong with options that do not go together. -/
private def clash? (o : Options) : Option String :=
  let checks := o.has "c"
  let only := [("ignore-missing", "ignore-missing"), ("status", "status"), ("w", "warn"),
    ("quiet", "quiet"), ("strict", "strict")].find? fun (k, _) => o.has k && !checks
  if o.has "tag" && o.last? ["b", "t"] == some "t" then some "--tag does not support --text mode"
  else if o.has "z" && checks then
    some "the --zero option is not supported when verifying checksums"
  else if o.has "tag" && checks then
    some "the --tag option is meaningless when verifying checksums"
  else if (o.has "b" || o.has "t") && checks then
    some "the --binary and --text options are meaningless when verifying checksums"
  else only.map fun (_, name) =>
    "the --" ++ name ++ " option is meaningful only when verifying checksums"

/-- The number of bytes that an option asks for. -/
private def lengthOf (k : DigestKind) (o : Options) : Except (List String) Nat :=
  match o.value? "l" with
  | none => .ok k.size
  | some v =>
    let n := ofDigits v
    if !isDigits v then .error ["invalid length: " ++ quote v]
    else if n > 8 * k.size then
      .error ["invalid length: " ++ quote v, "maximum digest length for " ++ quote k.name.toList ++
        " is " ++ toString (8 * k.size) ++ " bits"]
    else if n % 8 != 0 then
      .error ["invalid length: " ++ quote v, "length is not a multiple of 8"]
    else .ok (if n == 0 then k.size else n / 8)

def digestSum (k : DigestKind) (s : State) (args : List Bytes) : State :=
  let flags := "b/binary c/check t/text w/warn z/zero /tag /quiet /status /strict /ignore-missing"
  withFlags (if k.isSized then flags ++ " l=/length" else flags) 1 s args fun o ps =>
    match lengthOf k o, clash? o with
    | .error messages, _ => messages.foldl (·.grumble 1 ·) s
    | .ok _, some message => refuse s 1 message
    | .ok size, none =>
      if o.has "c" then forEachFile s ps 1 plainly (checkList k o)
      else
        forEachFile s ps 1 plainly fun s p t =>
          let hash := k.digits size t
          let (mark, name) := if o.has "z" then ([], p) else escapedName p
          let ending : Bytes := if o.has "z" then [Char.ofNat 0] else ['\n']
          if o.has "tag" then
            s.print (mark ++ k.tag size ++ " (".toList ++ name ++ ") = ".toList ++ hash ++ ending)
          else s.print (mark ++ hash ++ (if o.has "b" then " *" else "  ").toList ++ name ++ ending)

def cksum (s : State) (args : List Bytes) : State :=
  withFlags ("a=/algorithm c/check /base64 /debug l=/length /raw /tag /untagged /quiet /status " ++
    "/strict w/warn z/zero") 1 s args fun o ps =>
    let kind := (o.value? "a").map fun a => String.ofList (a.map Char.toUpper)
    let found := (kind.bind fun n => digestKinds.find? (·.2.name.toUpper == n)).map (·.2)
    match found, kind with
    | some k, _ =>
      if o.has "c" then forEachFile s ps 1 plainly (checkList k o)
      else
        match lengthOf k o with
        | .error messages => messages.foldl (·.grumble 1 ·) s
        | .ok size =>
          forEachFile s ps 1 plainly fun s p t =>
            let hash := k.digits size t
            if o.has "untagged" then s.print (hash ++ [' ', ' '] ++ p ++ ['\n'])
            else s.print (k.tag size ++ " (".toList ++ p ++ ") = ".toList ++ hash ++ ['\n'])
    | none, some "BSD" => sumWith false s ps
    | none, some "SYSV" => sumWith true s ps
    | none, some k =>
      if k == "CRC" then crc s ps
      else
        refuse s 1 ("invalid argument " ++ quote (k.toList.map Char.toLower) ++
          " for '--algorithm'")
    | none, none => crc s ps
where
  crc (s : State) (ps : List Bytes) : State :=
    forEachFile s ps 1 plainly fun s p t =>
      let n := (Checksum.crc (codes t)).toNat
      let name := if ps.isEmpty then [] else ' ' :: p
      s.print ((toString n ++ " " ++ toString t.length).toList ++ name ++ ['\n'])
  sumWith (folded : Bool) (s : State) (ps : List Bytes) : State :=
    forEachFile s ps 1 plainly fun s p t =>
      let size := t.length
      let name := if ps.isEmpty then [] else ' ' :: p
      if folded then
        let n := Checksum.foldedSum (codes t)
        s.print ((toString n ++ " " ++ toString ((size + 511) / 512)).toList ++ name ++ ['\n'])
      else
        let n := (toString (Checksum.rotatedSum (codes t))).toList
        let digits := List.replicate (5 - n.length) '0' ++ n
        let blocks := padLeft 5 (toString ((size + 1023) / 1024)).toList
        s.print (digits ++ ' ' :: blocks ++ name ++ ['\n'])

def sum (s : State) (args : List Bytes) : State :=
  withFlags "r s/sysv" 1 s args fun o ps => cksum.sumWith (o.last? ["r", "s"] == some "s") s ps

/-! ## Letters -/

/-- Lines of so many characters. -/
private def wrapped (width : Nat) (t : Bytes) : Bytes :=
  let rec go : Nat → Bytes → List Bytes → List Bytes
    | 0, _, done => done
    | _, [], done => done
    | fuel + 1, t, done => go fuel (t.drop width) ((t.take width ++ ['\n']) :: done)
  (go t.length t []).reverse.flatten

private def letters (encode : List Nat → Text) (decode : Text → List Nat × Bool)
    (alphabet : Char → Bool) (s : State) (args : List Bytes) : State :=
  withFlags "d/decode i/ignore-garbage w=/wrap" 1 s args fun o ps =>
    match ps with
    | _ :: extra :: _ => refuse s 1 ("extra operand " ++ quote extra)
    | ps =>
      match o.value? "w" with
      | some w => if isDigits w then go s o ps (ofDigits w)
        else s.grumble 1 ("invalid wrap size: " ++ quote w)
      | none => go s o ps 76
where
  go (s : State) (o : Options) (ps : List Bytes) (width : Nat) : State :=
    forEachFile s ps 1 plainly fun s _ t =>
      if o.has "d" then
        let t := if o.has "i" then t.filter fun c => alphabet c || c == '='
          else t.filter (· != '\n')
        let (bytes, isWhole) := decode t
        let s := s.print (ofCodes bytes)
        if isWhole then s else s.grumble 1 "invalid input"
      else
        let text := encode (codes t)
        s.print (if width == 0 then text else wrapped width text)

def base64 (s : State) (args : List Bytes) : State :=
  letters Checksum.base64 Checksum.ofBase64 (fun c => c.isAlphanum || c == '+' || c == '/') s args

def base32 (s : State) (args : List Bytes) : State :=
  letters Checksum.base32 Checksum.ofBase32
    (fun c => c.isUpper || ('2' ≤ c && c ≤ '7')) s args

end Graft.Shell.Tool
