import Graft.Text

/-!
# Dates

Moments are counted in seconds from the beginning of the year 1970 and shown in the calendar of
Coordinated Universal Time.
-/
namespace Graft.Calendar

/-- A moment in the calendar. Days of the week count from Sunday, days of the year from 0. -/
structure Moment where
  year : Int
  month : Nat
  day : Nat
  hour : Nat
  minute : Nat
  second : Nat
  weekday : Nat
  yearday : Nat
  deriving DecidableEq, Repr

/-- Days from the beginning of the year 1970 to a date. Years begin in March here, so that the day
that some years have in addition is their last one. -/
def daysTo (year : Int) (month day : Nat) : Int :=
  let y := if month ≤ 2 then year - 1 else year
  let m : Int := if month ≤ 2 then month + 9 else month - 3
  365 * y + y / 4 - y / 100 + y / 400 + (153 * m + 2) / 5 + day - 1 - 719468

/-- Seconds from the beginning of the year 1970. -/
def seconds (year : Int) (month day hour minute second : Nat) : Int :=
  daysTo year month day * 86400 + hour * 3600 + minute * 60 + second

def ofSeconds (t : Int) : Moment :=
  let days := t / 86400
  let rest := (t % 86400).toNat
  let z := days + 719468
  let era := z / 146097
  let inEra := z % 146097
  let yearInEra := (inEra - inEra / 1460 + inEra / 36524 - inEra / 146096) / 365
  let inYear := inEra - (365 * yearInEra + yearInEra / 4 - yearInEra / 100)
  let m := (5 * inYear + 2) / 153
  let day := (inYear - (153 * m + 2) / 5 + 1).toNat
  let month := (if m < 10 then m + 3 else m - 9).toNat
  let year := yearInEra + era * 400 + (if month ≤ 2 then 1 else 0)
  { year, month, day
    hour := rest / 3600
    minute := rest / 60 % 60
    second := rest % 60
    weekday := ((days + 4) % 7).toNat
    yearday := (days - daysTo year 1 1).toNat }

private def dayNames : List String :=
  ["Sunday", "Monday", "Tuesday", "Wednesday", "Thursday", "Friday", "Saturday"]

private def monthNames : List String :=
  ["January", "February", "March", "April", "May", "June", "July", "August", "September",
    "October", "November", "December"]

/-- A number with at least so many characters. -/
def paddedWith (fill : Char) (width : Nat) (n : Int) : Text :=
  let ds := (toString n.natAbs).toList
  (if n < 0 then ['-'] else []) ++ List.replicate (width - ds.length) fill ++ ds

/-- The number of the week by the rule that a week belongs to the year of its Thursday, and that
year. -/
def week (m : Moment) : Int × Nat :=
  let fromMonday := (m.weekday + 6) % 7
  let thursday := ofSeconds ((daysTo m.year m.month m.day - fromMonday + 3) * 86400)
  (thursday.year, thursday.yearday / 7 + 1)

/-- What a letter in a format stands for. -/
def field (t : Int) (m : Moment) (letter : Char) : Option Text :=
  let two (n : Nat) : Text := paddedWith '0' 2 n
  let hour12 := if m.hour % 12 == 0 then 12 else m.hour % 12
  let dayName := (dayNames.getD m.weekday "").toList
  let monthName := (monthNames.getD (m.month - 1) "").toList
  let clock := two m.hour ++ ':' :: two m.minute ++ ':' :: two m.second
  let half := if m.hour < 12 then "AM" else "PM"
  match letter with
  | 'Y' => some (paddedWith '0' 1 m.year)
  | 'C' => some (two (m.year / 100).toNat)
  | 'y' => some (two (m.year % 100).toNat)
  | 'm' => some (two m.month)
  | 'd' => some (two m.day)
  | 'e' => some (paddedWith ' ' 2 m.day)
  | 'H' => some (two m.hour)
  | 'k' => some (paddedWith ' ' 2 m.hour)
  | 'I' => some (two hour12)
  | 'l' => some (paddedWith ' ' 2 hour12)
  | 'M' => some (two m.minute)
  | 'S' => some (two m.second)
  | 'N' => some "000000000".toList
  | 'p' => some half.toList
  | 'P' => some (half.toList.map Char.toLower)
  | 'j' => some (paddedWith '0' 3 (m.yearday + 1))
  | 'a' => some (dayName.take 3)
  | 'A' => some dayName
  | 'b' | 'h' => some (monthName.take 3)
  | 'B' => some monthName
  | 'u' => some (toString (if m.weekday == 0 then 7 else m.weekday)).toList
  | 'w' => some (toString m.weekday).toList
  | 'q' => some (toString ((m.month + 2) / 3)).toList
  | 'U' => some (two ((m.yearday + 7 - m.weekday) / 7))
  | 'W' => some (two ((m.yearday + 7 - (m.weekday + 6) % 7) / 7))
  | 'V' => some (two (week m).2)
  | 'G' => some (paddedWith '0' 1 (week m).1)
  | 'g' => some (two ((week m).1 % 100).toNat)
  | 's' => some (toString t).toList
  | 'T' | 'X' => some clock
  | 'R' => some (two m.hour ++ ':' :: two m.minute)
  | 'r' => some (two hour12 ++ ':' :: two m.minute ++ ':' :: two m.second ++ ' ' :: half.toList)
  | 'F' => some (paddedWith '0' 1 m.year ++ '-' :: two m.month ++ '-' :: two m.day)
  | 'D' | 'x' => some (two m.month ++ '/' :: two m.day ++ '/' :: two (m.year % 100).toNat)
  | 'c' => some (dayName.take 3 ++ ' ' :: monthName.take 3 ++ ' ' :: paddedWith ' ' 2 m.day ++
      ' ' :: clock ++ ' ' :: paddedWith '0' 1 m.year)
  | 'Z' => some "UTC".toList
  | 'z' => some "+0000".toList
  | 'n' => some ['\n']
  | 't' => some ['\t']
  | '%' => some ['%']
  | _ => none

/-- Fills the fields of a format. A sign before the letter says how numbers are filled up. -/
def format (t : Int) (text : Text) : Text :=
  let m := ofSeconds t
  let rec go : Nat → Text → Text → Text
    | 0, done, _ => done.reverse
    | _, done, [] => done.reverse
    | fuel + 1, done, '%' :: sign :: r =>
      let (sign, letter, rest) := match sign, r with
        | '-', c :: r => (some '-', c, r)
        | '_', c :: r => (some '_', c, r)
        | '0', c :: r => (some '0', c, r)
        | '^', c :: r => (some '^', c, r)
        | c, r => (none, c, r)
      match field t m letter with
      | none => go fuel (letter :: '%' :: done) rest
      | some v =>
        let digits := v.dropWhile fun c => c == '0' || c == ' '
        let digits := if digits.isEmpty then ['0'] else digits
        let blanks := List.replicate (v.length - digits.length)
        let v := match sign with
          | some '-' => digits
          | some '_' => blanks ' ' ++ digits
          | some '0' => blanks '0' ++ digits
          | some '^' => v.map Char.toUpper
          | _ => v
        go fuel (v.reverse ++ done) rest
    | fuel + 1, done, c :: r => go fuel (c :: done) r
  go (text.length + 1) [] text

private def numbers (mark : Char) (t : Text) : Option (List Nat) :=
  let parts := t.splitOn mark
  if parts.all fun p => !p.isEmpty && p.all Char.isDigit then
    some (parts.map fun p => p.foldl (fun n c => 10 * n + (c.toNat - '0'.toNat)) 0)
  else none

/-- How long a unit of time is in seconds. -/
private def unitSeconds? (t : Text) : Option Int :=
  match String.ofList t with
  | "second" | "seconds" | "sec" | "secs" => some 1
  | "minute" | "minutes" | "min" | "mins" => some 60
  | "hour" | "hours" => some 3600
  | "day" | "days" => some 86400
  | "week" | "weeks" => some 604800
  | _ => none

/-- Adds what words say about months and years. -/
private def addMonths (t : Int) (count : Int) : Int :=
  let m := ofSeconds t
  let months := m.year * 12 + (m.month - 1 : Nat) + count
  seconds (months / 12) ((months % 12).toNat + 1) 1 m.hour m.minute m.second +
    ((m.day : Int) - 1) * 86400

/-- Reads the words of a date. -/
private def readWords (now : Int) : Nat → Option Int → List Text → Option Int
  | 0, _, _ => none
  | _, t, [] => some (t.getD now)
  | fuel + 1, t, w :: rest =>
    let signed (w : Text) : Option Int := match w with
      | '-' :: r => (numbers ' ' r).map fun ns => -(ns.headD 0 : Int)
      | '+' :: r => (numbers ' ' r).map fun ns => (ns.headD 0 : Int)
      | r => (numbers ' ' r).map fun ns => (ns.headD 0 : Int)
    let base := t.getD now
    match String.ofList w, rest with
    | "now", _ | "UTC", _ | "Z", _ => readWords now fuel (some base) rest
    | "today", _ => readWords now fuel (some base) rest
    | "tomorrow", _ => readWords now fuel (some (base + 86400)) rest
    | "yesterday", _ => readWords now fuel (some (base - 86400)) rest
    | _, _ =>
      match numbers '-' w, numbers ':' ((w.takeWhile (· != 'Z')).takeWhile (· != '.')) with
      | some [y, m, d], _ =>
        if 1 ≤ m && m ≤ 12 && 1 ≤ d && d ≤ 31 then
          readWords now fuel (some (seconds y m d 0 0 0)) rest
        else none
      | _, some [h, m, s] =>
        if h < 24 && m < 60 && s < 61 then
          readWords now fuel (some (base / 86400 * 86400 + h * 3600 + m * 60 + s)) rest
        else none
      | _, some [h, m] =>
        if h < 24 && m < 60 then
          readWords now fuel (some (base / 86400 * 86400 + h * 3600 + m * 60)) rest
        else none
      | _, _ =>
        match signed w, rest with
        | some n, unit :: rest =>
          let (sign, rest) := match rest with
            | ['a', 'g', 'o'] :: rest => (-1, rest)
            | rest => (1, rest)
          match String.ofList unit with
          | "month" | "months" => readWords now fuel (some (addMonths base (sign * n))) rest
          | "year" | "years" => readWords now fuel (some (addMonths base (12 * sign * n))) rest
          | _ =>
            match unitSeconds? unit with
            | some u => readWords now fuel (some (base + sign * n * u)) rest
            | none => none
        | _, _ => none

/-- The moment that a text such as `2020-01-31 12:30:00`, `@0` or `1 day ago` names. -/
def parse? (now : Int) (t : Text) : Option Int :=
  match t with
  | '@' :: '-' :: r => (numbers ' ' r).map fun ns => -(ns.headD 0 : Int)
  | '@' :: r => (numbers ' ' r).map fun ns => (ns.headD 0 : Int)
  | t =>
    let spaced := match t with
      | _ :: _ => (t.zipIdx.flatMap fun (c, n) =>
          if c == 'T' && 0 < n && ((t.getD (n - 1) ' ').isDigit) then [' '] else [c])
      | [] => []
    let words := (spaced.splitOn ' ').filter (!·.isEmpty)
    readWords now (words.length + 1) none words

end Graft.Calendar
