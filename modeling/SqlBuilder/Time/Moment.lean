import SqlBuilder.Text.Basic

/-!
# Dates and moments

Calendar dates, and wall clock times with or without an offset from universal time, with their ISO
texts. A moment with an offset denotes an instant; `Moment.atOffset` shows the same instant on a
clock at another offset.
-/

namespace SqlBuilder

/-- A calendar date. -/
structure Day where
  year : Nat
  month : Nat
  day : Nat
  deriving DecidableEq, Inhabited

/-- A wall clock time on a date; `offset` is the clock's distance from universal time in whole seconds,
if it is known, and `offsetMicro` what it has beyond these in microseconds. -/
structure Moment where
  date : Day
  hour : Nat := 0
  minute : Nat := 0
  second : Nat := 0
  micro : Nat := 0
  offset : Option Int := none
  offsetMicro : Nat := 0
  deriving DecidableEq, Inhabited

/-! ## Day numbers -/

namespace Day

/-- Whether a year of the Gregorian calendar has a leap day. -/
def isLeap (year : Nat) : Bool :=
  year % 4 == 0 && (year % 100 != 0 || year % 400 == 0)

/-- The number of days of a month. -/
def monthLength (year month : Nat) : Nat :=
  if month == 2 then if isLeap year then 29 else 28
  else if [4, 6, 9, 11].contains month then 30 else 31

/-- The number of days before a year, counted from the first day of year one. -/
def daysBeforeYear (year : Nat) : Nat :=
  let y := year - 1
  y * 365 + y / 4 - y / 100 + y / 400

/-- The number of days of a year before a month. -/
def daysBeforeMonth (year : Nat) : Nat → Nat
  | 0 => 0
  | 1 => 0
  | month + 1 => daysBeforeMonth year month + monthLength year month

/-- The days since the first day of year one. -/
def toNumber (d : Day) : Nat :=
  daysBeforeYear d.year + daysBeforeMonth d.year d.month + (d.day - 1)

/-- The last year from `low` to `low + span` that starts no later than day `n`. -/
def yearOf (n : Nat) (low : Nat) : Nat → Nat
  | 0 => low
  | span + 1 => if daysBeforeYear (low + span + 1) ≤ n then low + span + 1 else yearOf n low span

/-- The month and the day in it of the `n`th day of a year. -/
def monthOf (year n : Nat) : Nat → Nat × Nat
  | 0 => (1, n + 1)
  | month + 1 =>
    if daysBeforeMonth year (month + 1) ≤ n then (month + 1, n - daysBeforeMonth year (month + 1) + 1)
    else monthOf year n month

/-- The date of a day number. -/
def ofNumber (n : Nat) : Day :=
  let year := yearOf n (n / 366 + 1) (n / 365 + 1 - n / 366)
  let (month, day) := monthOf year (n - daysBeforeYear year) 12
  ⟨year, month, day⟩

/-- Whether the fields name a day of years 1 to 9999. -/
def isValid (d : Day) : Bool :=
  1 ≤ d.year && d.year ≤ 9999 && 1 ≤ d.month && d.month ≤ 12 && 1 ≤ d.day &&
    d.day ≤ monthLength d.year d.month

/-- The ISO text of a date. -/
def text (d : Day) : String :=
  Text.padded 4 d.year ++ "-" ++ Text.padded 2 d.month ++ "-" ++ Text.padded 2 d.day

/-- Reads `YYYY-MM-DD` or `YYYYMMDD`. -/
def ofText? (s : String) : Option Day :=
  let digits := match s.toList with
    | [a, b, c, d, '-', e, f, '-', g, h] => [a, b, c, d, e, f, g, h]
    | cs => cs
  match digits with
  | [a, b, c, d, e, f, g, h] =>
    let day : Day := ⟨Text.digitsValue [a, b, c, d], Text.digitsValue [e, f], Text.digitsValue [g, h]⟩
    if digits.all Char.isDigit && day.isValid then some day else none
  | _ => none

end Day

/-! ## Moments -/

namespace Moment

/-- Midnight of a date, on a clock of unknown offset. -/
def ofDay (d : Day) : Moment :=
  { date := d }

/-- The wall clock reading in microseconds since the start of year one. -/
def wallMicros (m : Moment) : Int :=
  (((m.date.toNumber * 24 + m.hour) * 60 + m.minute) * 60 + m.second) * 1000000 + m.micro

/-- The clock's distance from universal time in microseconds, if it is known. -/
def distance? (m : Moment) : Option Int :=
  m.offset.map fun seconds => seconds * 1000000 + m.offsetMicro

/-- The instant in microseconds of universal time since the start of year one, if the clock's offset is
known. -/
def instant? (m : Moment) : Option Int :=
  m.distance?.map fun distance => m.wallMicros - distance

/-- The moment that a wall clock of the given offset shows, if it stays within years 1 to 9999. -/
def ofWallMicros? (t : Int) (offset : Option Int) : Option Moment :=
  if t < 0 then none
  else
    let n := t.toNat
    let seconds := n / 1000000
    let date := Day.ofNumber (seconds / 86400)
    if date.year > 9999 then none
    else some
      { date
        hour := seconds / 3600 % 24
        minute := seconds / 60 % 60
        second := seconds % 60
        micro := n % 1000000
        offset }

/-- The wall clock reading moved by a number of seconds, on a clock of the given offset. -/
def shifted? (m : Moment) (seconds : Int) (offset : Option Int) : Option Moment :=
  ofWallMicros? (m.wallMicros + seconds * 1000000) offset

/-- The same instant in universal time; a moment of unknown offset is left alone. -/
def toUniversal? (m : Moment) : Option Moment :=
  match m.instant? with
  | none => some m
  | some t => ofWallMicros? t (some 0)

/-! ## Texts -/

/-- A distance in microseconds as `+HH:MM`, with seconds and microseconds where it has some. -/
def offsetText (distance : Int) : String :=
  let size := distance.natAbs / 1000000
  let micro := distance.natAbs % 1000000
  let micros := if micro = 0 then "" else "." ++ Text.padded 6 micro
  let seconds := if size % 60 = 0 && micro = 0 then "" else ":" ++ Text.padded 2 (size % 60) ++ micros
  (if distance < 0 then "-" else "+") ++ Text.padded 2 (size / 3600) ++ ":" ++
    Text.padded 2 (size / 60 % 60) ++ seconds

/-- The ISO text of a moment with the given mark between date and time; microseconds and the offset
appear where they are present. -/
def textWith (mark : String) (m : Moment) : String :=
  let micros := if m.micro = 0 then "" else "." ++ Text.padded 6 m.micro
  m.date.text ++ mark ++ Text.padded 2 m.hour ++ ":" ++ Text.padded 2 m.minute ++ ":" ++
    Text.padded 2 m.second ++ micros ++ (m.distance?.map offsetText).getD ""

/-- The ISO text of a moment. -/
def text (m : Moment) : String :=
  m.textWith "T"

/-- The clock reading to the millisecond, `YYYY-MM-DD HH:MM:SS.mmm`. -/
def clockText (m : Moment) : String :=
  m.date.text ++ " " ++ Text.padded 2 m.hour ++ ":" ++ Text.padded 2 m.minute ++ ":" ++
    Text.padded 2 m.second ++ "." ++ Text.padded 3 (m.micro / 1000)

/-! ## Reading -/

/-- Two digits below a bound. -/
def field? (bound : Nat) (a b : Char) : Option Nat :=
  let n := Text.digitsValue [a, b]
  if a.isDigit && b.isDigit && n < bound then some n else none

/-- Reads `HH`, `HH:MM` or `HH:MM:SS`, with or without the colons, as seconds, and returns the rest. -/
def clock? (cs : List Char) : Option ((Nat × Nat × Nat) × List Char) := do
  let a :: b :: rest := cs | none
  let hour ← field? 24 a b
  match rest with
  | ':' :: c :: d :: rest =>
    let minute ← field? 60 c d
    match rest with
    | ':' :: e :: f :: rest =>
      let second ← field? 60 e f
      return ((hour, minute, second), rest)
    | _ => return ((hour, minute, 0), rest)
  | c :: d :: rest' =>
    match field? 60 c d with
    | none => return ((hour, 0, 0), rest)
    | some minute =>
      match rest' with
      | e :: f :: rest'' =>
        match field? 60 e f with
        | none => return ((hour, minute, 0), rest')
        | some second => return ((hour, minute, second), rest'')
      | _ => return ((hour, minute, 0), rest')
  | _ => return ((hour, 0, 0), rest)

/-- The microseconds that a run of fraction digits denotes; digits past the sixth are dropped. -/
def microOf (digits : List Char) : Nat :=
  let kept := digits.take 6
  Text.digitsValue kept * Nat.pow 10 (6 - kept.length)

/-- The microseconds of a fraction at the beginning of a text, and the rest of the text. -/
def fraction : List Char → Nat × List Char
  | '.' :: rest | ',' :: rest => (microOf (rest.takeWhile Char.isDigit), rest.dropWhile Char.isDigit)
  | rest => (0, rest)

/-- A distance from universal time in microseconds: nothing, `Z`, or a signed clock. A fraction of a
second alone does not count. -/
def distanceOf? : List Char → Option (Option Int)
  | [] => some none
  | ['Z'] => some (some 0)
  | sign :: cs =>
    if sign != '+' && sign != '-' then none
    else match clock? cs with
      | none => none
      | some ((hour, minute, second), rest) =>
        match fraction rest with
        | (micro, []) =>
          let seconds : Int := (hour * 60 + minute) * 60 + second
          let size := if seconds = 0 then 0 else seconds * 1000000 + micro
          some (some (if sign == '-' then -size else size))
        | _ => none

/-- Reads an ISO date and time, or a date alone. -/
def ofText? (s : String) : Option Moment := do
  let cs := s.toList
  let width := if cs[4]? == some '-' then 10 else 8
  let date ← Day.ofText? (String.ofList (cs.take width))
  match cs.drop width with
  | [] => return ofDay date
  | _ :: time =>
    let ((hour, minute, second), rest) ← clock? time
    let (micro, rest) := fraction rest
    let distance ← distanceOf? rest
    return {
      date, hour, minute, second, micro
      offset := distance.map (· / 1000000)
      offsetMicro := (distance.getD 0 % 1000000).toNat }

end Moment

end SqlBuilder
