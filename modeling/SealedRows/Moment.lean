import SealedRows.Numeral

/-! # Moments

A moment is a date with a time of day, counted in microseconds from the first moment of year 1; the
calendar ends with year 9999. A moment that knows how far its clock is ahead of universal time is an
instant, any other is only what a clock on a wall shows.
-/
namespace SealedRows

structure Date where
  year : Nat
  month : Nat
  day : Nat
  deriving DecidableEq, Repr

namespace Date

def daysBefore (year : Nat) : Nat :=
  let y := year - 1
  365 * y + y / 4 + y / 400 - y / 100

def isLeap (year : Nat) : Bool := year % 4 == 0 && (year % 100 != 0 || year % 400 == 0)

def monthLengths (year : Nat) : List Nat :=
  [31, if isLeap year then 29 else 28, 31, 30, 31, 30, 31, 31, 30, 31, 30, 31]

/-- The month of a day within a year and the day within it, all counted from zero. -/
def monthOf : List Nat → Nat → Nat × Nat
  | [], n => (0, n)
  | length :: rest, n =>
    if n < length then (0, n)
    else
      let (month, day) := monthOf rest (n - length)
      (month + 1, day)

/-- The year of a day of the calendar: an average year is too long or too short by less than a
year. -/
def yearOf (n : Nat) : Nat :=
  let y := n * 400 / 146097 + 1
  if daysBefore (y + 1) ≤ n then y + 1 else if daysBefore y ≤ n then y else y - 1

def ofDay (n : Nat) : Date :=
  let year := yearOf n
  let (month, day) := monthOf (monthLengths year) (n - daysBefore year)
  ⟨year, month + 1, day + 1⟩

def toDay? (d : Date) : Option Nat :=
  -- Month zero is looked up as the first one and refused with the other bounds.
  match (monthLengths d.year)[d.month - 1]? with
  | none => none
  | some length =>
    if 1 ≤ d.year ∧ d.year ≤ 9999 ∧ 1 ≤ d.month ∧ 1 ≤ d.day ∧ d.day ≤ length then
      some (daysBefore d.year + ((monthLengths d.year).take (d.month - 1)).sum + (d.day - 1))
    else none

end Date

def microsPerSecond : Nat := 1000000

def microsPerDay : Nat := 86400 * microsPerSecond

def microsOfCalendar : Nat := 3652059 * microsPerDay

structure Moment where
  /-- The microseconds on the clock. -/
  micros : Fin microsOfCalendar
  /-- The seconds by which the clock is ahead of universal time, if that is known. -/
  offset : Option Int
  deriving DecidableEq, Repr

namespace Moment

def ofMicros? (n : Int) (offset : Option Int) : Option Moment :=
  if h : 0 ≤ n ∧ n < microsOfCalendar then some ⟨⟨n.toNat, by omega⟩, offset⟩ else none

/-- The microseconds that a clock of universal time shows, also outside of the calendar. -/
def instant (m : Moment) : Int := m.micros.val - m.offset.getD 0 * microsPerSecond

/-- The same instant on a clock of universal time, unless it lies outside of the calendar. A moment
without an offset stays as it is. -/
def toUniversal? (m : Moment) : Option Moment :=
  ofMicros? m.instant (m.offset.map fun _ => 0)

/-- Whether two moments are the same instant, or show the same on clocks without offsets. -/
def sameAs (a b : Moment) : Bool := a.offset.isSome == b.offset.isSome && a.instant == b.instant

def date (m : Moment) : Date := Date.ofDay (m.micros.val / microsPerDay)

def clock (m : Moment) : Nat × Nat × Nat × Nat :=
  let n := m.micros.val % microsPerDay
  let s := n / microsPerSecond
  (s / 3600, s / 60 % 60, s % 60, n % microsPerSecond)

def ofClock? (d : Date) (hour minute second micro : Nat) (offset : Option Int) : Option Moment := do
  let day ← d.toDay?
  if hour < 24 ∧ minute < 60 ∧ second < 60 ∧ micro < microsPerSecond then
    let s := day * 86400 + hour * 3600 + minute * 60 + second
    ofMicros? (s * microsPerSecond + micro : Nat) offset
  else none

def toSeconds (separator : Text) (m : Moment) : Text :=
  let (hour, minute, second, _) := m.clock
  let two := Text.ofNatPadded 2
  Text.joined "-" [Text.ofNatPadded 4 m.date.year, two m.date.month, two m.date.day] ++ separator
    ++ Text.joined ":" [two hour, two minute, two second]

def fraction (m : Moment) : Text := Text.ofNatPadded 6 m.clock.2.2.2

def toStamp (m : Moment) : Text := m.toSeconds "T" ++ "." ++ m.fraction

/-- The moment of a date and a time with the letter T between them. The microseconds may be left out. -/
def ofStamp? (t : Text) (offset : Option Int) : Option Moment :=
  let part (start length : Nat) : Nat := Numeral.natOf ((t.drop start).take length)
  -- Places that are left out stand on the right.
  let micro := ((t.drop 20).take 6 ++ "000000").take 6
  ofClock? ⟨part 0 4, part 5 2, part 8 2⟩ (part 11 2) (part 14 2) (part 17 2) (Numeral.natOf micro)
    offset

/-- The date and the time with a space between them, the microseconds unless they are zero, and the
offset if it is known, with its seconds unless they are zero. -/
def toText (m : Moment) : Text :=
  let micros : Text := if m.clock.2.2.2 = 0 then [] else "." ++ m.fraction
  let zone : Text :=
    match m.offset with
    | none => []
    | some o =>
      let n := o.natAbs
      let two := Text.ofNatPadded 2
      let seconds : Text := if n % 60 = 0 then [] else ":" ++ two (n % 60)
      (if o < 0 then "-" else "+" : Text) ++ two (n / 3600) ++ ":" ++ two (n / 60 % 60) ++ seconds
  m.toSeconds " " ++ micros ++ zone

/-- A moment as messages show it: a list of numbers, without seconds and microseconds when both are
zero, and the zone if the offset is known. -/
def shown (m : Moment) : Text :=
  let (hour, minute, second, micro) := m.clock
  let last := if micro ≠ 0 then [second, micro] else if second ≠ 0 then [second] else []
  let numbers := [m.date.year, m.date.month, m.date.day, hour, minute] ++ last
  let zone : List Text :=
    match m.offset with
    | none => []
    | some 0 => ["tzinfo=datetime.timezone.utc"]
    | some o =>
      let days := o / 86400
      let seconds := o % 86400
      let parts : List Text :=
        (if days = 0 then [] else ["days=" ++ Text.ofInt days])
          ++ (if seconds = 0 then [] else ["seconds=" ++ Text.ofInt seconds])
      ["tzinfo=datetime.timezone(datetime.timedelta(" ++ Text.joined ", " parts ++ "))"]
  "datetime.datetime(" ++ Text.joined ", " (numbers.map Text.ofNat ++ zone) ++ ")"

end Moment
end SealedRows
