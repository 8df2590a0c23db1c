import Connector.Calendar.Date
import Connector.Calendar.Pattern
import Connector.Text.Case

/-!
# Writing dates

* `Part.write?` — the text of a part of a moment; a part that the moment lacks has none.
* `Moment.format?` — the text of a moment in a pattern.
-/

namespace Connector.Calendar

/-- The names of the months. -/
def monthNames : List String :=
  ["January", "February", "March", "April", "May", "June", "July", "August", "September",
    "October", "November", "December"]

/-- The names of the days of the week. -/
def weekdayNames : List String :=
  ["Monday", "Tuesday", "Wednesday", "Thursday", "Friday", "Saturday", "Sunday"]

/-- A name, or its first three letters. -/
def nameText (long : Bool) (name : String) : List Char :=
  if long then name.toList else name.toList.take 3

/-- Digits brought to a width. -/
def padDigits (width : Nat) (padding : Padding) (digits : List Char) : List Char :=
  match padding with
  | .none => digits
  | .zero => List.replicate (width - digits.length) '0' ++ digits
  | .blank => List.replicate (width - digits.length) ' ' ++ digits

/-- A number of at most eight bits with two places; the place of the tens goes on beyond nine. -/
def writeTwo (n : Nat) (padding : Padding) : List Char :=
  let n := n % 256
  let ones := Char.ofNat ('0'.toNat + n % 10)
  match n / 10, padding with
  | 0, .none => [ones]
  | 0, .blank => [' ', ones]
  | tens, _ => [Char.ofNat ('0'.toNat + tens), ones]

/-- An integer with a least width, whose sign may always be shown. -/
def writeInteger (width : Nat) (n : Int) (padding : Padding) (alwaysSign : Bool) : List Char :=
  let digits := Nat.toDigits 10 n.natAbs
  let sign := if n < 0 then ['-'] else if alwaysSign then ['+'] else []
  let width := if alwaysSign then width + 1 else width
  match padding with
  | .none => sign ++ digits
  | .zero => sign ++ List.replicate (width - sign.length - digits.length) '0' ++ digits
  | .blank => List.replicate (width - sign.length - digits.length) ' ' ++ sign ++ digits

/-- A year has four places, and a sign if it needs more or is negative. -/
def writeYear (year : Int) (padding : Padding) : List Char :=
  writeInteger 4 year padding (year < 0 || 9999 < year)

/-- Nanoseconds to a number of places. -/
def writeFraction (places : Nat) (nanoseconds : Nat) : List Char :=
  padDigits places .zero (Nat.toDigits 10 (nanoseconds / Nat.pow 10 (9 - places)))

/-- Nanoseconds after a point, in three, six or nine places as needed; none if they are zero. -/
def writeShortFraction (nanoseconds : Nat) : List Char :=
  if nanoseconds = 0 then []
  else if nanoseconds % 1000000 = 0 then '.' :: writeFraction 3 nanoseconds
  else if nanoseconds % 1000 = 0 then '.' :: writeFraction 6 nanoseconds
  else '.' :: writeFraction 9 nanoseconds

/-- **An offset from universal time.**  Seconds that are not written round the minutes. -/
def writeOffset (style : OffsetStyle) (offset : Int) : List Char :=
  let sign := if offset < 0 then '-' else '+'
  let n := offset.natAbs
  let two := fun n => writeTwo n .zero
  match style with
  | .hours => sign :: two (n / 3600)
  | .seconds =>
    sign :: (two (n / 3600) ++ ':' :: two (n / 60 % 60) ++ ':' :: two (n % 60))
  | .colon =>
    let m := (n + 30) / 60
    sign :: (two (m / 60) ++ ':' :: two (m % 60))
  | .plain | .permissive =>
    let m := (n + 30) / 60
    sign :: (two (m / 60) ++ two (m % 60))

/-- An offset as the name of a zone. -/
def writeZone (offset : Int) : List Char :=
  let sign := if offset < 0 then '-' else '+'
  let n := offset.natAbs
  let two := fun n => writeTwo n .zero
  let short := sign :: (two (n / 3600) ++ ':' :: two (n / 60 % 60))
  if n % 60 = 0 then short else short ++ ':' :: two (n % 60)

/-- A number of a moment; the offset turns the timestamp into universal time. -/
def Field.write (f : Field) (padding : Padding) (m : Moment) (offset : Option Int) : List Char :=
  let d := m.date
  let c := m.clock
  match f with
  | .year => writeYear d.year padding
  | .century => writeTwo ((d.year / 100) % 256).toNat padding
  | .yearOfCentury => writeTwo (d.year % 100).toNat padding
  | .isoYear => writeYear d.isoWeek.1 padding
  | .isoYearOfCentury => writeTwo (d.isoWeek.1 % 100).toNat padding
  | .quarter => writeTwo d.quarter .none
  | .month => writeTwo d.month padding
  | .day => writeTwo d.day padding
  | .weekFromSunday => writeTwo (d.weekFrom 6) padding
  | .weekFromMonday => writeTwo (d.weekFrom 0) padding
  | .isoWeek => writeTwo d.isoWeek.2 padding
  | .daysFromSunday => writeTwo ((d.weekday + 1) % 7) .none
  | .weekdayFromMonday => writeTwo (d.weekday + 1) .none
  | .ordinal => writeInteger 3 d.ordinal padding false
  | .hour => writeTwo c.hour padding
  | .hourOnDial => writeTwo c.dial.2 padding
  | .minute => writeTwo c.minute padding
  | .second => writeTwo c.shownSecond padding
  | .nanosecond => writeInteger 9 c.fraction padding false
  | .timestamp => writeInteger 9 (m.seconds - offset.getD 0) padding false

/-- The moment in the interchange format, with its offset. -/
def writeIsoMoment (m : Moment) (offset : Int) : List Char :=
  let two := fun n => writeTwo n .zero
  let year :=
    if 0 ≤ m.date.year ∧ m.date.year ≤ 9999 then writeInteger 4 m.date.year .zero false
    else writeInteger 4 m.date.year .zero true
  year ++ '-' :: two m.date.month ++ '-' :: two m.date.day ++ 'T' :: two m.clock.hour
    ++ ':' :: two m.clock.minute ++ ':' :: two m.clock.shownSecond
    ++ writeShortFraction m.clock.fraction ++ writeOffset .colon offset

/-- **The text of a part**, if the moment and its offset have it. -/
def Part.write? (m : Moment) (offset : Option Int) : Part → Option (List Char)
  | .literal text | .blanks text => some text
  | .number field padding => some (field.write padding m offset)
  | .monthName long => monthNames[m.date.month - 1]?.map (nameText long)
  | .weekdayName long => weekdayNames[m.date.weekday]?.map (nameText long)
  | .halfDay upper =>
    let name := if m.clock.dial.1 then ['P', 'M'] else ['A', 'M']
    some (if upper then name else name.map Char.toLower)
  | .fraction none => some (writeShortFraction m.clock.fraction)
  | .fraction (some n) => some ('.' :: writeFraction n m.clock.fraction)
  | .bareFraction n => some (writeFraction n m.clock.fraction)
  | .zoneName => offset.map writeZone
  | .offset .permissive => none
  | .offset style => offset.map (writeOffset style)
  | .isoMoment => offset.map (writeIsoMoment m)
  | .invalid => none

/-- **The text of a moment in a pattern**; none if the pattern asks for what is not there. -/
def Moment.format? (m : Moment) (offset : Option Int) (pattern : String) : Option String :=
  ((Part.ofPattern pattern).mapM (Part.write? m offset)).map fun texts =>
    String.ofList texts.flatten

end Connector.Calendar
