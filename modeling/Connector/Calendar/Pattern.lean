import Connector.Text.Blank

/-!
# Patterns of dates

A pattern is a text in which a percent sign and a letter stand for a part of a date or time.

* `Part` — what can be shown or read.
* `Part.ofPattern` — the parts of a pattern.  One that means nothing becomes `invalid`.
-/

namespace Connector.Calendar

/-- The parts that are numbers. -/
inductive Field where
  | year | century | yearOfCentury
  | isoYear | isoYearOfCentury
  | quarter | month | day
  | weekFromSunday | weekFromMonday | isoWeek
  | daysFromSunday | weekdayFromMonday
  | ordinal
  | hour | hourOnDial | minute | second | nanosecond
  | timestamp
  deriving DecidableEq

/-- What fills a number up to its width. -/
inductive Padding where
  | none | zero | blank
  deriving DecidableEq

/-- How exactly an offset is written. -/
inductive OffsetStyle where
  | plain | colon | seconds | hours | permissive
  deriving DecidableEq

/-- **A part of a pattern.** -/
inductive Part where
  | literal (text : List Char)
  | blanks (text : List Char)
  | number (field : Field) (padding : Padding)
  | monthName (long : Bool)
  | weekdayName (long : Bool)
  | halfDay (upper : Bool)
  /-- A point and as many digits as needed, or a number of them. -/
  | fraction (digits : Option Nat)
  /-- A number of digits without a point. -/
  | bareFraction (digits : Nat)
  | zoneName
  | offset (style : OffsetStyle)
  | isoMoment
  | invalid
  deriving DecidableEq

namespace Part

/-- A number with zeros before it. -/
def padded (field : Field) : Part := .number field .zero

/-- A literal of one character. -/
def sign (c : Char) : Part := .literal [c]

/-- Hour, minute and second. -/
def clockParts : List Part := [padded .hour, sign ':', padded .minute, sign ':', padded .second]

/-- **The parts that a letter stands for.** -/
def ofLetter (c : Char) : List Part :=
  match c with
  | 'A' => [.weekdayName true]
  | 'B' => [.monthName true]
  | 'C' => [padded .century]
  | 'D' => [padded .month, sign '/', padded .day, sign '/', padded .yearOfCentury]
  | 'F' => [padded .year, sign '-', padded .month, sign '-', padded .day]
  | 'G' => [padded .isoYear]
  | 'H' => [padded .hour]
  | 'I' => [padded .hourOnDial]
  | 'M' => [padded .minute]
  | 'P' => [.halfDay false]
  | 'R' => [padded .hour, sign ':', padded .minute]
  | 'S' => [padded .second]
  | 'T' => clockParts
  | 'U' => [padded .weekFromSunday]
  | 'V' => [padded .isoWeek]
  | 'W' => [padded .weekFromMonday]
  | 'X' => clockParts
  | 'Y' => [padded .year]
  | 'Z' => [.zoneName]
  | 'a' => [.weekdayName false]
  | 'b' | 'h' => [.monthName false]
  | 'c' =>
    [.weekdayName false, .blanks [' '], .monthName false, .blanks [' '], .number .day .blank,
      .blanks [' ']] ++ clockParts ++ [.blanks [' '], padded .year]
  | 'd' => [padded .day]
  | 'e' => [.number .day .blank]
  | 'f' => [padded .nanosecond]
  | 'g' => [padded .isoYearOfCentury]
  | 'j' => [padded .ordinal]
  | 'k' => [.number .hour .blank]
  | 'l' => [.number .hourOnDial .blank]
  | 'm' => [padded .month]
  | 'n' => [.blanks ['\n']]
  | 'p' => [.halfDay true]
  | 'q' => [.number .quarter .none]
  | 'r' =>
    [padded .hourOnDial, sign ':', padded .minute, sign ':', padded .second, .blanks [' '],
      .halfDay true]
  | 's' => [.number .timestamp .none]
  | 't' => [.blanks ['\t']]
  | 'u' => [.number .weekdayFromMonday .none]
  | 'v' => [.number .day .blank, sign '-', .monthName false, sign '-', padded .year]
  | 'w' => [.number .daysFromSunday .none]
  | 'x' => [padded .month, sign '/', padded .day, sign '/', padded .yearOfCentury]
  | 'y' => [padded .yearOfCentury]
  | 'z' => [.offset .plain]
  | '+' => [.isoMoment]
  | '%' => [.literal ['%']]
  | _ => [.invalid]

/-- The number of digits that a figure announces. -/
def digits? (c : Char) : Option Nat :=
  match c with
  | '3' => some 3
  | '6' => some 6
  | '9' => some 9
  | _ => none

/-- The parts after a percent sign, and what follows them. -/
def ofSpecifier : List Char → List Part × List Char
  | [] => ([.invalid], [])
  | ':' :: ':' :: ':' :: 'z' :: rest => ([.offset .hours], rest)
  | ':' :: ':' :: 'z' :: rest => ([.offset .seconds], rest)
  | ':' :: 'z' :: rest => ([.offset .colon], rest)
  | '.' :: 'f' :: rest => ([.fraction none], rest)
  | '.' :: c :: 'f' :: rest =>
    match digits? c with
    | some n => ([.fraction (some n)], rest)
    | none => ([.invalid], rest)
  | '#' :: 'z' :: rest => ([.offset .permissive], rest)
  | c :: rest =>
    match digits? c, rest with
    | some n, 'f' :: rest => ([.bareFraction n], rest)
    | _, rest => (ofLetter c, rest)

/-- What a flag says about padding. -/
def paddingOf? (c : Char) : Option Padding :=
  match c with
  | '-' => some .none
  | '0' => some .zero
  | '_' => some .blank
  | _ => none

/-- The parts after a percent sign, with a flag on numbers. -/
def ofFlagged : List Char → List Part × List Char
  | [] => ([.invalid], [])
  | c :: rest =>
    match paddingOf? c with
    | none => ofSpecifier (c :: rest)
    | some padding =>
      match ofSpecifier rest with
      | ([.number field _], rest) => ([.number field padding], rest)
      | (_, rest) => ([.invalid], rest)

/-- The parts of the characters of a pattern; each step takes one unit of `fuel`. -/
def ofChars : Nat → List Char → List Part
  | 0, _ => []
  | _, [] => []
  | fuel + 1, '%' :: rest =>
    let (parts, rest) := ofFlagged rest
    parts ++ ofChars fuel rest
  | fuel + 1, c :: rest =>
    let cs := c :: rest
    if Text.isBlank c then
      .blanks (cs.takeWhile Text.isBlank) :: ofChars fuel (cs.dropWhile Text.isBlank)
    else
      let plain := fun c => c ≠ '%' ∧ !Text.isBlank c
      .literal (cs.takeWhile plain) :: ofChars fuel (cs.dropWhile plain)

/-- **The parts of a pattern.** -/
def ofPattern (pattern : String) : List Part :=
  let cs := pattern.toList
  ofChars (cs.length + 1) cs

end Part

end Connector.Calendar
