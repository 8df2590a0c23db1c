import Connector.Calendar.Date
import Connector.Calendar.Pattern
import Connector.Calendar.Printer

/-!
# Reading dates

A text is read along a pattern, which collects numbers; then the numbers are put together.  Every
number that was read must agree with the result, also the redundant ones.

* `Fields` — the numbers that were read.
* `Fields.read?` — the numbers of a text, all of which the pattern must cover.
* `Fields.moment` — the moment that the numbers name.
* `Moment.parse?` — the moment of a text, with its offset if it says one.
-/

namespace Connector.Calendar

/-- **The numbers that a text gave**, in the kinds in which they are put together. -/
structure Fields where
  year : Option Int := none
  century : Option Int := none
  yearOfCentury : Option Int := none
  isoYear : Option Int := none
  isoCentury : Option Int := none
  isoYearOfCentury : Option Int := none
  quarter : Option Int := none
  month : Option Int := none
  day : Option Int := none
  weekFromSunday : Option Int := none
  weekFromMonday : Option Int := none
  isoWeek : Option Int := none
  weekday : Option Int := none
  ordinal : Option Int := none
  afternoon : Option Int := none
  hourOnDial : Option Int := none
  minute : Option Int := none
  second : Option Int := none
  nanosecond : Option Int := none
  timestamp : Option Int := none
  offset : Option Int := none

namespace Fields

/-- A number within bounds that does not contradict one that is there already. -/
def agreed? (low high : Int) (old : Option Int) (n : Int) : Option (Option Int) :=
  if low ≤ n ∧ n ≤ high then
    match old with
    | none => some (some n)
    | some m => if m = n then some (some n) else none
  else none

/-- The greatest year that can be read. -/
def mostYear : Int := Nat.pow 2 31 - 1

/-- Note the hour of a day, in its two parts. -/
def setHour? (fs : Fields) (n : Int) : Option Fields := do
  if 0 ≤ n ∧ n ≤ 23 then
    let afternoon ← agreed? 0 1 fs.afternoon (n / 12)
    let hourOnDial ← agreed? 0 11 fs.hourOnDial (n % 12)
    some { fs with afternoon, hourOnDial }
  else none

/-- **Note a number.** -/
def set? (fs : Fields) (field : Field) (n : Int) : Option Fields :=
  match field with
  | .year => (agreed? (-mostYear - 1) mostYear fs.year n).map fun v => { fs with year := v }
  | .century => (agreed? 0 mostYear fs.century n).map fun v => { fs with century := v }
  | .yearOfCentury =>
    (agreed? 0 99 fs.yearOfCentury n).map fun v => { fs with yearOfCentury := v }
  | .isoYear => (agreed? (-mostYear - 1) mostYear fs.isoYear n).map fun v => { fs with isoYear := v }
  | .isoYearOfCentury =>
    (agreed? 0 99 fs.isoYearOfCentury n).map fun v => { fs with isoYearOfCentury := v }
  | .quarter => (agreed? 1 4 fs.quarter n).map fun v => { fs with quarter := v }
  | .month => (agreed? 1 12 fs.month n).map fun v => { fs with month := v }
  | .day => (agreed? 1 31 fs.day n).map fun v => { fs with day := v }
  | .weekFromSunday =>
    (agreed? 0 53 fs.weekFromSunday n).map fun v => { fs with weekFromSunday := v }
  | .weekFromMonday =>
    (agreed? 0 53 fs.weekFromMonday n).map fun v => { fs with weekFromMonday := v }
  | .isoWeek => (agreed? 1 53 fs.isoWeek n).map fun v => { fs with isoWeek := v }
  | .daysFromSunday =>
    if 0 ≤ n ∧ n ≤ 6 then
      (agreed? 0 6 fs.weekday ((n + 6) % 7)).map fun v => { fs with weekday := v }
    else none
  | .weekdayFromMonday => (agreed? 0 6 fs.weekday (n - 1)).map fun v => { fs with weekday := v }
  | .ordinal => (agreed? 1 366 fs.ordinal n).map fun v => { fs with ordinal := v }
  | .hour => fs.setHour? n
  | .hourOnDial =>
    if 1 ≤ n ∧ n ≤ 12 then
      (agreed? 0 11 fs.hourOnDial (n % 12)).map fun v => { fs with hourOnDial := v }
    else none
  | .minute => (agreed? 0 59 fs.minute n).map fun v => { fs with minute := v }
  | .second => (agreed? 0 60 fs.second n).map fun v => { fs with second := v }
  | .nanosecond => (agreed? 0 999999999 fs.nanosecond n).map fun v => { fs with nanosecond := v }
  | .timestamp => (agreed? (-(Nat.pow 2 63)) (Nat.pow 2 63 - 1) fs.timestamp n).map fun v =>
      { fs with timestamp := v }

/-- Note whether it is afternoon. -/
def setAfternoon? (fs : Fields) (afternoon : Bool) : Option Fields :=
  (agreed? 0 1 fs.afternoon (if afternoon then 1 else 0)).map fun v => { fs with afternoon := v }

/-- Note an offset. -/
def setOffset? (fs : Fields) (offset : Int) : Option Fields :=
  (agreed? (-(Nat.pow 2 31)) (Nat.pow 2 31 - 1) fs.offset offset).map fun v => { fs with offset := v }

/-! ## Along a pattern -/

/-- The digits at the start of a text, at most some of them, as a number that fits 64 bits. -/
def readNumber? (most : Option Nat) (cs : List Char) : Option (Int × Nat × List Char) :=
  let digits := cs.takeWhile Char.isDigit
  let digits := (most.map digits.take).getD digits
  if digits.isEmpty then none
  else
    let n := digits.foldl (fun n c => 10 * n + (c.toNat - '0'.toNat)) 0
    if n < Nat.pow 2 63 then some (n, digits.length, cs.drop digits.length) else none

/-- The most digits that a number has, and whether it may have a sign. -/
def widthOf : Field → Option Nat × Bool
  | .year | .isoYear => (some 4, true)
  | .quarter | .daysFromSunday | .weekdayFromMonday => (some 1, false)
  | .ordinal => (some 3, false)
  | .nanosecond => (some 9, false)
  | .timestamp => (none, false)
  | _ => (some 2, false)

/-- A number after any blanks; a sign frees it from its width. -/
def readField? (field : Field) (cs : List Char) : Option (Int × List Char) :=
  let cs := cs.dropWhile Text.isBlank
  let (width, signed) := widthOf field
  match signed, cs with
  | true, '-' :: rest => (readNumber? none rest).map fun (n, _, rest) => (-n, rest)
  | true, '+' :: rest => (readNumber? none rest).map fun (n, _, rest) => (n, rest)
  | _, cs => (readNumber? width cs).map fun (n, _, rest) => (n, rest)

/-- What follows a word, in letters of either case. -/
def afterWord? (word : List Char) (cs : List Char) : Option (List Char) :=
  if (cs.take word.length).map Char.toLower = word.map Char.toLower then some (cs.drop word.length)
  else none

/-- The place of the name that a text starts with: three letters, and with `long` the others if
they are there. -/
def readName? (names : List String) (long : Bool) (cs : List Char) : Option (Nat × List Char) :=
  names.zipIdx.findSome? fun (name, i) =>
    (afterWord? (name.toList.take 3) cs).map fun rest =>
      if long then
        match afterWord? (name.toList.drop 3) rest with
        | some rest => (i, rest)
        | none => (i, rest)
      else (i, rest)

/-- The digits of a fraction as nanoseconds; those beyond the ninth are passed over. -/
def readFraction? (cs : List Char) : Option (Int × List Char) :=
  (readNumber? (some 9) cs).map fun (n, count, rest) =>
    (n * Nat.pow 10 (9 - count), rest.dropWhile Char.isDigit)

/-- Exactly some digits of a fraction, as nanoseconds. -/
def readExactFraction? (places : Nat) (cs : List Char) : Option (Int × List Char) :=
  match readNumber? (some places) cs with
  | some (n, count, rest) => if count = places then some (n * Nat.pow 10 (9 - places), rest) else none
  | none => none

/-- Two digits. -/
def readTwo? : List Char → Option (Int × List Char)
  | a :: b :: rest =>
    if a.isDigit ∧ b.isDigit then
      some (((a.toNat - '0'.toNat) * 10 + (b.toNat - '0'.toNat) : Nat), rest)
    else none
  | _ => none

/-- **An offset**: a sign, hours and minutes, with colons or blanks between them.  A `Z` may stand
for none, and the minutes may be missing, where that is allowed. -/
def readOffset? (zulu bare : Bool) (cs : List Char) : Option (Int × List Char) :=
  match zulu, cs with
  | true, 'Z' :: rest | true, 'z' :: rest => some (0, rest)
  | _, sign :: rest =>
    if sign = '+' ∨ sign = '-' ∨ sign = '−' then do
      let (hours, rest) ← readTwo? rest
      let rest := rest.dropWhile fun c => c = ':' || Text.isBlank c
      let (minutes, rest) ← match readTwo? rest with
        | some (m, rest) => if m < 60 then some (m, rest) else none
        | none => if bare ∧ rest.isEmpty then some (0, rest) else none
      let n := hours * 3600 + minutes * 60
      some (if sign = '+' then n else -n, rest)
    else none
  | _, [] => none

/-- **Read one part.** -/
def readPart? (part : Part) (fs : Fields) (cs : List Char) : Option (Fields × List Char) :=
  match part with
  | .literal text => if text.isPrefixOf cs then some (fs, cs.drop text.length) else none
  | .blanks _ => some (fs, cs.dropWhile Text.isBlank)
  | .number field _ => do
    let (n, rest) ← readField? field cs
    some (← fs.set? field n, rest)
  | .monthName long => do
    let (i, rest) ← readName? monthNames long cs
    some (← fs.set? .month (i + 1 : Nat), rest)
  | .weekdayName long => do
    let (i, rest) ← readName? weekdayNames long cs
    some (← fs.set? .weekdayFromMonday (i + 1 : Nat), rest)
  | .halfDay _ =>
    match afterWord? ['a', 'm'] cs with
    | some rest => do some (← fs.setAfternoon? false, rest)
    | none => do
      let rest ← afterWord? ['p', 'm'] cs
      some (← fs.setAfternoon? true, rest)
  | .fraction _ =>
    match cs with
    | '.' :: rest => do
      let (n, rest) ← readFraction? rest
      some (← fs.set? .nanosecond n, rest)
    | cs => some (fs, cs)
  | .bareFraction places => do
    let (n, rest) ← readExactFraction? places cs
    some (← fs.set? .nanosecond n, rest)
  | .zoneName => some (fs, cs.dropWhile (!Text.isBlank ·))
  | .offset style => do
    let permissive := style = .permissive
    let (n, rest) ← readOffset? permissive permissive (cs.dropWhile Text.isBlank)
    some (← fs.setOffset? n, rest)
  | .isoMoment => none
  | .invalid => none

/-- Read the parts of a pattern one after the other. -/
def readParts? : List Part → Fields → List Char → Option (Fields × List Char)
  | [], fs, cs => some (fs, cs)
  | part :: parts, fs, cs => do
    let (fs, cs) ← readPart? part fs cs
    readParts? parts fs cs

/-- A moment in the interchange format, whose two halves a `T` or a blank may separate and whose
offset may be a `Z` or `UTC`. -/
def readIsoMoment? (fs : Fields) (cs : List Char) : Option (Fields × List Char) := do
  let (fs, cs) ← readParts? (Part.ofLetter 'F') fs cs
  let cs ← match cs with
    | 'T' :: rest | 't' :: rest | ' ' :: rest => some rest
    | _ => none
  let (fs, cs) ← readParts? (Part.clockParts ++ [.fraction none]) fs cs
  let cs := cs.dropWhile Text.isBlank
  let (offset, cs) ← match afterWord? ['u', 't', 'c'] cs with
    | some rest => some (0, rest)
    | none => readOffset? true false cs
  some (← fs.setOffset? offset, cs)

/-- Read a pattern that may hold whole moments. -/
def readPattern? : List Part → Fields → List Char → Option (Fields × List Char)
  | [], fs, cs => some (fs, cs)
  | part :: parts, fs, cs => do
    let (fs, cs) ← if part = .isoMoment then readIsoMoment? fs cs else readPart? part fs cs
    readPattern? parts fs cs

/-- **The numbers of a text.**  Nothing may be left of it. -/
def read? (pattern text : String) : Option Fields :=
  match readPattern? (Part.ofPattern pattern) {} text.toList with
  | some (fs, []) => some fs
  | _ => none

/-! ## Putting numbers together -/

/-- Why numbers name no day or time: there are too few, or they are wrong. -/
inductive Gap where
  | tooFew | wrong
  deriving DecidableEq

/-- The value, or the reason that there is none. -/
def orWrong (v : Option α) : Except Gap α :=
  match v with
  | some a => .ok a
  | none => .error .wrong

/-- **The year** from its full number, or from its century and its number in it; two digits alone
stand for the years 1970 to 2069. -/
def resolveYear (year century ofCentury : Option Int) : Except Gap (Option Int) :=
  match year, century, ofCentury with
  | year, none, none => .ok year
  | some y, q, r =>
    if 0 ≤ y ∧ q.getD (y / 100) = y / 100 ∧ r.getD (y % 100) = y % 100 then .ok (some y)
    else .error .wrong
  | none, some q, some r =>
    let y := q * 100 + r
    if 0 ≤ q ∧ y ≤ mostYear then .ok (some y) else .error .wrong
  | none, none, some r => .ok (some (r + (if r < 70 then 2000 else 1900)))
  | none, some _, none => .error .tooFew

/-- Whether a number that was read is the one that it should be. -/
def fits (given : Option Int) (n : Int) : Bool := given.all (· == n)

/-- Whether the parts of a year agree with it; a negative year has none. -/
def fitsYear (year century ofCentury : Option Int) (y : Int) : Bool :=
  fits year y && (if 0 ≤ y then fits century (y / 100) && fits ofCentury (y % 100)
    else century.isNone && ofCentury.isNone)

/-- Whether year, month and day of the month agree with a day. -/
def fitsMonthDay (fs : Fields) (d : Date) : Bool :=
  fitsYear fs.year fs.century fs.yearOfCentury d.year && fits fs.month d.month && fits fs.day d.day

/-- Whether the numbers of the ISO week agree with a day. -/
def fitsIsoWeek (fs : Fields) (d : Date) : Bool :=
  let (year, week) := d.isoWeek
  fitsYear fs.isoYear fs.isoCentury fs.isoYearOfCentury year && fits fs.isoWeek week
    && fits fs.weekday d.weekday

/-- Whether the numbers that count days and weeks agree with a day. -/
def fitsOrdinal (fs : Fields) (d : Date) : Bool :=
  fits fs.ordinal d.ordinal && fits fs.weekFromSunday (d.weekFrom 6)
    && fits fs.weekFromMonday (d.weekFrom 0)

/-- A number that is not negative. -/
def natural (n : Int) : Nat := n.toNat

/-- **The day that the numbers name**, by the first way that has all it needs. -/
def date (fs : Fields) : Except Gap Date := do
  let year ← resolveYear fs.year fs.century fs.yearOfCentury
  let isoYear ← resolveYear fs.isoYear fs.isoCentury fs.isoYearOfCentury
  let (agrees, d) ←
    match year, fs.month, fs.day, fs.ordinal, fs.weekFromSunday, fs.weekFromMonday, fs.weekday with
    | some y, some m, some d, _, _, _, _ => do
      let d ← orWrong (Date.ofMonthDay? y (natural m) (natural d))
      pure (fs.fitsIsoWeek d && fs.fitsOrdinal d, d)
    | some y, _, _, some n, _, _, _ => do
      let d ← orWrong (Date.ofOrdinal? y (natural n))
      pure (fs.fitsMonthDay d && fs.fitsIsoWeek d && fs.fitsOrdinal d, d)
    | some y, _, _, _, some w, _, some day => do
      let d ← orWrong (Date.ofWeek? y (natural w) (natural day) 6)
      pure (fs.fitsMonthDay d && fs.fitsIsoWeek d && fs.fitsOrdinal d, d)
    | some y, _, _, _, _, some w, some day => do
      let d ← orWrong (Date.ofWeek? y (natural w) (natural day) 0)
      pure (fs.fitsMonthDay d && fs.fitsIsoWeek d && fs.fitsOrdinal d, d)
    | _, _, _, _, _, _, some day =>
      match isoYear, fs.isoWeek with
      | some y, some w => do
        let d ← orWrong (Date.ofIsoWeek? y (natural w) (natural day))
        pure (fs.fitsMonthDay d && fs.fitsOrdinal d, d)
      | _, _ => throw .tooFew
    | _, _, _, _, _, _, none => throw .tooFew
  if agrees && fits fs.quarter d.quarter then pure d else throw .wrong

/-- **The time of day that the numbers name.**  Seconds may be missing, but not below a fraction. -/
def clock (fs : Fields) : Except Gap Clock := do
  match fs.afternoon, fs.hourOnDial, fs.minute with
  | some half, some hour, some minute =>
    let hour := natural (half * 12 + hour)
    let (second, leap) := if fs.second = some 60 then (59, 1000000000) else
      (natural (fs.second.getD 0), 0)
    match fs.nanosecond with
    | some n =>
      if fs.second.isSome then pure ⟨hour, natural minute, second, leap + natural n⟩
      else throw .tooFew
    | none => pure ⟨hour, natural minute, second, leap⟩
  | _, _, _ => throw .tooFew

/-- The moment that a timestamp names, which the numbers beside it must not contradict. -/
def momentOfTimestamp? (fs : Fields) (timestamp offset : Int) : Option Moment := do
  let n := timestamp + offset
  let m ← Moment.ofSeconds? n
  let (fs, m) ←
    if fs.second = some 60 then
      if m.clock.second = 59 then some (fs, m)
      else if m.clock.second = 0 then (Moment.ofSeconds? (n - 1)).map fun m => (fs, m)
      else none
    else (fs.set? .second m.clock.second).map fun fs => (fs, m)
  let fs ← fs.set? .year m.date.year
  let fs ← fs.set? .ordinal m.date.ordinal
  let fs ← fs.set? .hour m.clock.hour
  let fs ← fs.set? .minute m.clock.minute
  match fs.date, fs.clock with
  | .ok date, .ok clock => some ⟨date, clock⟩
  | _, _ => none

/-- **The moment that the numbers name**, at an offset.  A timestamp may stand for whatever is
missing. -/
def moment? (fs : Fields) (offset : Int) : Option Moment :=
  match fs.date, fs.clock, fs.timestamp with
  | .ok date, .ok clock, timestamp =>
    let m : Moment := ⟨date, clock⟩
    let n := m.seconds - offset
    match timestamp with
    | some t =>
      if t = n ∨ (1000000000 ≤ clock.nanosecond ∧ t = n + 1) then some m else none
    | none => some m
  | .error .wrong, _, _ | _, .error .wrong, _ => none
  | _, _, some t => fs.momentOfTimestamp? t offset
  | _, _, none => none

end Fields

/-- The moment with an offset, if one is given or a timestamp stands for universal time. -/
def Fields.zoned? (fs : Fields) : Option (Moment × Int) := do
  let offset ← match fs.offset, fs.timestamp with
    | some offset, _ => some offset
    | none, some _ => some 0
    | none, none => none
  let m ← fs.moment? offset
  if offset.natAbs < 86400 then some (m, offset) else none

/-- **The moment of a text in a pattern**, with its offset if it has one. -/
def Moment.parse? (pattern text : String) : Option (Moment × Option Int) := do
  let fs ← Fields.read? pattern text
  match fs.zoned? with
  | some (m, offset) => some (m, some offset)
  | none => (fs.moment? 0).map fun m => (m, none)

end Connector.Calendar
