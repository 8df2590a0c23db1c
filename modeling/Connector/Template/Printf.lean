import Connector.Template.Operators

/-!
# Patterns with percent signs

A pattern is text with places for values.  A place is a percent sign, flags, a width, a precision
and a letter that says how the value is shown.

* `Printf.Place` — a place of a pattern.
* `Printf.format` — a pattern with its places filled in order, or by name.
-/

namespace Connector.Template.Printf

/-- **A place for a value.** -/
structure Place where
  name : Option String
  minus : Bool
  zero : Bool
  plus : Bool
  blank : Bool
  width : Nat
  precision : Option Nat
  letter : Char

/-- The flags at the start of a text. -/
def takeFlags (cs : List Char) : List Char × List Char :=
  let isFlag := fun c => c = '-' || c = '0' || c = '+' || c = ' ' || c = '#'
  (cs.takeWhile isFlag, cs.dropWhile isFlag)

/-- A number at the start of a text. -/
def takeNumber (cs : List Char) : Nat × List Char :=
  let (n, _, rest) := Decimal.leadingDigits 0 0 cs
  (n, rest)

/-- A place after its percent sign. -/
def readPlace? (cs : List Char) : Option (Place × List Char) := do
  let (name, cs) ← match cs with
    | '(' :: rest =>
      if rest.contains ')' then
        some (some (String.ofList (rest.takeWhile (· ≠ ')'))), (rest.dropWhile (· ≠ ')')).drop 1)
      else none
    | cs => some (none, cs)
  let (flags, cs) := takeFlags cs
  let (width, cs) := takeNumber cs
  let (precision, cs) := match cs with
    | '.' :: rest =>
      let (n, rest) := takeNumber rest
      (some n, rest)
    | cs => (none, cs)
  match cs with
  | [] => none
  | letter :: rest =>
    some (⟨name, flags.contains '-', flags.contains '0', flags.contains '+', flags.contains ' ',
      width, precision, letter⟩, rest)

/-- Characters brought to a width; zeros go behind the sign. -/
def Place.pad (p : Place) (numeric : Bool) (cs : List Char) : List Char :=
  let gap := p.width - cs.length
  if p.minus then cs ++ List.replicate gap ' '
  else if p.zero && numeric then
    match cs with
    | '-' :: rest => '-' :: (List.replicate gap '0' ++ rest)
    | '+' :: rest => '+' :: (List.replicate gap '0' ++ rest)
    | cs => List.replicate gap '0' ++ cs
  else List.replicate gap ' ' ++ cs

/-- The sign of a number. -/
def Place.signOf (p : Place) (negative : Bool) : List Char :=
  if negative then ['-'] else if p.plus then ['+'] else if p.blank then [' '] else []

/-- The integer of a number, without its fraction. -/
def integerOf? : Value → Option Int
  | .bool b => some (if b then 1 else 0)
  | .int n => some n
  | .float (.finite d) =>
    let (m, e) := d.decompose
    let n : Nat := if e ≥ 0 then m * Nat.pow 2 e.toNat else m / Nat.pow 2 (-e).toNat
    some (if d.isNegative then -(n : Int) else n)
  | _ => none

/-- `n / d` rounded to the nearest natural number, a half to the even one. -/
def roundedQuotient (n d : Nat) : Nat :=
  let q := n / d
  let r := n % d
  if 2 * r < d then q else if d < 2 * r then q + 1 else if q % 2 = 0 then q else q + 1

/-- A magnitude with a fixed number of places. -/
def fixed (m : Nat) (e : Int) (places : Nat) : List Char :=
  let units :=
    if e ≥ 0 then m * Nat.pow 2 e.toNat * Nat.pow 10 places
    else roundedQuotient (m * Nat.pow 10 places) (Nat.pow 2 (-e).toNat)
  let digits := Nat.toDigits 10 units
  let digits := List.replicate (places + 1 - digits.length) '0' ++ digits
  let whole := digits.take (digits.length - places)
  if places = 0 then whole else whole ++ '.' :: digits.drop (digits.length - places)

/-- The text of a value at a place. -/
def Place.show (p : Place) (v : Value) : Except Fault (List Char) := do
  let integer := fun (base : Nat) (upper : Bool) => do
    let some n := integerOf? v | throw Fault.invalidOperation
    let digits := Nat.toDigits base n.natAbs
    let digits := if upper then digits.map Char.toUpper else digits
    pure (p.pad true (p.signOf (n < 0) ++ digits))
  match p.letter with
  | 's' =>
    let cs := v.text.toList
    pure (p.pad false ((p.precision.map cs.take).getD cs))
  | 'r' => pure (p.pad false v.debug.toList)
  | 'd' | 'i' | 'u' => integer 10 false
  | 'x' => integer 16 false
  | 'X' => integer 16 true
  | 'o' => integer 8 false
  | 'f' | 'F' =>
    match Value.asFloat? false v with
    | some (.finite d) =>
      let (m, e) := d.decompose
      pure (p.pad true (p.signOf d.isNegative ++ fixed m e (p.precision.getD 6)))
    | _ => throw .invalidOperation
  | 'c' => pure (p.pad false (v.text.toList.take 1))
  | _ => throw .invalidOperation

/-- Fill the places of a pattern, where each step takes one unit of `fuel`. -/
def fill : Nat → List Char → List Value → List (String × Value) → Except Fault (List Char)
  | 0, _, _, _ => pure []
  | fuel + 1, cs, values, byName =>
    match cs with
    | [] => if values.isEmpty then pure [] else throw .tooManyArguments
    | '%' :: '%' :: rest => do return '%' :: (← fill fuel rest values byName)
    | '%' :: rest =>
      match readPlace? rest with
      | none => throw .invalidOperation
      | some (place, rest) =>
        match place.name, values with
        | some name, _ =>
          match byName.lookup name with
          | none => throw .missingArgument
          | some v => do return (← place.show v) ++ (← fill fuel rest values byName)
        | none, [] => throw .missingArgument
        | none, v :: values => do return (← place.show v) ++ (← fill fuel rest values byName)
    | c :: rest => do return c :: (← fill fuel rest values byName)

/-- **A pattern with its places filled.** -/
def format (pattern : String) (values : List Value) (byName : List (String × Value)) :
    Except Fault String :=
  let cs := pattern.toList
  String.ofList <$> fill (cs.length + 1) cs values byName

end Connector.Template.Printf
