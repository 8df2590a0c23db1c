import Connector.Template.Printf
import Connector.Template.Test
import Connector.Text.Blank

/-!
# Filters

What may follow a bar in an expression.

* `Filter.find?` — the filter of a name.  It takes the filtered value and the arguments.
* `Filter.apply` — apply a filter by its name.

Filters that run over elements refuse a missing value; filters that turn their value into a text
do so too.
-/

namespace Connector.Template.Filter

open Arguments

/-- The elements of a value, which must not be missing. -/
def elements (v : Value) : Except Fault (List Value) :=
  if v.isMissing then throw .undefinedValue
  else
    match v.elements? with
    | some items => pure items
    | none => throw .invalidOperation

/-- The elements of a value that is turned into a list. -/
def listed (v : Value) : Except Fault (List Value) :=
  if v.isMissing then throw .invalidOperation
  else
    match v.elements? with
    | some items => pure items
    | none => throw .invalidOperation

/-! ## Texts -/

/-- A filter of a text. -/
def textual (f : String → String) : Arguments Value := do
  let s ← text
  finish
  pure (.ofText (f s))

/-- Every word with a capital first letter; blanks and punctuation end words. -/
def titled (start : Bool) : List Char → List Char
  | [] => []
  | c :: rest =>
    let isPunctuation := c.toNat < 0x80 && c.toNat > 0x20 && c.toNat ≠ 0x7F && !c.isAlphanum
    if isPunctuation || Text.isBlank c then c :: titled true rest
    else (if start then Text.upperChar c else Text.lowerChar c) ++ titled false rest

/-- The first letter as a capital and all others small. -/
def capitalized (s : String) : String :=
  match s.toList with
  | [] => ""
  | c :: rest => String.ofList (Text.upperChar c) ++ Text.lower (String.ofList rest)

/-- The entity that stands for a character of markup. -/
def entity (c : Char) : List Char :=
  match c with
  | '<' => ['&', 'l', 't', ';']
  | '>' => ['&', 'g', 't', ';']
  | '&' => ['&', 'a', 'm', 'p', ';']
  | '"' => ['&', 'q', 'u', 'o', 't', ';']
  | '\'' => ['&', '#', 'x', '2', '7', ';']
  | '/' => ['&', '#', 'x', '2', 'f', ';']
  | c => [c]

/-- A text without markup. -/
def escaped (s : String) : String := String.ofList (s.toList.flatMap entity)

/-- A value as it is printed where markup is escaped. -/
def escapedText (v : Value) : String :=
  match v with
  | .str s true => s
  | .str s false => escaped s
  | .undefined _ | .none | .bool _ | .int _ | .float _ => v.text
  | v => escaped v.text

/-- The pieces of a text between blanks, at most `limit` of them; the last keeps its blanks
inside. -/
def wordsUpTo (limit : Nat) (s : String) : List String :=
  let rec go : Nat → List Char → List String
    | 0, _ => []
    | n + 1, cs =>
      match cs.dropWhile Text.isBlank with
      | [] => []
      | cs =>
        if n = 0 then [String.ofList cs]
        else
          String.ofList (cs.takeWhile (!Text.isBlank ·)) :: go n (cs.dropWhile (!Text.isBlank ·))
  go limit s.toList

/-- A text without one line end at its end. -/
def dropLineEnd (s : String) : String :=
  match s.toList.reverse with
  | '\n' :: '\r' :: rest => String.ofList rest.reverse
  | '\n' :: rest => String.ofList rest.reverse
  | '\r' :: rest => String.ofList rest.reverse
  | _ => s

/-- Lines moved to the right; the first and the empty ones only if asked for. -/
def indented (width : Nat) (first blank : Bool) (s : String) : String :=
  let margin := String.ofList (List.replicate width ' ')
  let shift := fun line : String =>
    if line.isEmpty then (if blank then margin else "") else margin ++ line
  match Text.splitOn "\n" (dropLineEnd s) with
  | [] => ""
  | line :: rest =>
    dropLineEnd (String.join (((if first then shift line else line) :: rest.map shift).map
      (· ++ "\n")))

/-- Items as texts with a text between neighbours.  As long as nothing has been written, nothing
comes between. -/
def joined (separator : String) (items : List Value) : String :=
  items.foldl (fun s item => (if s.isEmpty then s else s ++ separator) ++ item.text) ""

/-! ## Numbers -/

/-- A power of ten as repeated squaring yields it. -/
def powerOfTen (n : Int) : Float :=
  let rec go : Nat → Float → Float → Nat → Float
    | 0, r, _, _ => r
    | fuel + 1, r, a, b =>
      let r := if b % 2 = 1 then r * a else r
      if b / 2 = 0 then r else go fuel r (a * a) (b / 2)
  let r := go 40 1.0 10.0 n.natAbs
  if n < 0 then 1.0 / r else r

/-- A number rounded to some places, a half away from zero. -/
def rounded (v : Value) (places : Int) : Except Fault Value :=
  match v with
  | .int n => pure (.int n)
  | .float x =>
    let scale := powerOfTen places
    pure (.float (.ofFloat ((scale * x.toFloat).round / scale)))
  | _ => throw .invalidOperation

/-- The magnitude of a number. -/
def magnitude (v : Value) : Except Fault Value :=
  match v with
  | .int n => if n = -(Nat.pow 2 127) then throw .invalidOperation else pure (.int n.natAbs)
  | .float x => pure (.float (.ofFloat x.toFloat.abs))
  | _ => throw .invalidOperation

/-- The integer next to a float toward zero, within 128 bits. -/
def toInteger : Extended → Int
  | .finite d =>
    let n := (Printf.integerOf? (.float (.finite d))).getD 0
    if n < -(Nat.pow 2 127) then -(Nat.pow 2 127) else if Nat.pow 2 127 ≤ n then Nat.pow 2 127 - 1 else n
  | .infinite false => Nat.pow 2 127 - 1
  | .infinite true => -(Nat.pow 2 127)
  | .notANumber => 0

/-- The integer of decimal digits with an optional sign. -/
def readInteger? (s : String) : Option Int :=
  let (negative, cs) := match s.toList with
    | '-' :: rest => (true, rest)
    | '+' :: rest => (false, rest)
    | cs => (false, cs)
  match Decimal.leadingDigits 0 0 cs with
  | (_, 0, _) => none
  | (n, _, []) =>
    let n : Int := if negative then -(n : Int) else n
    if -(Nat.pow 2 127) ≤ n ∧ n < Nat.pow 2 127 then some n else none
  | _ => none

/-- **The integer of a value.** -/
def integer (v : Value) : Except Fault Value :=
  match v with
  | .undefined _ | .none => pure (.int 0)
  | .bool b => pure (.int (if b then 1 else 0))
  | .int n => pure (.int n)
  | .float x => pure (.int (toInteger x))
  | .str s _ =>
    match readInteger? s with
    | some n => pure (.int n)
    | none =>
      match Decimal.readFloat? s with
      | some x => pure (.int (toInteger (.ofFloat x)))
      | none => throw .invalidOperation
  | _ => throw .invalidOperation

/-- **The float of a value.** -/
def float (v : Value) : Except Fault Value :=
  match v with
  | .undefined _ | .none => pure (.float (.ofInt 0))
  | .bool b => pure (.float (.ofInt (if b then 1 else 0)))
  | .int n => pure (.float (.ofInt n))
  | .float x => pure (.float x)
  | .str s _ =>
    match Decimal.readFloat? s with
    | some x => pure (.float (.ofFloat x))
    | none => throw .invalidOperation
  | _ => throw .invalidOperation

/-! ## Order -/

/-- The order of two values in which letters of either case are alike, unless they shall not. -/
def compareBy (caseSensitive : Bool) (a b : Value) : Ordering :=
  match caseSensitive, a.asText?, b.asText? with
  | false, some s, some t =>
    Value.compareText (String.ofList (s.toList.map Char.toLower))
      (String.ofList (t.toList.map Char.toLower))
  | _, _, _ => Value.compare a b

/-- Items in an order; equal ones keep theirs. -/
def sortedBy (compare : α → α → Ordering) (items : List α) : List α :=
  items.mergeSort fun a b => (compare a b).isLE

/-- The value at the end of a path, or another one. -/
def pathOr (default : Value) (p : String) (v : Value) : Value :=
  match v.path p with
  | .ok w => if w.isUndefined then default else w
  | .error _ => default

/-- The least item; of equal ones the first. -/
def least : List Value → Value
  | [] => Value.missing
  | v :: rest => rest.foldl (fun m w => if (Value.compare w m).isLT then w else m) v

/-- The greatest item; of equal ones the last. -/
def greatest : List Value → Value
  | [] => Value.missing
  | v :: rest => rest.foldl (fun m w => if (Value.compare w m).isLT then m else w) v

/-- Items without those that came before, letters of either case being alike if they shall. -/
def distinct (keyOf : Value → Value) (seen : List Value) : List Value → List Value
  | [] => []
  | v :: rest =>
    let key := keyOf v
    if seen.any fun k => Value.compare k key = .eq then distinct keyOf seen rest
    else v :: distinct keyOf (key :: seen) rest

/-- Neighbours with equal keys, as groups. -/
def grouped (keyOf : Value → Value) (alike : Value → Value → Bool) :
    List Value → List (Value × List Value)
  | [] => []
  | v :: rest =>
    let key := keyOf v
    match grouped keyOf alike rest with
    | (k, members) :: groups =>
      if alike key k then (k, v :: members) :: groups else (key, [v]) :: (k, members) :: groups
    | [] => [(key, [v])]

/-! ## Lists -/

/-- Items in rows of `n`, the last one filled up if there is something to fill it with. -/
def batches (n : Nat) (filler : Option Value) : Nat → List Value → List Value
  | 0, _ => []
  | _, [] => []
  | fuel + 1, items =>
    let row := items.take n
    let row := match filler with
      | some v => row ++ List.replicate (n - row.length) v
      | none => row
    .seq row :: batches n filler fuel (items.drop n)

/-- Items in `n` columns as even as can be; those that are one short are filled up. -/
def columns (n : Nat) (filler : Option Value) (items : List Value) : List Value :=
  let each := items.length / n
  let longer := items.length % n
  let rec go : Nat → Nat → List Value → List Value
    | 0, _, _ => []
    | left + 1, index, items =>
      let size := if index < longer then each + 1 else each
      let column := items.take size
      let column := match filler with
        | some v => if index < longer then column else column ++ [v]
        | none => column
      .seq column :: go left (index + 1) (items.drop size)
  go n 0 items

/-- The items of several lists at each place, as long as all of them have one. -/
def zipped : Nat → List (List Value) → List Value
  | 0, _ => []
  | fuel + 1, lists =>
    if lists.any List.isEmpty then []
    else
      .seq (lists.filterMap List.head?) :: zipped fuel (lists.map (·.drop 1))

/-- The sum of numbers. -/
def total (items : List Value) : Except Fault Value :=
  items.foldlM (fun sum v =>
    if v.isUndefined then
      (if v.isMissing then throw .undefinedValue else pure sum)
    else if Test.isNumber v then Value.add sum v
    else throw .invalidOperation) (.int 0)

/-- The entries of a map as pairs. -/
def entriesOf? : Value → Option (List (Value × Value))
  | .map entries => some entries
  | .named arguments => some (Value.heldEntries (.named arguments))
  | _ => none

/-- A pair as a list. -/
def pairValue (entry : Value × Value) : Value := .seq [entry.1, entry.2]

/-- A value upside down. -/
def backward (v : Value) : Except Fault Value :=
  match v with
  | .undefined _ | .none => pure v
  | .str s _ => pure (.ofText (String.ofList s.toList.reverse))
  | .seq items => pure (.stream items.reverse true)
  | .stream items sized => pure (.stream items.reverse sized)
  | .group key members => pure (.stream [.seq members, key] true)
  | v =>
    match entriesOf? v with
    | some entries => pure (.stream (entries.map (·.1)).reverse true)
    | none => throw .invalidOperation

/-- The first element of a text, sequence or map. -/
def firstOf (v : Value) : Except Fault Value :=
  match v with
  | .undefined _ | .none | .bool _ | .int _ | .float _ => throw .invalidOperation
  | v =>
    match v.elements? with
    | some items => pure (items.head?.getD Value.missing)
    | none => throw .invalidOperation

/-- The last element of a text or sequence. -/
def lastOf (v : Value) : Except Fault Value :=
  match v with
  | .str _ _ | .seq _ | .stream _ _ | .group _ _ =>
    pure (((v.elements?.getD []).getLast?).getD Value.missing)
  | _ => throw .invalidOperation

/-- Keep or drop the items that pass a test, or that are true. -/
def selected (keep : Bool) (ofAttribute : Bool) : Arguments Value := do
  let v ← value
  let member ← if ofAttribute then some <$> text else pure none
  let test ← text?
  let more ← rest
  let test? ← match test with
    | some name =>
      if (Test.find? name).isSome then pure (some name) else throw .unknownTest
    | none => pure none
  let items ← liftM (elements v)
  let passing ← liftM (items.filterM fun item => do
    let tested ← match member with
      | some p => item.path p
      | none => pure item
    let passed ← match test? with
      | some name => Test.apply name (tested :: more)
      | none => if tested.isMissing then throw Fault.undefinedValue else pure tested.truthy
    pure (passed == keep))
  pure (.seq passing)

/-! ## Lists that are shown over several lines -/

mutual

/-- A value over several lines, indented by four blanks a level. -/
def pretty (level : Nat) : Value → String
  | .seq items => prettyBlock level "[" "]" (prettyItems (level + 1) items)
  | .stream items _ => prettyBlock level "[" "]" (prettyItems (level + 1) items)
  | .map entries => prettyBlock level "\x7b" "\x7d" (prettyEntries (level + 1) entries)
  | v => v.debug

/-- The items of a list at a level. -/
def prettyItems (level : Nat) : List Value → List String
  | [] => []
  | v :: rest => pretty level v :: prettyItems level rest

/-- The entries of a map at a level. -/
def prettyEntries (level : Nat) : List (Value × Value) → List String
  | [] => []
  | (k, v) :: rest => (pretty level k ++ ": " ++ pretty level v) :: prettyEntries level rest

/-- Parts on lines of their own, each ended by a comma. -/
def prettyBlock (level : Nat) (opening closing : String) (parts : List String) : String :=
  let margin := fun n => String.ofList (List.replicate (4 * n) ' ')
  if parts.isEmpty then opening ++ closing
  else
    opening ++ "\n" ++ String.join (parts.map fun p => margin (level + 1) ++ p ++ ",\n")
      ++ margin level ++ closing

end

/-! ## The filters by name -/

/-- Map items to a member, with another value for those that have none. -/
def mapMember (v key : Value) (default : Option Value) : Except Fault Value := do
  let items ← elements v
  let results ← items.mapM fun item =>
    let found := match key.asText? with
      | some p => item.path p
      | none => item.member key
    match found, default with
    | .ok w, some d => pure (if w.isUndefined then d else w)
    | .ok w, none => pure w
    | .error _, some d => pure d
    | .error why, none => throw why
  pure (.seq results)

/-- Default for a missing value, or for every false one if `lax`. -/
def defaulted (v : Value) (other : Option Value) (lax : Bool) : Value :=
  if v.isUndefined || (lax && !v.truthy) then other.getD (.ofText "") else v

/-- **The filters that look at nothing but their arguments.** -/
def simple? (name : String) : Option (Arguments Value) :=
  match name with
  | "safe" => some (do
      let s ← text
      finish
      pure (.str s true))
  | "escape" | "e" => some (do
      let v ← value
      finish
      pure (match v with
        | .str s true => .str s true
        | v => .str (escapedText v) true))
  | "lower" => some (textual Text.lower)
  | "upper" => some (textual Text.upper)
  | "title" => some (textual fun s => String.ofList (titled true s.toList))
  | "capitalize" => some (textual capitalized)
  | "replace" => some (do
      let s ← text
      let old ← text
      let new ← text
      finish
      pure (.ofText (Text.replace old new s)))
  | "length" | "count" => some (do
      let v ← value
      finish
      match v.length? with
      | some n => pure (.int n)
      | none => throw .invalidOperation)
  | "dictsort" => some (do
      let options ← named
      let v ← value
      finish
      let some entries := entriesOf? v | throw .invalidOperation
      let part? ← liftM (namedValue? onlyTextOf "by" options)
      let byValue ← match part? with
        | none | some "key" => pure false
        | some "value" => pure true
        | some _ => throw .invalidOperation
      let sensitive ← liftM (namedValue? boolOf "case_sensitive" options)
      let backwards ← liftM (namedValue? boolOf "reverse" options)
      liftM (onlyNames ["by", "case_sensitive", "reverse"] options)
      let part := fun (e : Value × Value) => if byValue then e.2 else e.1
      let sorted := sortedBy (fun a b => compareBy (sensitive.getD false) (part a) (part b)) entries
      let sorted := if backwards.getD false then sorted.reverse else sorted
      pure (.seq (sorted.map pairValue)))
  | "items" => some (do
      let v ← value
      finish
      match entriesOf? v with
      | some entries => pure (.seq (entries.map pairValue))
      | none => throw .invalidOperation)
  | "reverse" => some (do
      let v ← value
      finish
      liftM (backward v))
  | "trim" => some (do
      let s ← text
      let chars ← text?
      finish
      pure (.ofText (match chars with
        | some chars => String.ofList (Text.stripBoth chars.toList.contains s.toList)
        | none => Text.trim s)))
  | "join" => some (do
      let v ← value
      let separator ← text?
      finish
      if v.isUndefined || v.isNone then pure (.ofText "")
      else
        match v.elements? with
        | some items => pure (.ofText (joined (separator.getD "") items))
        | none => throw .invalidOperation)
  | "split" => some (do
      let s ← text
      let separator ← text?
      let cuts ← optional (integerOf (-(Nat.pow 2 63)) (Nat.pow 2 63 - 1))
      finish
      let cuts := cuts.bind fun n => if 0 ≤ n then some n.toNat else none
      let parts := match separator, cuts with
        | some d, none => Text.splitOn d s
        | some d, some n => Text.splitFirst d n s
        | none, none => Text.words s
        | none, some n => wordsUpTo (n + 1) s
      pure (.stream (parts.map Value.ofText) false))
  | "lines" => some (do
      let s ← text
      finish
      pure (.stream ((Text.lines s).map Value.ofText) false))
  | "default" | "d" => some (do
      let v ← value
      let other ← value?
      let lax ← optional boolOf
      finish
      pure (defaulted v other (lax.getD false)))
  | "round" => some (do
      let v ← value
      let places ← optional (integerOf (-(Nat.pow 2 31)) (Nat.pow 2 31 - 1))
      finish
      liftM (rounded v (places.getD 0)))
  | "abs" => some (do
      let v ← value
      finish
      liftM (magnitude v))
  | "int" => some (do
      let v ← value
      finish
      liftM (integer v))
  | "float" => some (do
      let v ← value
      finish
      liftM (float v))
  | "attr" => some (do
      let v ← value
      let key ← value
      finish
      liftM (v.member key))
  | "first" => some (do
      let v ← value
      finish
      liftM (firstOf v))
  | "last" => some (do
      let v ← value
      finish
      liftM (lastOf v))
  | "min" => some (do
      let v ← value
      finish
      least <$> liftM (listed v))
  | "max" => some (do
      let v ← value
      finish
      greatest <$> liftM (listed v))
  | "sort" => some (do
      let options ← named
      let v ← value
      finish
      let items ← liftM (listed v)
      let sensitive := (← liftM (namedValue? boolOf "case_sensitive" options)).getD false
      let member ← liftM (namedValue? onlyTextOf "attribute" options)
      let backwards ← liftM (namedValue? boolOf "reverse" options)
      liftM (onlyNames ["case_sensitive", "attribute", "reverse"] options)
      let order := match member with
        | some p => fun (a b : Value) =>
          match a.path p, b.path p with
          | .ok x, .ok y => compareBy sensitive x y
          | _, _ => .eq
        | none => compareBy sensitive
      let sorted := sortedBy order items
      pure (.seq (if backwards.getD false then sorted.reverse else sorted)))
  | "list" => some (do
      let v ← value
      finish
      .seq <$> liftM (listed v))
  | "string" => some (do
      let v ← value
      finish
      pure (match v with
        | .str s safe => .str s safe
        | v => .ofText v.text))
  | "bool" => some (do
      let v ← value
      finish
      pure (.bool v.truthy))
  | "batch" => some (do
      let v ← value
      let n ← count
      let filler ← value?
      finish
      if n = 0 then throw .invalidOperation
      let items ← liftM (elements v)
      pure (.seq (batches n filler items.length items)))
  | "slice" => some (do
      let v ← value
      let n ← count
      let filler ← value?
      finish
      if n = 0 then throw .invalidOperation
      let items ← liftM (elements v)
      pure (.seq (columns n filler items)))
  | "sum" => some (do
      let v ← value
      finish
      let items ← liftM (elements v)
      liftM (total items))
  | "indent" => some (do
      let s ← text
      let width ← count
      let first ← optional boolOf
      let blank ← optional boolOf
      finish
      pure (.ofText (indented width (first.getD false) (blank.getD false) s)))
  | "select" => some (selected true false)
  | "reject" => some (selected false false)
  | "selectattr" => some (selected true true)
  | "rejectattr" => some (selected false true)
  | "groupby" => some (do
      let options ← named
      let v ← value
      let member ← optional onlyTextOf
      finish
      let default := (← liftM (namedValue? pure "default" options)).getD Value.missing
      let sensitive := (← liftM (namedValue? boolOf "case_sensitive" options)).getD false
      let p ← match member with
        | some p => pure p
        | none =>
          match options.lookup "attribute" with
          | some p => liftM (onlyTextOf p)
          | none => throw .missingArgument
      let known := ["default", "case_sensitive", "attribute"]
      let some items := v.elements? | throw .invalidOperation
      let keyOf := pathOr default p
      let order := fun a b => compareBy sensitive (keyOf a) (keyOf b)
      liftM (onlyNames known options)
      let groups := grouped keyOf (fun a b => compareBy sensitive a b = .eq) (sortedBy order items)
      pure (.seq (groups.map fun (k, members) => .group k members)))
  | "unique" => some (do
      let options ← named
      let v ← value
      finish
      let member ← liftM (namedValue? onlyTextOf "attribute" options)
      let sensitive := (← liftM (namedValue? boolOf "case_sensitive" options)).getD false
      liftM (onlyNames ["attribute", "case_sensitive"] options)
      let items ← liftM (elements v)
      let keyOf := fun item =>
        let key := match member with
          | some p => pathOr Value.missing p item
          | none => item
        match sensitive, key.asText? with
        | false, some s => Value.ofText (Text.lower s)
        | _, _ => key
      pure (.seq (distinct keyOf [] items)))
  | "chain" => some (do
      let v ← value
      let others ← rest
      let all := v :: others
      if all.all fun v => v.kind = .map then
        pure (Value.mapOf (all.flatMap fun v => (entriesOf? v).getD []))
      else
        let lists ← liftM (all.mapM elements)
        pure (.stream lists.flatten false))
  | "zip" => some (do
      let v ← value
      let others ← rest
      let lists ← liftM ((v :: others).mapM listed)
      pure (.stream (zipped ((lists.map List.length).foldl max 0) lists) false))
  | "pprint" => some (do
      let v ← value
      finish
      pure (.ofText (pretty 0 v)))
  | "format" => some (do
      let options ← named
      let pattern ← text
      let values ← rest
      .ofText <$> liftM (Printf.format pattern values options))
  | _ => none

/-- **Apply a filter by its name.**  The one that maps items by another filter takes that filter's
name away from its arguments, so that `fuel`, their number, bounds the nesting. -/
def applyWith : Nat → String → List Value → Except Fault Value
  | 0, _, _ => throw .invalidOperation
  | fuel + 1, name, arguments =>
    if name = "map" then do
      let (v, options, others) ← Arguments.read arguments (do
        let options ← named
        let v ← value
        let others ← rest
        pure (v, options, others))
      match ← namedValue? pure "attribute" options with
      | some key =>
        if others.isEmpty then mapMember v key (options.lookup "default")
        else throw .tooManyArguments
      | none =>
        match others with
        | .str inner _ :: more =>
          if filterNames.contains inner then do
            let items ← elements v
            let more := if options.isEmpty then more else more ++ [.named options]
            .seq <$> items.mapM fun item => applyWith fuel inner (item :: more)
          else throw .unknownFilter
        | _ => throw .invalidOperation
    else
      match simple? name with
      | some filter => Arguments.read arguments filter
      | none => throw .unknownFilter

/-- Apply a filter to a value and arguments. -/
def apply (name : String) (arguments : List Value) : Except Fault Value :=
  applyWith (arguments.length + 1) name arguments

end Connector.Template.Filter
