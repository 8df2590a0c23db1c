import Connector.Decimal.Extended
import Connector.Json.Printer
import Connector.Template.Fault
import Connector.Text.Quoted

/-!
# Values of expressions

What an expression evaluates to.  Beside the JSON values there are undefined values, integers
beyond a machine word, infinities, keys of any kind, sequences that are only passed through, and
things that can be called.

* `Value` — the values.
* `Value.ofJson`, `Value.toJson?` — from a context, and back into one.
* `Value.text`, `Value.debug` — as printed by an output, and as shown inside a list or map.
* `Value.compare`, `Value.same` — the order and the equality that templates see.
* `Value.elements?` — what a loop runs over.
-/

namespace Connector.Template

/-- **A value.**  Functions, macros, loops and namespaces are known by name or number only; what
they stand for is kept by whoever renders. -/
inductive Value where
  /-- No value; a `silent` one comes from a condition without alternative and prints as nothing. -/
  | undefined (silent : Bool)
  | none
  | bool (b : Bool)
  | int (n : Int)
  | float (x : Extended)
  /-- A text; a `safe` one is not escaped again. -/
  | str (s : String) (safe : Bool)
  | seq (items : List Value)
  /-- Items that pass by once; a `sized` one knows how many they are. -/
  | stream (items : List Value) (sized : Bool)
  | map (entries : List (Value × Value))
  /-- The items of one group together with what they have in common. -/
  | group (key : Value) (members : List Value)
  /-- The named arguments of a call. -/
  | named (arguments : List (String × Value))
  | function (name : String)
  | closure (number : Nat)
  | space (number : Nat)
  | loop (number : Nat)
  deriving Inhabited

namespace Value

/-- The value of a condition without alternative. -/
def silent : Value := .undefined true

/-- The value of a name that is not bound. -/
def missing : Value := .undefined false

/-- A text that may need escaping. -/
def ofText (s : String) : Value := .str s false

/-- Whether a value is undefined and says so when it is used. -/
def isMissing : Value → Bool
  | .undefined silent => !silent
  | _ => false

/-- Whether a value is undefined. -/
def isUndefined : Value → Bool
  | .undefined _ => true
  | _ => false

/-- Whether a value is the null value. -/
def isNone : Value → Bool
  | .none => true
  | _ => false

/-- The text of a value that is one. -/
def asText? : Value → Option String
  | .str s _ => some s
  | _ => Option.none

/-- The integers that arithmetic may produce. -/
def ofInt? (n : Int) : Option Value :=
  if -(Nat.pow 2 127) ≤ n ∧ n < Nat.pow 2 127 then some (.int n) else Option.none

/-! ## Kinds -/

/-- The kinds of values, in the order in which values of different kinds are sorted. -/
inductive Kind where
  | undefined | none | number | text | sequence | map | stream | object
  deriving DecidableEq

/-- The rank of a kind. -/
def Kind.rank : Kind → Nat
  | .undefined => 0
  | .none => 1
  | .number => 2
  | .text => 3
  | .sequence => 4
  | .map => 5
  | .stream => 6
  | .object => 7

/-- The kind of a value; truth values count as the numbers zero and one. -/
def kind : Value → Kind
  | .undefined _ => .undefined
  | .none => .none
  | .bool _ | .int _ | .float _ => .number
  | .str _ _ => .text
  | .seq _ | .group _ _ => .sequence
  | .map _ | .named _ => .map
  | .stream _ _ => .stream
  | .function _ | .closure _ | .space _ | .loop _ => .object

/-- The path under which the function of a name is defined, as which the function prints. -/
def functionPath (name : String) : String := "minijinja::functions::builtins::" ++ name

/-! ## JSON -/

mutual

/-- **The value of a JSON value.** -/
def ofJson : Json → Value
  | .null => .none
  | .bool b => .bool b
  | .num (.int n) => .int n.val
  | .num (.double d) => .float (.finite d)
  | .str s => .str s false
  | .arr items => .seq (ofJsonItems items)
  | .obj fields => .map (ofJsonFields fields)

/-- The values of the elements of an array. -/
def ofJsonItems : List Json → List Value
  | [] => []
  | v :: rest => ofJson v :: ofJsonItems rest

/-- The values of the members of an object. -/
def ofJsonFields : List (String × Json) → List (Value × Value)
  | [] => []
  | (k, v) :: rest => (.str k false, ofJson v) :: ofJsonFields rest

end

/-- The member name that a key becomes. -/
def jsonKey? : Value → Option String
  | .str s _ => some s
  | .bool b => some (if b then "true" else "false")
  | .int n => some (toString n)
  | .float (.finite d) => some (d.text Json.doubleLayout)
  | _ => Option.none

mutual

/-- **The JSON value of a value.**  Integers beyond a machine word and keys without a text have
none; infinities and undefined values become null. -/
def toJson? : Value → Option Json
  | .undefined _ => some .null
  | .none => some .null
  | .bool b => some (.bool b)
  | .int n => (WideInt.ofInt? n).map fun w => .num (.int w)
  | .float (.finite d) => some (.num (.double d))
  | .float _ => some .null
  | .str s _ => some (.str s)
  | .seq items => (toJsonItems? items).map .arr
  | .stream items _ => (toJsonItems? items).map .arr
  | .map entries => (toJsonEntries? entries).map fun ms => .obj (Record.ofList ms)
  | .group key members => do
    let k ← toJson? key
    let ms ← toJsonItems? members
    some (.arr [k, .arr ms])
  | .named arguments => (toJsonArguments? arguments).map fun ms => .obj (Record.ofList ms)
  | .function name => some (.str (functionPath name))
  | .closure _ => some (.str "<macro>")
  | .space _ => some (.obj [])
  | .loop _ => some (.str "<loop>")

/-- The JSON values of items. -/
def toJsonItems? : List Value → Option (List Json)
  | [] => some []
  | v :: rest =>
    match toJson? v with
    | some j => (toJsonItems? rest).map (j :: ·)
    | Option.none => Option.none

/-- The members of entries. -/
def toJsonEntries? : List (Value × Value) → Option (List (String × Json))
  | [] => some []
  | (k, v) :: rest =>
    match jsonKey? k, toJson? v with
    | some name, some j => (toJsonEntries? rest).map ((name, j) :: ·)
    | _, _ => Option.none

/-- The members of named arguments. -/
def toJsonArguments? : List (String × Value) → Option (List (String × Json))
  | [] => some []
  | (name, v) :: rest =>
    match toJson? v with
    | some j => (toJsonArguments? rest).map ((name, j) :: ·)
    | Option.none => Option.none

end

/-! ## Text -/

/-- Floats in an output: never an exponent, and always a fraction. -/
def plainLayout : Decimal.Layout := ⟨Option.none, Option.none, "", true⟩

/-- Floats inside a list or map: positional from `10 ^ -4` up to `10 ^ 16`. -/
def nestedLayout : Decimal.Layout := ⟨some (-4), some 16, "", true⟩

/-- The words of the truth values. -/
def truthText (b : Bool) : String := if b then "True" else "False"

mutual

/-- **A value as shown inside a list or map**: texts are quoted. -/
def debug : Value → String
  | .undefined _ => "undefined"
  | .none => "None"
  | .bool b => truthText b
  | .int n => toString n
  | .float x => x.text nestedLayout
  | .str s _ => Text.quoted s
  | .seq items => "[" ++ ", ".intercalate (debugItems items) ++ "]"
  | .stream items _ => "[" ++ ", ".intercalate (debugItems items) ++ "]"
  | .map entries => "\x7b" ++ ", ".intercalate (debugEntries entries) ++ "\x7d"
  | .group key members =>
    "[" ++ debug key ++ ", [" ++ ", ".intercalate (debugItems members) ++ "]]"
  | .named arguments => "\x7b" ++ ", ".intercalate (debugArguments arguments) ++ "\x7d"
  | .function name => functionPath name
  | .closure _ => "<macro>"
  | .space _ => "\x7b\x7d"
  | .loop _ => "<loop>"

/-- The items of a list. -/
def debugItems : List Value → List String
  | [] => []
  | v :: rest => debug v :: debugItems rest

/-- The entries of a map. -/
def debugEntries : List (Value × Value) → List String
  | [] => []
  | (k, v) :: rest => (debug k ++ ": " ++ debug v) :: debugEntries rest

/-- The entries of named arguments. -/
def debugArguments : List (String × Value) → List String
  | [] => []
  | (k, v) :: rest => (Text.quoted k ++ ": " ++ debug v) :: debugArguments rest

end

/-- **A value as printed by an output**: texts stand for themselves. -/
def text : Value → String
  | .undefined _ => ""
  | .float x => x.text plainLayout
  | .str s _ => s
  | v => debug v

/-! ## Order and equality -/

/-- The place of a float in the order of all floats, where the negative zero comes before the
positive one. -/
def floatPlace : Extended → Int
  | .finite d =>
    if d.isNegative then -((d.bits.toNat : Int) - Nat.pow 2 63) - 1 else d.bits.toNat
  | .infinite false => 0x7FF0000000000000
  | .infinite true => -0x7FF0000000000000 - 1
  | .notANumber => 0x7FF8000000000000

/-- The float of an integer, if no digit is lost. -/
def exactFloat? (n : Int) : Option Extended :=
  let x := Float.ofInt n
  match Double.ofFloat? x with
  | Option.none => Option.none
  | some d =>
    if n.natAbs ≤ Nat.pow 2 53 then some (.finite d)
    else
      let (m, e) := d.decompose
      if e ≥ 0 ∧ m * Nat.pow 2 e.toNat = n.natAbs then some (.finite d) else Option.none

/-- Two numbers on common ground. -/
inductive Pair where
  | ints (a b : Int)
  | floats (a b : Extended)
  | texts (a b : String)

/-- The integer of a truth value or of an integer. -/
def asInteger? : Value → Option Int
  | .bool b => some (if b then 1 else 0)
  | .int n => if -(Nat.pow 2 127) ≤ n ∧ n < Nat.pow 2 127 then some n else Option.none
  | _ => Option.none

/-- The float of a number; with `exact`, only if no digit is lost. -/
def asFloat? (exact : Bool) : Value → Option Extended
  | .bool b => some (Extended.ofInt (if b then 1 else 0))
  | .int n => if exact then exactFloat? n else some (Extended.ofInt n)
  | .float x => some x
  | _ => Option.none

/-- **Common ground of two values**: two texts, two floats if one of them is one, else two
integers. -/
def pair? (exact : Bool) : Value → Value → Option Pair
  | .str a _, .str b _ => some (.texts a b)
  | .float a, .float b => some (.floats a b)
  | .float a, b => (asFloat? exact b).map fun y => .floats a y
  | a, .float b => (asFloat? exact a).map fun x => .floats x b
  | a, b =>
    match asInteger? a, asInteger? b with
    | some x, some y => some (.ints x y)
    | _, _ => Option.none

/-- The order of the code points of two texts. -/
def compareText (a b : String) : Ordering :=
  if a < b then .lt else if b < a then .gt else .eq

/-- The order of two integers. -/
def compareInt (a b : Int) : Ordering := if a < b then .lt else if b < a then .gt else .eq

/-- The order of two values that hold no others. -/
def compareLeaf (a b : Value) : Ordering :=
  match pair? true a b with
  | some (.ints x y) => compareInt x y
  | some (.floats x y) => compareInt (floatPlace x) (floatPlace y)
  | some (.texts x y) => compareText x y
  | Option.none =>
    match asFloat? false a, asFloat? false b with
    | some x, some y => compareInt (floatPlace x) (floatPlace y)
    | _, _ => .eq

/-- The items that a sequence holds. -/
def heldItems : Value → List Value
  | .seq items => items
  | .stream items _ => items
  | .group key members => [key, .seq members]
  | _ => []

/-- The entries that a map holds. -/
def heldEntries : Value → List (Value × Value)
  | .map entries => entries
  | .named arguments => arguments.map fun (k, v) => (.str k false, v)
  | _ => []

mutual

/-- **The order of values**: first by kind, then within the kind; lists and maps go by their first
difference. -/
def compare : Value → Value → Ordering
  | .seq xs, b =>
    if kind b = .sequence then compareItems xs (heldItems b)
    else compareInt Kind.sequence.rank (kind b).rank
  | .stream xs _, b =>
    if kind b = .stream then compareItems xs (heldItems b)
    else compareInt Kind.stream.rank (kind b).rank
  | .group key members, b =>
    if kind b = .sequence then
      match heldItems b with
      | [] => .gt
      | first :: rest =>
        (compare key first).then
          (match rest with
          | [] => .gt
          | second :: _ => compareItems members (heldItems second))
    else compareInt Kind.sequence.rank (kind b).rank
  | .map entries, b =>
    if kind b = .map then compareEntries entries (heldEntries b)
    else compareInt Kind.map.rank (kind b).rank
  | .named arguments, b =>
    if kind b = .map then compareArguments arguments (heldEntries b)
    else compareInt Kind.map.rank (kind b).rank
  | a, b => (compareInt (kind a).rank (kind b).rank).then (compareLeaf a b)

/-- The order of two lists of items. -/
def compareItems : List Value → List Value → Ordering
  | [], [] => .eq
  | [], _ :: _ => .lt
  | _ :: _, [] => .gt
  | a :: as, b :: bs => (compare a b).then (compareItems as bs)

/-- The order of two lists of entries. -/
def compareEntries : List (Value × Value) → List (Value × Value) → Ordering
  | [], [] => .eq
  | [], _ :: _ => .lt
  | _ :: _, [] => .gt
  | (k, v) :: as, (l, w) :: bs => ((compare k l).then (compare v w)).then (compareEntries as bs)

/-- The order of named arguments and entries. -/
def compareArguments : List (String × Value) → List (Value × Value) → Ordering
  | [], [] => .eq
  | [], _ :: _ => .lt
  | _ :: _, [] => .gt
  | (k, v) :: as, (l, w) :: bs =>
    ((compareLeaf (.str k false) l).then (compare v w)).then (compareArguments as bs)

end

/-- The equality of two values that hold no others. -/
def sameLeaf (a b : Value) : Bool :=
  match a, b with
  | .none, .none => true
  | .undefined _, .undefined _ => true
  | .function f, .function g => f = g
  | .closure m, .closure n => m = n
  | .space m, .space n => m = n
  | .loop m, .loop n => m = n
  | a, b =>
    match pair? true a b with
    | some (.ints x y) => x = y
    | some (.floats x y) => x.toFloat == y.toFloat
    | some (.texts x y) => x = y
    | Option.none => false

/-- Whether a value is a sequence or a stream. -/
def holdsItems : Value → Bool
  | .seq _ | .stream _ _ | .group _ _ => true
  | _ => false

mutual

/-- **The equality of values.**  A list equals any sequence of the same items, and a map any map
of the same entries. -/
def same : Value → Value → Bool
  | .seq xs, b => holdsItems b && sameItems xs (heldItems b)
  | .stream xs _, b => holdsItems b && sameItems xs (heldItems b)
  | .group key members, b =>
    match holdsItems b, heldItems b with
    | true, [first, second] =>
      same key first && holdsItems second && sameItems members (heldItems second)
    | _, _ => false
  | .map entries, b => kind b = .map && sameEntries entries (heldEntries b)
  | .named arguments, b => kind b = .map && sameArguments arguments (heldEntries b)
  | a, b => sameLeaf a b

/-- The equality of two lists of items. -/
def sameItems : List Value → List Value → Bool
  | [], [] => true
  | a :: as, b :: bs => same a b && sameItems as bs
  | _, _ => false

/-- The equality of two lists of entries, which are in the order of their keys. -/
def sameEntries : List (Value × Value) → List (Value × Value) → Bool
  | [], [] => true
  | (k, v) :: as, (l, w) :: bs => same k l && same v w && sameEntries as bs
  | _, _ => false

/-- The equality of named arguments and entries. -/
def sameArguments : List (String × Value) → List (Value × Value) → Bool
  | [], [] => true
  | (k, v) :: as, (l, w) :: bs =>
    sameLeaf (.str k false) l && same v w && sameArguments as bs
  | _, _ => false

end

/-! ## Maps -/

/-- The value under a key. -/
def entryUnder? (key : Value) : List (Value × Value) → Option Value
  | [] => Option.none
  | (k, v) :: rest => if compare k key = .eq then some v else entryUnder? key rest

/-- Add or replace an entry, keeping the order of the keys. -/
def insertEntry (key value : Value) : List (Value × Value) → List (Value × Value)
  | [] => [(key, value)]
  | (k, v) :: rest =>
    match compare key k with
    | .lt => (key, value) :: (k, v) :: rest
    | .eq => (k, value) :: rest
    | .gt => (k, v) :: insertEntry key value rest

/-- The map of a list of entries, where a later entry wins. -/
def mapOf (entries : List (Value × Value)) : Value :=
  .map (entries.foldl (fun m (k, v) => insertEntry k v m) [])

/-! ## Truth, length, elements -/

/-- **Truth of a value**: what is empty, zero or no value is false. -/
def truthy : Value → Bool
  | .undefined _ | .none => false
  | .bool b => b
  | .int n => n ≠ 0
  | .float x => !(x.toFloat == 0)
  | .str s _ => !s.isEmpty
  | .seq items => !items.isEmpty
  | .stream items sized => !(sized && items.isEmpty)
  | .map entries => !entries.isEmpty
  | .named arguments => !arguments.isEmpty
  | _ => true

/-- The number of elements, if it is known without running over them. -/
def length? : Value → Option Nat
  | .str s _ => some s.length
  | .seq items => some items.length
  | .stream items sized => if sized then some items.length else Option.none
  | .map entries => some entries.length
  | .named arguments => some arguments.length
  | .group _ _ => some 2
  | _ => Option.none

/-- **The elements that a loop runs over**: items, keys or characters; none for no value. -/
def elements? : Value → Option (List Value)
  | .undefined _ | .none => some []
  | .str s _ => some (s.toList.map fun c => .str (String.singleton c) false)
  | .seq items => some items
  | .stream items _ => some items
  | .group key members => some [key, .seq members]
  | .map entries => some (entries.map (·.1))
  | .named arguments => some (arguments.map fun (k, _) => .str k false)
  | _ => Option.none

/-- Whether the number of elements is known to a loop. -/
def isSized : Value → Bool
  | .stream _ sized => sized
  | _ => true

/-! ## Members -/

/-- The integer that a value stands for as an index or a count. -/
def asIndex? : Value → Option Int
  | .bool b => some (if b then 1 else 0)
  | .int n => some n
  | .float (.finite d) =>
    let (m, e) := d.decompose
    let magnitude? : Option Nat :=
      if e ≥ 0 then some (m * Nat.pow 2 e.toNat)
      else if m % Nat.pow 2 (-e).toNat = 0 then some (m / Nat.pow 2 (-e).toNat)
      else Option.none
    magnitude?.bind fun (n : Nat) =>
      if n < Nat.pow 2 63 then some (if d.isNegative then -(n : Int) else n) else Option.none
  | _ => Option.none

/-- The place of an index in a list of `count` items; negative ones count from the end. -/
def place? (count : Nat) (index : Int) : Option Nat :=
  if 0 ≤ index then some index.toNat
  else if index.natAbs ≤ count then some (count - index.natAbs)
  else Option.none

/-- The item of a list at an index. -/
def itemAt? (items : List Value) (index : Value) : Option Value := do
  let i ← asIndex? index
  if -(Nat.pow 2 63) ≤ i ∧ i < Nat.pow 2 63 then
    let n ← place? items.length i
    items[n]?
  else Option.none

/-- **The member of a value under a key**, for values that keep their members themselves. -/
def member? (key : Value) : Value → Option Value
  | .map entries => entryUnder? key entries
  | .named arguments =>
    match key with
    | .str name _ => arguments.lookup name
    | _ => Option.none
  | .seq items => itemAt? items key
  | .stream items _ =>
    match asIndex? key with
    | some i => if 0 ≤ i then items[i.toNat]? else Option.none
    | Option.none => Option.none
  | .group k members =>
    match key with
    | .str name _ =>
      if name = "grouper" then some k
      else if name = "list" then some (.stream members true)
      else Option.none
    | key => itemAt? [k, .stream members true] key
  | .str s _ => (itemAt? (s.toList.map fun c => .str (String.singleton c) false) key)
  | _ => Option.none

/-- The member under a name.  Lists and texts have no named members. -/
def attribute? (name : String) : Value → Option Value
  | .map entries => entryUnder? (.str name false) entries
  | .named arguments => arguments.lookup name
  | .group k members => member? (.str name false) (.group k members)
  | _ => Option.none

/-- The member under a key, where an undefined value has no members at all. -/
def member (v key : Value) : Except Fault Value :=
  if v.isUndefined then throw .undefinedValue else pure ((member? key v).getD missing)

/-- The parts of a path, between its dots. -/
def pathParts (path : String) : List String := path.splitOn "."

/-- One step of a path: digits are an index, everything else a name. -/
def pathStep (v : Value) (part : String) : Except Fault Value :=
  let cs := part.toList
  let digits := match cs with
    | '+' :: rest => rest
    | cs => cs
  if !digits.isEmpty && digits.all Char.isDigit then
    member v (.int (digits.foldl (fun n c => 10 * n + (c.toNat - '0'.toNat)) 0 : Nat))
  else if v.isUndefined then throw .undefinedValue
  else pure ((attribute? part v).getD missing)

/-- **The value at the end of a path** of names and indexes between dots. -/
def path (v : Value) (p : String) : Except Fault Value := (pathParts p).foldlM pathStep v

end Value

end Connector.Template
