import Connector.Template.Filter
import Connector.Template.Grammar

/-!
# Rendering

What expressions evaluate to and what statements print, in the scopes of a template.

* `Rendering` — the state: scopes, output, and whatever closures, namespaces and loops remember.
* `Expr.eval` — the value of an expression.
* `Stmt.execAll` — what statements do.
* `Stmt.render` — the text of a template in a context.

Expressions and statements are evaluated along their structure.  Calling a macro, a block or a
loop again leaves the structure; such a body is handed to `run`, which `runAt` provides with a
bound on how deep calls may be nested.
-/

namespace Connector.Template

/-- **A scope**: the names bound in it, the loop it belongs to, the closure that its bindings are
copied into, and the closure that a macro's body looks into. -/
structure Scope where
  names : Record Value := []
  loop : Option Nat := none
  shared : Option Nat := none
  captured : Option Nat := none

/-- A macro with the scope of its definition. -/
structure Macro where
  name : String
  parameters : List String
  defaults : List (String × Expr)
  usesCaller : Bool
  body : List Stmt
  closure : Nat

/-- A loop while it runs. -/
structure LoopState where
  index : Nat := 0
  length : Option Nat
  previous : Option Value := none
  next : Option Value := none
  depth : Nat
  /-- What to do again when the loop is called, if it may be. -/
  again : Option (Target × List Stmt × List Stmt)
  /-- The arguments with which the loop was last asked for a change. -/
  lastAsked : Option (List Value) := none

/-- **The state of rendering.** -/
structure Rendering where
  context : Value
  template : List Stmt
  blocks : List (String × List Stmt) := []
  scopes : List Scope := [{}]
  /-- How many scopes the callers of the current macro have open. -/
  outer : Nat := 0
  escape : Bool := false
  output : String := ""
  closures : List (Record Value) := []
  macros : List Macro := []
  spaces : List (Record Value) := []
  loops : List LoopState := []

/-- The monad of rendering. -/
abbrev RenderM := StateT Rendering (Except Fault)

namespace Rendering

/-- The functions that every template knows. -/
def functionNames : List String := ["range", "dict", "debug", "namespace"]

/-- The value of a name in a scope. -/
def Scope.find? (closures : List (Record Value)) (name : String) (s : Scope) : Option Value :=
  match Record.get? name s.names with
  | some v => some v
  | none =>
    match s.loop with
    | some n => if name = "loop" then some (.loop n) else none
    | none => do Record.get? name (← closures[← s.captured]?)

/-- The value of a name in the innermost scope that binds it. -/
def findInScopes (closures : List (Record Value)) (name : String) : List Scope → Option Value
  | [] => none
  | s :: rest =>
    match Scope.find? closures name s with
    | some v => some v
    | none => findInScopes closures name rest

/-- **The value of a name**: from the scopes, then the context, then the functions. -/
def lookup (name : String) (r : Rendering) : Option Value :=
  match findInScopes r.closures name r.scopes with
  | some v => some v
  | none =>
    match r.context.attribute? name with
    | some v => some v
    | none => if functionNames.contains name then some (.function name) else none

/-- All bindings that can be seen, the inner ones hiding the outer ones. -/
def visible (r : Rendering) : Record Value :=
  r.scopes.foldr (fun s seen =>
    let seen := match s.captured.bind fun n => r.closures[n]? with
      | some names => Record.overlay seen names
      | none => seen
    let seen := match s.loop with
      | some n => Record.insert "loop" (.loop n) seen
      | none => seen
    Record.overlay seen s.names) []

/-- The innermost loop. -/
def currentLoop? (r : Rendering) : Option Nat := r.scopes.findSome? (·.loop)

/-- How many scopes may be open at once. -/
def maxScopes : Nat := 500

end Rendering

namespace RenderM

open Rendering

/-- Refuse a missing value. -/
def defined (v : Value) : RenderM Unit := if v.isMissing then throw .undefinedValue else pure ()

/-- The truth of a value that is not missing. -/
def truth (v : Value) : RenderM Bool := do
  defined v
  pure v.truthy

/-- A namespace as a map, and a loop as a text. -/
def reveal (v : Value) : RenderM Value := do
  match v with
  | .space n =>
    let names := ((← get).spaces[n]?).getD []
    pure (.map (names.map fun (k, v) => (.ofText k, v)))
  | .loop n =>
    match (← get).loops[n]? with
    | some l =>
      let length := match l.length with
        | some n => toString n
        | none => "?"
      pure (.ofText ("<loop " ++ toString l.index ++ "/" ++ length ++ ">"))
    | none => pure v
  | .closure n =>
    match (← get).macros[n]? with
    | some m => pure (.ofText ("<macro " ++ m.name ++ ">"))
    | none => pure v
  | v => pure v

/-- Bind a name in the innermost scope, and in the closure that shares its names. -/
def bindName (name : String) (v : Value) : RenderM Unit :=
  modify fun r =>
    match r.scopes with
    | [] => r
    | s :: rest =>
      let closures := match s.shared with
        | some n => r.closures.modify n (Record.insert name v)
        | none => r.closures
      { r with
        scopes := { s with names := Record.insert name v s.names } :: rest
        closures }

/-- Open a scope, if not too many are open. -/
def openScope (s : Scope) : RenderM Unit := do
  let r ← get
  if maxScopes < r.outer + r.scopes.length + 1 then throw .invalidOperation
  set { r with scopes := s :: r.scopes }

/-- Close the innermost scope. -/
def closeScope : RenderM Unit := modify fun r => { r with scopes := r.scopes.drop 1 }

/-- Append to the output. -/
def write (s : String) : RenderM Unit := modify fun r => { r with output := r.output ++ s }

/-- Print a value that is not missing. -/
def emit (v : Value) : RenderM Unit := do
  defined v
  let v ← reveal v
  write (if (← get).escape then Filter.escapedText v else v.text)

/-- What an action prints, as a value. -/
def captured (action : RenderM Unit) : RenderM Value := do
  let before := (← get).output
  modify fun r => { r with output := "" }
  action
  let r ← get
  set { r with output := before }
  pure (.str r.output r.escape)

/-- Change the state of a loop. -/
def updateLoop (n : Nat) (change : LoopState → LoopState) : RenderM Unit :=
  modify fun r => { r with loops := r.loops.modify n change }

/-! ## Members -/

/-- What is known about a loop. -/
def loopMember (l : LoopState) (name : String) : Option Value :=
  let optional := fun (v : Option Value) => some (v.getD Value.missing)
  match name with
  | "index0" => some (.int l.index)
  | "index" => some (.int (l.index + 1))
  | "length" => optional (l.length.map fun n => .int n)
  | "revindex" => optional (l.length.map fun n => .int (n - l.index : Nat))
  | "revindex0" => optional (l.length.map fun n => .int (n - l.index - 1 : Nat))
  | "first" => some (.bool (l.index = 0))
  | "last" => some (.bool l.next.isNone)
  | "depth" => some (.int (l.depth + 1))
  | "depth0" => some (.int l.depth)
  | "previtem" => optional l.previous
  | "nextitem" => optional l.next
  | _ => none

/-- The member of a value under a name. -/
def memberNamed? (v : Value) (name : String) : RenderM (Option Value) := do
  match v with
  | .loop n => pure (((← get).loops[n]?).bind fun l => loopMember l name)
  | .space n => pure (((← get).spaces[n]?).bind fun names => Record.get? name names)
  | .closure n =>
    match (← get).macros[n]? with
    | some m =>
      pure (match name with
        | "name" => some (.ofText m.name)
        | "arguments" => some (.seq (m.parameters.map Value.ofText))
        | "caller" => some (.bool m.usesCaller)
        | _ => none)
    | none => pure none
  | v => pure (v.attribute? name)

/-- **A member by name**; a value without it yields a missing one, an undefined value fails. -/
def member (v : Value) (name : String) : RenderM Value := do
  match ← memberNamed? v name with
  | some w => pure w
  | none => if v.isUndefined then throw .undefinedValue else pure Value.missing

/-- **A member by key.** -/
def item (v key : Value) : RenderM Value := do
  match v, key with
  | .loop _, .str name _ | .space _, .str name _ | .closure _, .str name _ => member v name
  | v, key =>
    match Value.member? key v with
    | some w => pure w
    | none => if v.isUndefined then throw .undefinedValue else pure Value.missing

/-! ## Calls -/

/-- Hand the values of arguments on as they are passed to a call: named ones in one value at the
end. -/
def passed (positional : List Value) (named : List (String × Value)) (anyNamed : Bool) :
    List Value :=
  if anyNamed then positional ++ [.named named] else positional

/-- Numbers in a row, not more than a hundred thousand. -/
def range (arguments : List Value) : Except Fault Value := do
  let bound := Arguments.integerOf 0 (Nat.pow 2 32 - 1)
  let (first, second, step) ← Arguments.read arguments (do
    let first ← Arguments.required bound
    let second ← Arguments.optional bound
    let step ← Arguments.optional bound
    Arguments.finish
    pure (first.toNat, second.map Int.toNat, step.map Int.toNat))
  let (low, high) := match second with
    | some high => (first, high)
    | none => (0, first)
  if step = some 0 then throw .invalidOperation
  let step := step.getD 1
  let count := (high - low + step - 1) / step
  if 100000 < count then throw .invalidOperation
  pure (.stream ((List.range count).map fun i => .int (low + i * step : Nat)) true)

/-- A map with further entries. -/
def dict (arguments : List Value) : Except Fault Value := do
  let (named, first) ← Arguments.read arguments (do
    let named ← Arguments.named
    let first ← Arguments.next?
    Arguments.finish
    pure (named, first))
  let entries ← match first with
    | none | some (.undefined _) => pure []
    | some (.map entries) => pure entries
    | some _ => throw .invalidOperation
  pure (Value.mapOf (entries ++ named.map fun (k, v) => (.ofText k, v)))

/-- A new namespace. -/
def namespaceOf (arguments : List Value) : RenderM Value := do
  let names ← match arguments with
    | [] | [.none] | [.undefined _] => pure []
    | [.named named] => pure (Record.ofList named)
    | [.map entries] =>
      pure (Record.ofList (entries.filterMap fun (k, v) => k.asText?.map fun s => (s, v)))
    | [_] => throw .invalidOperation
    | _ => throw .tooManyArguments
  let r ← get
  set { r with spaces := r.spaces ++ [names] }
  pure (.space r.spaces.length)

/-- **Call a function by its name.** -/
def callFunction (name : String) (arguments : List Value) : RenderM Value := do
  match name with
  | "range" => liftM (range arguments)
  | "dict" => liftM (dict arguments)
  | "namespace" => namespaceOf arguments
  | "debug" =>
    match arguments with
    | [v] => pure (.ofText (Filter.pretty 0 (← reveal v)))
    | vs => pure (.ofText (Filter.pretty 0 (.seq vs)))
  | _ => throw .unknownFunction

/-- The values of a macro's parameters, in their order. -/
def bindParameters (positional : List Value) (named : List (String × Value)) :
    List String → Except Fault (List (String × Value))
  | [] => if positional.isEmpty then pure [] else throw .tooManyArguments
  | p :: rest => do
    let v ← match positional.head?, named.lookup p with
      | some _, some _ => throw Fault.tooManyArguments
      | some v, none => pure v
      | none, some v => pure v
      | none, none => pure Value.missing
    let others ← bindParameters (positional.drop 1) named rest
    pure ((p, v) :: others)

/-- The statements that give parameters without value their defaults, from the last to the
first. -/
def defaultBindings (defaults : List (String × Expr)) : List Stmt :=
  defaults.reverse.map fun (p, e) =>
    .condition (.test "undefined" (.name p) []) [.assign (.name p) e] []

/-- What a macro costs of the scopes that may be open. -/
def macroCost : Nat := 4

/-- **Call a macro**: its body runs in a scope of its own that sees the closure. -/
def callMacro (run : List Stmt → RenderM Unit) (m : Macro) (arguments : List Value) :
    RenderM Value := do
  let (positional, named) := match arguments.getLast? with
    | some (.named named) => (arguments.dropLast, named)
    | _ => (arguments, [])
  if m.parameters.length < positional.length then throw .tooManyArguments
  let bindings ← liftM (bindParameters positional named m.parameters)
  let known := if m.usesCaller then "caller" :: m.parameters else m.parameters
  if !(named.all fun (name, _) => known.contains name) then throw .tooManyArguments
  let bindings :=
    if m.usesCaller then
      ("caller", (named.lookup "caller").getD Value.missing) :: bindings
    else bindings
  let before ← get
  set { before with
    scopes := []
    outer := before.outer + before.scopes.length + macroCost }
  openScope { names := Record.ofList bindings, captured := some m.closure }
  let v ← captured (run (defaultBindings m.defaults ++ m.body))
  modify fun r => { r with scopes := before.scopes, outer := before.outer }
  pure v

/-- **Call a value.** -/
def callValue (run : List Stmt → RenderM Unit) (v : Value) (arguments : List Value) :
    RenderM Value := do
  match v with
  | .function name => callFunction name arguments
  | .closure n =>
    match (← get).macros[n]? with
    | some m => callMacro run m arguments
    | none => throw .invalidOperation
  | _ => throw .invalidOperation

/-- Run the innermost loop again over other items. -/
def callLoop (run : List Stmt → RenderM Unit) (items : Value) : RenderM Value := do
  let r ← get
  match r.currentLoop?.bind fun n => r.loops[n]? with
  | some l =>
    match l.again with
    | some (target, body, otherwise) =>
      captured (run [.loop target (.literal items) none true body otherwise])
    | none => throw .invalidOperation
  | none => throw .invalidOperation

/-- Print a block in a scope of its own. -/
def callBlock (run : List Stmt → RenderM Unit) (name : String) : RenderM Unit := do
  match (← get).blocks.lookup name with
  | some body => do
    openScope {}
    run body
    closeScope
  | none => throw .unknownBlock

/-- Ask a loop for one of some values by turns, or whether values have changed. -/
def callLoopMethod (n : Nat) (name : String) (arguments : List Value) : RenderM Value := do
  match (← get).loops[n]? with
  | none => throw .unknownMethod
  | some l =>
    match name with
    | "cycle" =>
      match arguments[l.index % arguments.length]? with
      | some v => pure v
      | none => pure Value.missing
    | "changed" =>
      if l.lastAsked.any fun vs => Value.sameItems vs arguments then pure (.bool false)
      else
        updateLoop n fun l => { l with lastAsked := some arguments }
        pure (.bool true)
    | _ => throw .unknownMethod

/-- **Call a method**: a member of the value that can be called. -/
def callMethod (run : List Stmt → RenderM Unit) (v : Value) (name : String)
    (arguments : List Value) : RenderM Value := do
  match v with
  | .loop n => callLoopMethod n name arguments
  | v =>
    match ← memberNamed? v name with
    | some f => callValue run f arguments
    | none => throw .unknownMethod

end RenderM

/-! ## Expressions -/

/-- The values of two operands brought together. -/
def Operator.apply (op : Operator) (a b : Value) : Except Fault Value :=
  match op with
  | .add => a.add b
  | .subtract => a.subtract b
  | .multiply => a.multiply b
  | .divide => a.divide b
  | .divideFloor => a.divideFloor b
  | .remainder => a.remainder b
  | .power => a.power b
  | .concat => if a.isMissing || b.isMissing then throw .undefinedValue else pure (a.concat b)

/-- Whether a comparison holds; missing values cannot be compared. -/
def Comparison.holds (c : Comparison) (a b : Value) : Except Fault Bool :=
  if a.isMissing || b.isMissing then throw .undefinedValue
  else
    match c with
    | .equal => pure (a.same b)
    | .notEqual => pure (!a.same b)
    | .less => pure (a.compare b).isLT
    | .lessEqual => pure (a.compare b).isLE
    | .greater => pure (a.compare b).isGT
    | .greaterEqual => pure (a.compare b).isGE
    | .within => Value.truthy <$> b.contains a
    | .notWithin => (fun v => !v.truthy) <$> b.contains a

/-- The values of arguments: positional ones, named ones, and whether any was named. -/
structure Passed where
  positional : List Value := []
  named : Record Value := []
  anyNamed : Bool := false

/-- The arguments as a call takes them. -/
def Passed.values (p : Passed) : List Value := RenderM.passed p.positional p.named p.anyNamed

open RenderM

mutual

/-- **The value of an expression.** -/
def Expr.eval (run : List Stmt → RenderM Unit) : Expr → RenderM Value
  | .name n => do return ((← get).lookup n).getD Value.missing
  | .literal v => pure v
  | .list items => .seq <$> Expr.evalList run items
  | .dict keys values => do
    let ks ← Expr.evalList run keys
    let vs ← Expr.evalList run values
    pure (Value.mapOf (ks.zip vs))
  | .member e n => do
    let v ← Expr.eval run e
    RenderM.member v n
  | .item e key => do
    let v ← Expr.eval run e
    let k ← Expr.eval run key
    RenderM.item v k
  | .slice e start stop step => do
    let v ← Expr.eval run e
    let a ← Expr.eval run start
    let b ← Expr.eval run stop
    let c ← Expr.eval run step
    liftM (v.slice a b c)
  | .negative e => do
    let v ← Expr.eval run e
    liftM v.negate
  | .not e => do
    let v ← Expr.eval run e
    return .bool (!(← truth v))
  | .and a b => do
    let v ← Expr.eval run a
    if ← truth v then Expr.eval run b else pure v
  | .or a b => do
    let v ← Expr.eval run a
    if ← truth v then pure v else Expr.eval run b
  | .binary op a b => do
    let v ← Expr.eval run a
    let w ← Expr.eval run b
    liftM (op.apply v w)
  | .compare first others => do
    let v ← Expr.eval run first
    Expr.evalChain run v others
  | .condition test value otherwise => do
    let t ← Expr.eval run test
    if ← truth t then Expr.eval run value else Expr.eval run otherwise
  | .filter n e arguments => do
    let v ← Expr.eval run e
    let p ← Argument.evalAll run arguments
    let v ← reveal v
    liftM (Filter.apply n (v :: p.values))
  | .test n e arguments => do
    let v ← Expr.eval run e
    let p ← Argument.evalAll run arguments
    let v ← reveal v
    .bool <$> liftM (Test.apply n (v :: p.values))
  | .call (.name "loop") arguments => do
    let p ← Argument.evalAll run arguments
    match p.values with
    | [items] => callLoop run items
    | _ => throw .invalidOperation
  | .call (.name "super") arguments => do
    let _ ← Argument.evalAll run arguments
    throw .invalidOperation
  | .call (.name n) arguments => do
    let p ← Argument.evalAll run arguments
    match (← get).lookup n with
    | some f => callValue run f p.values
    | none => throw .unknownFunction
  | .call (.member (.name "self") n) _ => captured (callBlock run n)
  | .call (.member e n) arguments => do
    let v ← Expr.eval run e
    let p ← Argument.evalAll run arguments
    callMethod run v n p.values
  | .call callee arguments => do
    let f ← Expr.eval run callee
    let p ← Argument.evalAll run arguments
    callValue run f p.values

/-- The values of expressions, in order. -/
def Expr.evalList (run : List Stmt → RenderM Unit) : List Expr → RenderM (List Value)
  | [] => pure []
  | e :: rest => do
    let v ← Expr.eval run e
    let vs ← Expr.evalList run rest
    pure (v :: vs)

/-- A chain of comparisons, which ends with the first that does not hold. -/
def Expr.evalChain (run : List Stmt → RenderM Unit) (v : Value) :
    List (Comparison × Expr) → RenderM Value
  | [] => pure (.bool true)
  | (c, e) :: rest => do
    let w ← Expr.eval run e
    if ← liftM (c.holds v w) then Expr.evalChain run w rest else pure (.bool false)

/-- The values of arguments. -/
def Argument.evalAll (run : List Stmt → RenderM Unit) : List Argument → RenderM Passed
  | [] => pure {}
  | .plain e :: rest => do
    let v ← Expr.eval run e
    let p ← Argument.evalAll run rest
    pure { p with positional := v :: p.positional }
  | .named n e :: rest => do
    let v ← Expr.eval run e
    let p ← Argument.evalAll run rest
    pure { p with
      named := if Record.has n p.named then p.named else Record.insert n v p.named
      anyNamed := true }
  | .spread e :: rest => do
    let v ← Expr.eval run e
    let items ← liftM (Filter.elements v)
    let p ← Argument.evalAll run rest
    pure { p with positional := items ++ p.positional }
  | .spreadNamed e :: rest => do
    let v ← Expr.eval run e
    let v ← reveal v
    let p ← Argument.evalAll run rest
    match Filter.entriesOf? v with
    | some entries =>
      let names := entries.filterMap fun (k, v) => k.asText?.map fun s => (s, v)
      pure { p with named := Record.overlay (Record.ofList names) p.named, anyNamed := true }
    | none => throw .invalidOperation

end

/-! ## Statements -/

mutual

/-- **Bind a value to a target.**  Several targets share out the items of a list. -/
def Target.bind (run : List Stmt → RenderM Unit) : Target → Value → RenderM Unit
  | .name n, v => bindName n v
  | .member e n, v => do
    match ← Expr.eval run e with
    | .space k =>
      modify fun r => { r with spaces := r.spaces.modify k (Record.insert n v) }
    | _ => throw .invalidOperation
  | .several targets, v =>
    match v with
    | .str _ _ | .undefined _ | .none => throw .cannotUnpack
    | v =>
      match v.elements? with
      | some items =>
        if items.length = targets.length then Target.bindAll run targets items
        else throw .cannotUnpack
      | none => throw .cannotUnpack

/-- Bind values to targets, one by one. -/
def Target.bindAll (run : List Stmt → RenderM Unit) : List Target → List Value → RenderM Unit
  | t :: ts, v :: vs => do
    Target.bind run t v
    Target.bindAll run ts vs
  | _, _ => pure ()

end

/-- A value through filters. -/
def FilterCall.applyAll (run : List Stmt → RenderM Unit) (filters : List FilterCall) (v : Value) :
    RenderM Value :=
  filters.foldlM (fun v f => do
    let p ← Argument.evalAll run f.arguments
    liftM (Filter.apply f.name (v :: p.values))) v

/-- Items with their neighbours. -/
def withNeighbours (previous : Option Value) : List Value →
    List (Option Value × Value × Option Value)
  | [] => []
  | v :: rest => (previous, v, rest.head?) :: withNeighbours (some v) rest

/-- The template that is asked for: there is one name that can be. -/
def templateName : String := "text"

/-- Whether the template itself is among those asked for. -/
def asksForItself (names : Value) : Except Fault Bool :=
  match names with
  | .str s _ => pure (s = templateName)
  | .seq items => pure (items.any fun v => v.asText? = some templateName)
  | .stream items _ => pure (items.any fun v => v.asText? = some templateName)
  | _ => throw .invalidOperation

/-- What an inclusion costs of the scopes that may be open. -/
def includeCost : Nat := 10

/-- Run the template again inside of itself; whatever fails there fails as an inclusion. -/
def runIncluded (run : List Stmt → RenderM Unit) : RenderM Unit := fun r =>
  if Rendering.maxScopes < r.outer + r.scopes.length + includeCost then .error .invalidOperation
  else
    match run r.template { r with outer := r.outer + includeCost } with
    | .ok ((), s) => .ok ((), { s with outer := r.outer })
    | .error _ => .error .badInclude

/-- Define a macro in the current scope, which shares its names with the macro's closure. -/
def closureOf (name : String) (parameters : List String) (defaults : List (String × Expr))
    (usesCaller : Bool) (body : List Stmt) : RenderM Value := do
  let r ← get
  match r.scopes with
  | [] => pure Value.missing
  | s :: rest =>
    let number := s.shared.getD r.closures.length
    let closures := match s.shared with
      | some n => r.closures.modify n fun names => Record.overlay r.visible names
      | none => r.closures ++ [r.visible]
    let defined : Macro := ⟨name, parameters, defaults, usesCaller, body, number⟩
    set { r with
      scopes := { s with shared := some number } :: rest
      closures
      macros := r.macros ++ [defined] }
    pure (.closure r.macros.length)

/-- Whether a value turns escaping on. -/
def escapingOf (v : Value) : Except Fault Bool :=
  match v with
  | .str s _ =>
    if s = "html" then pure true else if s = "none" then pure false else throw .invalidOperation
  | v => pure (v.same (.bool true))

mutual

/-- **What a statement does.** -/
def Stmt.exec (run : List Stmt → RenderM Unit) : Stmt → RenderM Unit
  | .plain s => write s
  | .output e => do
    let v ← Expr.eval run e
    emit v
  | .loop target source only recursive body otherwise => do
    let v ← Expr.eval run source
    let v ← reveal v
    let items ← liftM (Filter.elements v)
    let sized := only.isSome || v.isSized
    let items ← match only with
      | none => pure items
      | some test => do
        openScope {}
        let kept ← items.filterM fun item => do
          Target.bind run target item
          truth (← Expr.eval run test)
        closeScope
        pure kept
    let r ← get
    let number := r.loops.length
    let outerDepth := (r.currentLoop?.bind fun n => r.loops[n]?).bind fun l =>
      if l.again.isSome then some (l.depth + 1) else none
    let state : LoopState :=
      { length := if sized then some items.length else none
        depth := outerDepth.getD 0
        again := if recursive then some (target, body, otherwise) else none }
    set { r with loops := r.loops ++ [state] }
    openScope { loop := some number }
    (withNeighbours none items).zipIdx.forM fun ((previous, item, next), index) => do
      updateLoop number fun l => { l with index, previous, next }
      Target.bind run target item
      Stmt.execAll run body
    closeScope
    if items.isEmpty then Stmt.execAll run otherwise
  | .condition test body otherwise => do
    let v ← Expr.eval run test
    if ← truth v then Stmt.execAll run body else Stmt.execAll run otherwise
  | .scope bindings body => do
    openScope {}
    bindings.forM fun (target, e) => do
      let v ← Expr.eval run e
      Target.bind run target v
    Stmt.execAll run body
    closeScope
  | .assign target e => do
    let v ← Expr.eval run e
    Target.bind run target v
  | .assignBlock target filters body => do
    let v ← captured (Stmt.execAll run body)
    let v ← FilterCall.applyAll run filters v
    Target.bind run target v
  | .escaping e body => do
    let v ← Expr.eval run e
    let escape ← liftM (escapingOf v)
    let before := (← get).escape
    modify fun r => { r with escape }
    Stmt.execAll run body
    modify fun r => { r with escape := before }
  | .filtered filters body => do
    let v ← captured (Stmt.execAll run body)
    let v ← FilterCall.applyAll run filters v
    emit v
  | .block _ body => do
    openScope {}
    Stmt.execAll run body
    closeScope
  | .extend parent => do
    match ← Expr.eval run parent with
    | .str s _ => if s = templateName then throw .invalidOperation else throw .templateNotFound
    | _ => throw .invalidOperation
  | .includeTemplate names optional => do
    let v ← Expr.eval run names
    if ← liftM (asksForItself v) then runIncluded run
    else if optional then pure ()
    else throw .templateNotFound
  | .importAs names target => do
    let v ← Expr.eval run names
    if ← liftM (asksForItself v) then
      openScope {}
      let _ ← captured (runIncluded run)
      let names := (((← get).scopes.head?).map (·.names)).getD []
      closeScope
      bindName target (.map (names.map fun (k, v) => (.ofText k, v)))
    else throw .templateNotFound
  | .importNames names targets => do
    let v ← Expr.eval run names
    if ← liftM (asksForItself v) then
      openScope {}
      let _ ← captured (runIncluded run)
      let names := (((← get).scopes.head?).map (·.names)).getD []
      closeScope
      targets.forM fun (n, m) => bindName m ((Record.get? n names).getD Value.missing)
    else throw .templateNotFound
  | .defineMacro name parameters defaults usesCaller body => do
    let v ← closureOf name parameters defaults usesCaller body
    bindName name v
  | .callWith callee arguments parameters defaults usesCaller body => do
    let caller ← closureOf "caller" parameters defaults usesCaller body
    let v ← Expr.eval run (.call callee (arguments ++ [.named "caller" (.literal caller)]))
    emit v
  | .run e => do
    let _ ← Expr.eval run e

/-- **What statements do**, one after the other. -/
def Stmt.execAll (run : List Stmt → RenderM Unit) : List Stmt → RenderM Unit
  | [] => pure ()
  | s :: rest => do
    Stmt.exec run s
    Stmt.execAll run rest

end

/-- Statements that are called, with the depth to which calls may still be nested. -/
def runAt : Nat → List Stmt → RenderM Unit
  | 0, _ => throw .invalidOperation
  | depth + 1, body => Stmt.execAll (runAt depth) body

mutual

/-- The blocks of a statement, inner ones included. -/
def Stmt.blocks : Stmt → List (String × List Stmt)
  | .loop _ _ _ _ body otherwise => Stmt.blocksOf body ++ Stmt.blocksOf otherwise
  | .condition _ body otherwise => Stmt.blocksOf body ++ Stmt.blocksOf otherwise
  | .scope _ body => Stmt.blocksOf body
  | .assignBlock _ _ body => Stmt.blocksOf body
  | .escaping _ body => Stmt.blocksOf body
  | .filtered _ body => Stmt.blocksOf body
  | .block name body => (name, body) :: Stmt.blocksOf body
  | _ => []

/-- The blocks of statements. -/
def Stmt.blocksOf : List Stmt → List (String × List Stmt)
  | [] => []
  | s :: rest => Stmt.blocks s ++ Stmt.blocksOf rest

end

/-- The state in which rendering begins. -/
def Rendering.start (template : List Stmt) (context : Context) : Rendering :=
  { context := .map (Value.ofJsonFields context), template, blocks := Stmt.blocksOf template }

/-- How deep calls may be nested; the bound on open scopes is always met first. -/
def callDepth : Nat := Rendering.maxScopes + 1

/-- **The text of a template in a context.** -/
def Stmt.render (template : List Stmt) (context : Context) : Except Fault String := do
  let ((), r) ← (Stmt.execAll (runAt callDepth) template).run (Rendering.start template context)
  pure r.output

/-- **The value of an expression in a context.** -/
def Expr.value (e : Expr) (context : Context) : Except Fault Value := do
  let (v, r) ← (Expr.eval (runAt callDepth) e).run (Rendering.start [] context)
  match v with
  | .space _ | .loop _ | .closure _ => (·.1) <$> (reveal v).run r
  | v => pure v

end Connector.Template
