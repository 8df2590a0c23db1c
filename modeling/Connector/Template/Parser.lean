import Connector.Template.Grammar
import Connector.Template.Token

/-!
# Reading expressions and statements

The grammar of templates over their tokens.  An expression is read in layers, one for each
strength of binding; each layer takes the reader of nested expressions as an argument, and
`exprAt` closes the circle.  Its argument is the depth that is still allowed, which both bounds
the nesting of a template and makes the circle end.

* `Expr.read?` — the expression that a list of tokens is, as a whole.
* `Stmt.read?` — the statements of a template.

A repetition inside a layer consumes a token each time, so the number of tokens bounds it.
-/

namespace Connector.Template

/-- **The state of reading**: the tokens ahead, the blocks seen, and whether the macro that is
being read mentions its caller. -/
structure Reading where
  tokens : List Token
  blocks : List String := []
  inMacro : Bool := false
  usesCaller : Bool := false

/-- A reader of something at the front of the tokens. -/
abbrev Reader := StateT Reading (Except Fault)

namespace Reader

/-! ## Single tokens -/

/-- The next token. -/
def peek : Reader (Option Token) := do return (← get).tokens.head?

/-- Step over a token. -/
def advance : Reader Unit := modify fun r => { r with tokens := r.tokens.drop 1 }

/-- Refuse the next token.  A token that is itself a fault is refused for that. -/
def unexpected : Reader α := do
  match ← peek with
  | some (.fault why) => throw why
  | _ => throw .syntaxError

/-- Step over a token if it is the next. -/
def skip (t : Token) : Reader Bool := do
  if (← peek) = some t then
    advance
    pure true
  else pure false

/-- Step over a sign if it is the next token. -/
def skipSign (s : Sign) : Reader Bool := skip (.sign s)

/-- Step over a word if it is the next token. -/
def skipWord (w : String) : Reader Bool := skip (.name w)

/-- Step over a token that must come next. -/
def expect (t : Token) : Reader Unit := do
  if !(← skip t) then unexpected

/-- Step over a sign that must come next. -/
def expectSign (s : Sign) : Reader Unit := expect (.sign s)

/-- Step over a word that must come next. -/
def expectWord (w : String) : Reader Unit := expect (.name w)

/-- A name. -/
def name : Reader String := do
  match ← peek with
  | some (.name n) => do
    advance
    pure n
  | _ => unexpected

/-- The number of tokens ahead. -/
def tokensAhead : Reader Nat := do return (← get).tokens.length

/-! ## Repetitions -/

/-- Read as often as there is something to read, adding to what was read before. -/
def growing (step : α → Reader (Option α)) : Nat → α → Reader α
  | 0, a => pure a
  | fuel + 1, a => do
    match ← step a with
    | some b => growing step fuel b
    | none => pure a

/-- Grow a result while tokens last. -/
def grow (step : α → Reader (Option α)) (a : α) : Reader α := do
  growing step (← tokensAhead) a

/-- Items between commas up to a closing token, which is consumed; a comma may stand before it. -/
def itemsUntil (closing : Token) (item : Reader α) : Reader (List α) := do
  if ← skip closing then pure []
  else
    let first ← item
    let rec go : Nat → List α → Reader (List α)
      | 0, _ => unexpected
      | fuel + 1, items => do
        if ← skip closing then pure items.reverse
        else
          expectSign .comma
          if ← skip closing then pure items.reverse else go fuel ((← item) :: items)
    go (← tokensAhead) [first]

/-- Operands of one strength, combined from the left. -/
def leftChain (operand : Reader Expr) (operator? : Token → Option (Expr → Expr → Expr)) :
    Reader Expr := do
  let first ← operand
  grow (fun a => do
    match (← peek).bind operator? with
    | some combine => do
      advance
      let b ← operand
      pure (some (combine a b))
    | none => pure none) first

/-- How often a token comes in a row. -/
def countOf (t : Token) : Reader Nat :=
  grow (fun n => do if ← skip t then pure (some (n + 1)) else pure none) 0

/-- Apply a function some times. -/
def times (f : α → α) : Nat → α → α
  | 0, a => a
  | n + 1, a => f (times f n a)

/-! ## Expressions -/

/-- The words that stand for a value, beside names. -/
def constant? (word : String) : Option Value :=
  match word with
  | "true" | "True" => some (.bool true)
  | "false" | "False" => some (.bool false)
  | "none" | "None" => some .none
  | _ => none

/-- Strings in a row are one string. -/
def adjacentStrings (s : String) : Reader String :=
  grow (fun s => do
    match ← peek with
    | some (.str t) => do
      advance
      pure (some (s ++ t))
    | _ => pure none) s

/-- An expression in parentheses, or a list of them. -/
def parenthesized (nested : Reader Expr) : Reader Expr := do
  if ← skipSign .closeParen then pure (.list [])
  else
    let first ← nested
    if ← skipSign .comma then
      let others ← itemsUntil (.sign .closeParen) nested
      pure (.list (first :: others))
    else
      expectSign .closeParen
      pure first

/-- One entry of a map. -/
def dictEntry (nested : Reader Expr) : Reader (Expr × Expr) := do
  let key ← nested
  expectSign .colon
  let v ← nested
  pure (key, v)

/-- **The strongest expressions**: names, literals, lists, maps and whatever is in parentheses. -/
def primary (nested : Reader Expr) : Reader Expr := do
  match ← peek with
  | some (.name word) => do
    advance
    match constant? word with
    | some v => pure (.literal v)
    | none => do
      if word = "caller" then modify fun r => { r with usesCaller := true }
      pure (.name word)
  | some (.str s) => do
    advance
    let s ← adjacentStrings s
    pure (.literal (.ofText s))
  | some (.int n) => do
    advance
    pure (.literal (.int n))
  | some (.float x) => do
    advance
    pure (.literal (.float x))
  | some (.sign .openParen) => do
    advance
    parenthesized nested
  | some (.sign .openBracket) => do
    advance
    .list <$> itemsUntil (.sign .closeBracket) nested
  | some (.sign .openBrace) => do
    advance
    let entries ← itemsUntil (.sign .closeBrace) (dictEntry nested)
    pure (.dict (entries.map (·.1)) (entries.map (·.2)))
  | _ => unexpected

/-- One argument of a call; `value` reads what follows the name of a named one. -/
def argument (nested value : Reader Expr) : Reader Argument := do
  if ← skipSign .power then .spreadNamed <$> nested
  else if ← skipSign .times then .spread <$> nested
  else
    match ← nested with
    | .name n => do
      if ← skipSign .assign then .named n <$> value else pure (.plain (.name n))
    | e => pure (.plain e)

/-- Whether a plain argument comes behind a named one. -/
def isMixed : List Argument → Bool
  | [] => false
  | .named _ _ :: rest | .spreadNamed _ :: rest =>
    rest.any (fun
      | .plain _ => true
      | .spread _ => true
      | _ => false) || isMixed rest
  | _ :: rest => isMixed rest

/-- The arguments of a call, in parentheses. -/
def arguments (nested value : Reader Expr) : Reader (List Argument) := do
  expectSign .openParen
  let args ← itemsUntil (.sign .closeParen) (argument nested value)
  if isMixed args then throw .syntaxError
  pure args

/-- The literal of a bound that is left out. -/
def openBound : Expr := .literal .none

/-- An index or a slice after its opening bracket. -/
def subscript (nested : Reader Expr) (e : Expr) : Reader Expr := do
  let start ← do
    if (← peek) = some (.sign .colon) then pure none else some <$> nested
  if ← skipSign .colon then
    let stop ← do
      match ← peek with
      | some (.sign .closeBracket) | some (.sign .colon) => pure openBound
      | _ => nested
    let step ← do
      if ← skipSign .colon then
        if (← peek) = some (.sign .closeBracket) then pure openBound else nested
      else pure openBound
    expectSign .closeBracket
    pure (.slice e (start.getD openBound) stop step)
  else
    expectSign .closeBracket
    match start with
    | some key => pure (.item e key)
    | none => throw .syntaxError

/-- **What may be appended to an expression**: members, indexes, slices and calls. -/
def appended (nested value : Reader Expr) (e : Expr) : Reader Expr :=
  grow (fun e => do
    match ← peek with
    | some (.sign .dot) => do
      advance
      match ← peek with
      | some (.name n) => do
        advance
        pure (some (.member e n))
      | some (.int n) => do
        advance
        pure (some (.item e (.literal (.int n))))
      | _ => unexpected
    | some (.sign .openBracket) => do
      advance
      some <$> subscript nested e
    | some (.sign .openParen) => do
      let args ← arguments nested value
      pure (some (.call e args))
    | _ => pure none) e

/-- A strongest expression behind any number of minus signs. -/
def signed (primary : Reader Expr) : Reader Expr := do
  let n ← countOf (.sign .minus)
  let e ← primary
  pure (times .negative n e)

/-- Whether a token can begin the argument of a test that has no parentheses. -/
def beginsTestArgument : Token → Bool
  | .name n => !(["and", "or", "else", "is"].contains n)
  | .str _ | .int _ | .float _ => true
  | .sign s => s = .plus || s = .minus || s = .openBracket || s = .openBrace
  | _ => false

/-- A test after its `is`. -/
def testOf (nested value primary : Reader Expr) (e : Expr) : Reader Expr := do
  let negated ← skipWord "not"
  let test ← name
  let args ← do
    match ← peek with
    | some (.sign .openParen) => arguments nested value
    | some t =>
      if beginsTestArgument t then
        let a ← signed primary
        let a ← appended nested value a
        pure [.plain a]
      else pure []
    | none => pure []
  let e := Expr.test test e args
  pure (if negated then .not e else e)

/-- A filter with its arguments. -/
def filterCall (nested value : Reader Expr) : Reader FilterCall := do
  let filter ← name
  let args ← do
    if (← peek) = some (.sign .openParen) then arguments nested value else pure []
  pure ⟨filter, args⟩

/-- **Filters and tests** behind an expression. -/
def filtered (nested value primary : Reader Expr) (e : Expr) : Reader Expr :=
  grow (fun e => do
    if ← skipSign .bar then
      let f ← filterCall nested value
      pure (some (.filter f.name e f.arguments))
    else if ← skipWord "is" then
      some <$> testOf nested value primary e
    else pure none) e

/-- An expression that needs no operator between its parts. -/
def unary (nested value primary : Reader Expr) : Reader Expr := do
  let e ← signed primary
  let e ← appended nested value e
  filtered nested value primary e

/-- The comparison that a token begins. -/
def comparison? : Token → Option Comparison
  | .sign .equal => some .equal
  | .sign .notEqual => some .notEqual
  | .sign .less => some .less
  | .sign .lessEqual => some .lessEqual
  | .sign .greater => some .greater
  | .sign .greaterEqual => some .greaterEqual
  | .name "in" => some .within
  | .name "not" => some .notWithin
  | _ => none

/-- **Comparisons**, as many as are chained. -/
def compared (operand : Reader Expr) : Reader Expr := do
  let first ← operand
  let others ← grow (fun (others : List (Comparison × Expr)) => do
    match (← peek).bind comparison? with
    | some c => do
      advance
      if c = .notWithin then expectWord "in"
      let e ← operand
      pure (some ((c, e) :: others))
    | none => pure none) []
  pure (if others.isEmpty then first else .compare first others.reverse)

/-- An operator of arithmetic and the token for it. -/
def binaryOf (table : List (Sign × Operator)) : Token → Option (Expr → Expr → Expr)
  | .sign s => (table.lookup s).map Expr.binary
  | _ => none

/-- An operator of logic and the word for it. -/
def wordOf (word : String) (combine : Expr → Expr → Expr) (t : Token) :
    Option (Expr → Expr → Expr) :=
  if t = .name word then some combine else none

/-- **An expression without condition**, through all strengths of binding. -/
def unconditional (nested value primary : Reader Expr) : Reader Expr :=
  let powers := leftChain (unary nested value primary) (binaryOf [(.power, .power)])
  let products := leftChain powers
    (binaryOf [(.times, .multiply), (.over, .divide), (.overFloor, .divideFloor),
      (.modulo, .remainder)])
  let texts := leftChain products (binaryOf [(.tilde, .concat)])
  let sums := leftChain texts (binaryOf [(.plus, .add), (.minus, .subtract)])
  let negations := do
    let n ← countOf (.name "not")
    let e ← compared sums
    pure (times Expr.not n e)
  let conjunctions := leftChain negations (wordOf "and" .and)
  leftChain conjunctions (wordOf "or" .or)

/-- The conditions behind an expression; one without alternative yields a silent value. -/
def conditional (operand : Reader Expr) : Nat → Reader Expr
  | 0 => operand
  | fuel + 1 => do
    let first ← operand
    grow (fun e => do
      if ← skipWord "if" then
        let test ← operand
        let otherwise ← do
          if ← skipWord "else" then conditional operand fuel else pure (.literal .silent)
        pure (some (.condition test e otherwise))
      else pure none) first

mutual

/-- **An expression**, with the depth that is still allowed. -/
def exprAt : Nat → Reader Expr
  | 0 => throw .syntaxError
  | depth + 1 => do
    let nested := exprAt depth
    let strongest := primaryAt depth
    conditional (unconditional nested nested strongest) (← tokensAhead)

/-- A strongest expression, with the depth that is still allowed. -/
def primaryAt : Nat → Reader Expr
  | 0 => throw .syntaxError
  | depth + 1 => primary (exprAt depth)

end

/-- An expression without condition, with the depth that is still allowed. -/
def unconditionalAt (depth : Nat) : Reader Expr :=
  unconditional (exprAt depth) (exprAt depth) (primaryAt depth)

/-! ## Statements -/

/-- The names that nothing can be bound to. -/
def reservedNames : List String :=
  ["true", "True", "false", "False", "none", "None", "loop", "self"]

/-- A name that something is bound to. -/
def bindable : Reader String := do
  let n ← name
  if reservedNames.contains n then throw .syntaxError
  pure n

/-- A name, or a member of what a name stands for. -/
def dottedTarget : Reader Target := do
  let n ← bindable
  let (_, target) ← grow (fun (state : Expr × Target) => do
    if ← skipSign .dot then
      let m ← name
      pure (some (.member state.1 m, .member state.1 m))
    else pure none) (Expr.name n, Target.name n)
  pure target

/-- Whether a token ends a list of targets. -/
def endsTargets : Option Token → Bool
  | some (.sign .closeParen) | some .closeOutput | some .closeStatement => true
  | some (.name "in") => true
  | _ => false

/-- Targets between commas, of which parentheses make groups; `single` reads one without. -/
def targets (single : Reader Target) : Nat → Reader Target
  | 0 => unexpected
  | fuel + 1 => do
    let one : Reader Target := do
      if ← skipSign .openParen then
        let t ← targets single fuel
        expectSign .closeParen
        pure t
      else single
    if endsTargets (← peek) then pure (.several [])
    else
      let first ← one
      if (← peek) = some (.sign .comma) then
        let others ← grow (fun (found : List Target) => do
          if ← skipSign .comma then
            if endsTargets (← peek) then pure none else pure (some ((← one) :: found))
          else pure none) []
        pure (.several (first :: others.reverse))
      else pure first

/-- The readers that statements are made of. -/
structure Parts where
  expr : Reader Expr
  unconditional : Reader Expr
  /-- The statements up to one of some words, which is left ahead. -/
  body : List String → Reader (List Stmt)

/-- The end of a statement's bracket. -/
def closing : Reader Unit := expect .closeStatement

/-- A body up to one word, which is consumed. -/
def Parts.bodyUntil (p : Parts) (word : String) : Reader (List Stmt) := do
  let body ← p.body [word]
  expectWord word
  pure body

/-- Filters between bars. -/
def filterChain (p : Parts) : Reader (List FilterCall) := do
  let first ← filterCall p.expr p.expr
  let others ← grow (fun (found : List FilterCall) => do
    if ← skipSign .bar then pure (some ((← filterCall p.expr p.expr) :: found))
    else pure none) []
  pure (first :: others.reverse)

/-- A loop. -/
def loopStatement (p : Parts) : Reader Stmt := do
  let target ← targets (Target.name <$> bindable) (← tokensAhead)
  expectWord "in"
  let items ← p.unconditional
  let only ← do if ← skipWord "if" then some <$> p.expr else pure none
  let recursive ← skipWord "recursive"
  closing
  let body ← p.body ["endfor", "else"]
  let otherwise ← do
    if ← skipWord "else" then
      closing
      p.body ["endfor"]
    else pure []
  expectWord "endfor"
  pure (.loop target items only recursive body otherwise)

/-- A condition, with its alternatives. -/
def conditionStatement (p : Parts) : Nat → Reader Stmt
  | 0 => unexpected
  | fuel + 1 => do
    let test ← p.expr
    closing
    let body ← p.body ["endif", "else", "elif"]
    if ← skipWord "else" then
      closing
      let otherwise ← p.bodyUntil "endif"
      pure (.condition test body otherwise)
    else if ← skipWord "elif" then
      let otherwise ← conditionStatement p fuel
      pure (.condition test body [otherwise])
    else
      expectWord "endif"
      pure (.condition test body [])

/-- A scope with bindings of its own. -/
def scopeStatement (p : Parts) : Reader Stmt := do
  let binding : Reader (Target × Expr) := do
    let target ← do
      if ← skipSign .openParen then
        let t ← targets (Target.name <$> bindable) (← tokensAhead)
        expectSign .closeParen
        pure t
      else Target.name <$> bindable
    expectSign .assign
    let e ← p.expr
    pure (target, e)
  let bindings ← do
    if ← skip .closeStatement then pure []
    else
      let first ← binding
      let others ← grow (fun (found : List (Target × Expr)) => do
        if ← skipSign .comma then pure (some ((← binding) :: found)) else pure none) []
      closing
      pure (first :: others.reverse)
  let body ← p.bodyUntil "endwith"
  pure (.scope bindings body)

/-- An assignment of a value or of rendered text. -/
def assignStatement (p : Parts) : Reader Stmt := do
  let grouped := (← peek) = some (.sign .openParen)
  let target ← targets dottedTarget (← tokensAhead)
  let single := match target with
    | .several _ => false
    | _ => !grouped
  match ← peek with
  | some .closeStatement | some (.sign .bar) =>
    if single then
      let filters ← do if ← skipSign .bar then filterChain p else pure []
      closing
      let body ← p.bodyUntil "endset"
      pure (.assignBlock target filters body)
    else unexpected
  | _ => do
    expectSign .assign
    let e ← p.expr
    pure (.assign target e)

/-- A part of a template under a name, which may be given again at its end. -/
def blockStatement (p : Parts) : Reader Stmt := do
  if (← get).inMacro then throw .syntaxError
  let n ← name
  if (← get).blocks.contains n then throw .syntaxError
  modify fun r => { r with blocks := n :: r.blocks }
  closing
  let body ← p.bodyUntil "endblock"
  match ← peek with
  | some (.name m) => if m = n then advance else throw .syntaxError
  | _ => pure ()
  pure (.block n body)

/-- The parameters of a macro; those behind one with a default have one too. -/
def parameters (p : Parts) : Reader (List String × List (String × Expr)) := do
  expectSign .openParen
  let mustHaveDefault ← itemsUntil (.sign .closeParen) do
    let n ← bindable
    if ← skipSign .assign then
      let e ← p.expr
      pure (n, some e)
    else pure (n, none)
  let late := mustHaveDefault.dropWhile (·.2.isNone)
  if late.any (·.2.isNone) then throw .syntaxError
  pure (mustHaveDefault.map (·.1),
    mustHaveDefault.filterMap fun (n, e?) => e?.map fun e => (n, e))

/-- The body of a macro up to a word, and whether it mentions its caller. -/
def macroBody (p : Parts) (word : String) : Reader (Bool × List Stmt) := do
  let outer ← get
  set { outer with inMacro := true, usesCaller := false }
  let body ← p.bodyUntil word
  let uses := (← get).usesCaller
  modify fun r => { r with inMacro := outer.inMacro, usesCaller := outer.usesCaller }
  pure (uses, body)

/-- A definition of a macro. -/
def macroStatement (p : Parts) : Reader Stmt := do
  let n ← bindable
  let (ps, defaults) ← parameters p
  closing
  let (uses, body) ← macroBody p "endmacro"
  pure (.defineMacro n ps defaults uses body)

/-- A call whose body is a macro for the callee. -/
def callStatement (p : Parts) : Reader Stmt := do
  let (ps, defaults) ← do
    if (← peek) = some (.sign .openParen) then parameters p else pure ([], [])
  match ← p.expr with
  | .call callee args => do
    closing
    let (uses, body) ← macroBody p "endcall"
    pure (.callWith callee args ps defaults uses body)
  | _ => throw .syntaxError

/-- The inclusion of another template. -/
def includeStatement (p : Parts) : Reader Stmt := do
  let names ← p.expr
  let optional ← do
    if ← skipWord "ignore" then
      expectWord "missing"
      pure true
    else pure false
  pure (.includeTemplate names optional)

/-- Names taken from another template, each under its own or a new name. -/
def importStatement (p : Parts) : Reader Stmt := do
  let names ← p.expr
  expectWord "import"
  let one : Reader (String × String) := do
    let n ← bindable
    if ← skipWord "as" then
      let m ← bindable
      pure (n, m)
    else pure (n, n)
  if (← peek) = some .closeStatement then pure (.importNames names [])
  else
    let first ← one
    let others ← grow (fun (found : List (String × String)) => do
      if ← skipSign .comma then
        if (← peek) = some .closeStatement then pure none else pure (some ((← one) :: found))
      else pure none) []
    pure (.importNames names (first :: others.reverse))

/-- **A statement** after its opening bracket. -/
def statement (p : Parts) : Reader Stmt := do
  match ← name with
  | "for" => loopStatement p
  | "if" => do conditionStatement p (← tokensAhead)
  | "with" => scopeStatement p
  | "set" => assignStatement p
  | "autoescape" => do
    let e ← p.expr
    closing
    .escaping e <$> p.bodyUntil "endautoescape"
  | "filter" => do
    let filters ← filterChain p
    closing
    .filtered filters <$> p.bodyUntil "endfilter"
  | "block" => blockStatement p
  | "extends" => .extend <$> p.expr
  | "include" => includeStatement p
  | "import" => do
    let names ← p.expr
    expectWord "as"
    .importAs names <$> bindable
  | "from" => importStatement p
  | "macro" => macroStatement p
  | "call" => callStatement p
  | "do" => do
    match ← p.expr with
    | .call callee args => pure (.run (.call callee args))
    | _ => throw .syntaxError
  | _ => throw .syntaxError

/-- Statements up to one of some words behind an opening bracket, or to the end. -/
def statements (expr : Reader Expr) (stmt : Reader Stmt) (stops : List String) :
    Reader (List Stmt) := do
  let found ← grow (fun (found : List Stmt) => do
    match ← peek with
    | some (.plain s) => do
      advance
      pure (some (.plain s :: found))
    | some .openOutput => do
      advance
      let e ← expr
      expect .closeOutput
      pure (some (.output e :: found))
    | some .openStatement => do
      match (← get).tokens with
      | _ :: .name n :: _ =>
        if stops.contains n then pure none
        else
          advance
          let s ← stmt
          closing
          pure (some (s :: found))
      | _ => do
        advance
        unexpected
    | some _ => unexpected
    | none => pure none) []
  if !stops.isEmpty then expect .openStatement
  pure found.reverse

/-- **A statement**, with the depth that is still allowed. -/
def stmtAt : Nat → Reader Stmt
  | 0 => throw .syntaxError
  | depth + 1 =>
    statement ⟨exprAt depth, unconditionalAt depth, statements (exprAt depth) (stmtAt depth)⟩

/-- The depth to which expressions and statements may be nested. -/
def maxDepth : Nat := 150

end Reader

/-- **The expression of a list of tokens**, all of which must belong to it. -/
def Expr.read? (tokens : List Token) : Except Fault Expr := do
  let (e, rest) ← (Reader.exprAt Reader.maxDepth).run ⟨tokens, [], false, false⟩
  match rest.tokens with
  | [] => pure e
  | .fault why :: _ => throw why
  | _ => throw .syntaxError

/-- **The statements of a list of tokens.** -/
def Stmt.read? (tokens : List Token) : Except Fault (List Stmt) := do
  let reader := Reader.statements (Reader.exprAt Reader.maxDepth) (Reader.stmtAt Reader.maxDepth) []
  (·.1) <$> reader.run ⟨tokens, [], false, false⟩

end Connector.Template
