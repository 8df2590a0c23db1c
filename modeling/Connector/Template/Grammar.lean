import Connector.Template.Value

/-!
# Expressions and statements

* `Expr` — expressions.  What is left out (a bound of a slice, the alternative of a condition) is
  a literal of the value it stands for.
* `Stmt` — statements, whose bodies are lists of statements.
* `Target` — what a value can be bound to.
-/

namespace Connector.Template

/-- The operators that take both of their operands before they work. -/
inductive Operator where
  | add | subtract | multiply | divide | divideFloor | remainder | power | concat
  deriving DecidableEq

/-- The comparisons, which can be chained. -/
inductive Comparison where
  | equal | notEqual | less | lessEqual | greater | greaterEqual | within | notWithin
  deriving DecidableEq

mutual

/-- **An expression.** -/
inductive Expr where
  | name (text : String)
  | literal (v : Value)
  | list (items : List Expr)
  | dict (keys values : List Expr)
  | member (e : Expr) (name : String)
  | item (e key : Expr)
  | slice (e start stop step : Expr)
  | negative (e : Expr)
  | not (e : Expr)
  | and (a b : Expr)
  | or (a b : Expr)
  | binary (op : Operator) (a b : Expr)
  | compare (first : Expr) (others : List (Comparison × Expr))
  | condition (test value otherwise : Expr)
  | filter (name : String) (e : Expr) (arguments : List Argument)
  | test (name : String) (e : Expr) (arguments : List Argument)
  | call (callee : Expr) (arguments : List Argument)

/-- An argument of a call; a spread one stands for several. -/
inductive Argument where
  | plain (e : Expr)
  | named (name : String) (e : Expr)
  | spread (e : Expr)
  | spreadNamed (e : Expr)

end

/-- A filter with its arguments, as it stands in a statement. -/
structure FilterCall where
  name : String
  arguments : List Argument

/-- **What a value is bound to**: a name, a member of a namespace, or several targets at once. -/
inductive Target where
  | name (text : String)
  | member (e : Expr) (name : String)
  | several (targets : List Target)

/-- **A statement.** -/
inductive Stmt where
  | plain (text : String)
  | output (e : Expr)
  | loop (target : Target) (items : Expr) (only : Option Expr) (recursive : Bool)
      (body otherwise : List Stmt)
  | condition (test : Expr) (body otherwise : List Stmt)
  | scope (bindings : List (Target × Expr)) (body : List Stmt)
  | assign (target : Target) (e : Expr)
  | assignBlock (target : Target) (filters : List FilterCall) (body : List Stmt)
  | escaping (e : Expr) (body : List Stmt)
  | filtered (filters : List FilterCall) (body : List Stmt)
  | block (name : String) (body : List Stmt)
  | extend (parent : Expr)
  | includeTemplate (names : Expr) (optional : Bool)
  | importAs (names : Expr) (target : String)
  | importNames (names : Expr) (targets : List (String × String))
  | defineMacro (name : String) (parameters : List String) (defaults : List (String × Expr))
      (usesCaller : Bool) (body : List Stmt)
  | callWith (callee : Expr) (arguments : List Argument) (parameters : List String)
      (defaults : List (String × Expr)) (usesCaller : Bool) (body : List Stmt)
  | run (e : Expr)

end Connector.Template
