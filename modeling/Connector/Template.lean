import Connector.Template.Parser
import Connector.Template.Render

/-!
# Templates

Every configurable text is a template over the variables of a context.  A template is compiled
once, which finds its syntax errors, and rendered as often as needed.

* `Template` — a compiled template of one of three shapes.
* `Template.compile` — a literal has no inset; an expression is one output and nothing else, and
  keeps the type of its value; everything else is text.
* `Template.render`, `Template.renderText` — the value, or the value as text, in a context.
* `TemplateError` — why a template is refused or does not render.  An absent variable is an
  error, never an empty text.
-/

namespace Connector

open Template (Fault Expr Stmt Token)

/-- **Why a template fails.** -/
inductive TemplateError where
  /-- The expression that the whole template is has no value. -/
  | undefined (source spelling : String)
  | fault (source : String) (why : Fault)
  deriving DecidableEq

/-- Whether a variable or member that is not there is what failed. -/
def TemplateError.isMissing : TemplateError → Bool
  | .undefined _ _ => true
  | .fault _ why => why = .undefinedValue

/-- The message of a failure. -/
def TemplateError.message : TemplateError → String
  | .undefined source spelling =>
    "undefined variable in template '" ++ source ++ "': '" ++ spelling ++ "' is undefined"
  | .fault source .undefinedValue =>
    "undefined variable in template '" ++ source ++ "': " ++ Fault.undefinedValue.text
  | .fault source why => "template error in '" ++ source ++ "': " ++ why.text

/-- The three shapes of templates. -/
inductive Template.Shape where
  | literal
  | expression (spelling : String) (e : Expr)
  | text (body : List Stmt)

/-- **A compiled template.**  Two templates are the same when their sources are. -/
structure Template where
  source : String
  shape : Template.Shape

namespace Template

/-- Whether a brace is followed by a second one, a percent sign or a hash sign. -/
def hasInset (source : String) : Bool := (Token.findInset source.toList).2.isSome

/-- The characters between two braces at either end. -/
def betweenBraces? : List Char → Option (List Char)
  | '\x7b' :: '\x7b' :: rest =>
    match rest.reverse with
    | '\x7d' :: '\x7d' :: inner => some inner.reverse
    | _ => none
  | _ => none

/-- Whether two characters stand side by side. -/
def hasPair (a b : Char) : List Char → Bool
  | c :: d :: rest => (c = a && d = b) || hasPair a b (d :: rest)
  | _ => false

/-- **The expression that a source is as a whole**: what stands between its braces, without minus
signs and blanks at the ends, unless it is empty or holds further brackets of insets. -/
def soleExpression? (source : String) : Option String := do
  let inner ← betweenBraces? source.toList
  let inner := Text.stripBoth (· = '-') inner
  if hasPair '\x7b' '\x7b' inner || hasPair '\x7d' '\x7d' inner || hasPair '\x7b' '%' inner then
    none
  else
    let inner := Text.dropEndBlanks (inner.dropWhile Text.isBlank)
    if inner.isEmpty then none else some (String.ofList inner)

/-- **Compile a source.** -/
def compile (source : String) : Except TemplateError Template :=
  if hasInset source then
    match soleExpression? source with
    | some spelling =>
      match Expr.read? (Token.ofExpression spelling) with
      | .ok e => .ok ⟨source, .expression spelling e⟩
      | .error why => .error (.fault source why)
    | none =>
      match Stmt.read? (Token.ofTemplate source) with
      | .ok body => .ok ⟨source, .text body⟩
      | .error why => .error (.fault source why)
  else .ok ⟨source, .literal⟩

/-- **Render in a context**, keeping the type of an expression. -/
def render (t : Template) (context : Context) : Except TemplateError Json :=
  match t.shape with
  | .literal => .ok (.str t.source)
  | .expression spelling e =>
    match e.value context with
    | .error why => .error (.fault t.source why)
    | .ok v =>
      if v.isUndefined then .error (.undefined t.source spelling)
      else
        match v.toJson? with
        | some j => .ok j
        | none => .error (.fault t.source .notRepresentable)
  | .text body =>
    match Stmt.render body context with
    | .ok s => .ok (.str s)
    | .error why => .error (.fault t.source why)

/-- Render in a context, as text. -/
def renderText (t : Template) (context : Context) : Except TemplateError String :=
  (t.render context).map Json.text

/-- Whether two templates have the same source. -/
def sameAs (t u : Template) : Bool := t.source = u.source

end Template

end Connector
