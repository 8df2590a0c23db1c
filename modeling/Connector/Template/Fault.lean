/-!
# What can go wrong in a template

* `Template.Fault` — the causes for which a template is refused or fails to render.
* `Template.Fault.text` — the name of a cause in messages.
-/

namespace Connector.Template

/-- **The cause of a failure.** -/
inductive Fault where
  | syntaxError
  | badStringEscape
  | undefinedValue
  | invalidOperation
  | unknownFilter
  | unknownFunction
  | unknownTest
  | unknownMethod
  | unknownBlock
  | missingArgument
  | tooManyArguments
  | cannotUnpack
  | templateNotFound
  | badInclude
  | notRepresentable
  deriving DecidableEq, Inhabited

/-- The name of a cause. -/
def Fault.text : Fault → String
  | .syntaxError => "syntax error"
  | .badStringEscape => "bad string escape"
  | .undefinedValue => "undefined value"
  | .invalidOperation => "invalid operation"
  | .unknownFilter => "unknown filter"
  | .unknownFunction => "unknown function"
  | .unknownTest => "unknown test"
  | .unknownMethod => "unknown method"
  | .unknownBlock => "unknown block"
  | .missingArgument => "missing argument"
  | .tooManyArguments => "too many arguments"
  | .cannotUnpack => "cannot unpack"
  | .templateNotFound => "template not found"
  | .badInclude => "could not render include"
  | .notRepresentable => "result is not representable as JSON"

end Connector.Template
