import Connector.RunError
import Connector.Text.Base64

/-!
# What a request sends

Address, headers, body and credentials are templates; they are rendered anew for every request.

* `Options` — the templates.
* `Options.renderUrl`, `Options.renderHeaders`, `Options.renderBody` — what they come to.
* `Credentials.authorize` — the header of basic authentication.
* `Checkpoint` — the templates of what is stored after a response.
-/

namespace Connector

/-- Render every template of a record as text, in the order in which they stand. -/
def renderTexts (ts : Record Template) (context : Context) : Except RunError (Record String) :=
  ((ts.mapValuesM (Template.renderText · context)).mapError .template).map Record.sort

/-- Render every template of a record, keeping the types of values, in the order in which they
stand. -/
def renderValues (ts : Record Template) (context : Context) : Except RunError Context :=
  ((ts.mapValuesM (Template.render · context)).mapError .template).map Record.sort

/-- **Name and password** of basic authentication. -/
structure Credentials where
  username : Template
  password : Template

namespace Credentials

/-- The value of the authorization header for a name and a password. -/
def headerValue (username password : String) : String :=
  "Basic " ++ Text.Base64.ofText (username ++ ":" ++ password)

/-- **Set the authorization header.** -/
def authorize (c : Credentials) (context : Context) (headers : Record String) :
    Except RunError (Record String) := do
  let username ← (c.username.renderText context).mapError .template
  let password ← (c.password.renderText context).mapError .template
  pure (Record.insert "Authorization" (headerValue username password) headers)

end Credentials

/-- **The templates of a request.**  Those of headers and body stand in any order. -/
structure Options where
  url : Template
  method : String
  headers : Record Template
  body : Record Template
  credentials : Option Credentials

namespace Options

/-- The address. -/
def renderUrl (o : Options) (context : Context) : Except RunError String :=
  (o.url.renderText context).mapError .template

/-- The headers, without the one of authentication. -/
def renderHeaders (o : Options) (context : Context) : Except RunError (Record String) :=
  renderTexts o.headers context

/-- The fields of the body. -/
def renderBody (o : Options) (context : Context) : Except RunError Context :=
  renderValues o.body context

/-- Headers together with the one of authentication, if there are credentials. -/
def authorize (o : Options) (context : Context) (headers : Record String) :
    Except RunError (Record String) :=
  match o.credentials with
  | some c => c.authorize context headers
  | none => .ok headers

end Options

/-- **What is stored after a response, and where.** -/
structure Checkpoint where
  scope : List Template
  content : Record Template

namespace Checkpoint

/-- Render templates as texts, in order. -/
def renderAllTexts (context : Context) : List Template → Except TemplateError (List String)
  | [] => .ok []
  | t :: rest =>
    match t.renderText context with
    | .error e => .error e
    | .ok s => (renderAllTexts context rest).map (s :: ·)

/-- The fragments of the namespace. -/
def renderScope (c : Checkpoint) (context : Context) : Except RunError (List String) :=
  (renderAllTexts context c.scope).mapError .template

/-- The content. -/
def renderContent (c : Checkpoint) (context : Context) : Except RunError Context :=
  renderValues c.content context

end Checkpoint

end Connector
