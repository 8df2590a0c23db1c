import Connector.Options
import Connector.Proofs.Text.Base64
import Connector.Proofs.Text.Cutting

/-!
# Credentials in a request

The texts of name and password, joined by a colon, are sent as base 64 behind the word `Basic`.
Whoever receives the request reads them back from there, unless the name itself holds a colon.

* `Credentials.sign` — authorization as it changes a request under way.
* `Credentials.read?` — what a receiver takes from the header.
* `Credentials.Signed` — a request with its credentials.
* **`Credentials.sign_legible`** — what authorization leaves, and that the receiver reads it.
-/

namespace Connector

namespace Credentials

/-! ## A request under way -/

/-- The headers of a request and the context that it is rendered in. -/
structure Outgoing where
  headers : Record String
  context : Context

/-- **Authorization as it changes a request**: nothing is set before both texts are there. -/
def sign (c : Credentials) : EStateM RunError Outgoing Unit := do
  let o ← get
  let username ← MonadExcept.ofExcept ((c.username.renderText o.context).mapError .template)
  let password ← MonadExcept.ofExcept ((c.password.renderText o.context).mapError .template)
  set { o with headers := Record.insert "Authorization" (headerValue username password) o.headers }

/-- Both templates come to texts. -/
def Renders (c : Credentials) (context : Context) (username password : String) : Prop :=
  c.username.renderText context = .ok username ∧ c.password.renderText context = .ok password

variable {c : Credentials} {o : Outgoing} {username password : String}

/-- Credentials that are rendered are put into the header. -/
lemma authorize_of_renders (h : c.Renders o.context username password) :
    c.authorize o.context o.headers =
      .ok (Record.insert "Authorization" (headerValue username password) o.headers) := by
  rw [authorize, h.1, h.2]
  rfl

/-- Credentials that are not rendered are an error. -/
lemma exists_authorize_error (h : ∀ username password, ¬c.Renders o.context username password) :
    ∃ e, c.authorize o.context o.headers = .error e := by
  cases hu : c.username.renderText o.context with
  | error e =>
      refine ⟨.template e, ?_⟩
      rw [authorize, hu]
      rfl
  | ok username =>
      cases hp : c.password.renderText o.context with
      | error e =>
          refine ⟨.template e, ?_⟩
          rw [authorize, hu, hp]
          rfl
      | ok password => exact absurd ⟨hu, hp⟩ (h username password)

/-- **Signing changes the headers as authorization does, and nothing when that fails.** -/
lemma sign_apply (c : Credentials) (o : Outgoing) :
    c.sign o = match c.authorize o.context o.headers with
      | .ok headers => .ok () { o with headers }
      | .error e => .error e o := by
  have unfolded : c.sign o =
      (do let username ← MonadExcept.ofExcept ((c.username.renderText o.context).mapError .template)
          let password ← MonadExcept.ofExcept ((c.password.renderText o.context).mapError .template)
          let value := headerValue username password
          set { o with headers := Record.insert "Authorization" value o.headers } :
        EStateM RunError Outgoing Unit) o := rfl
  rw [unfolded, authorize]
  cases c.username.renderText o.context with
  | error e => rfl
  | ok username =>
      cases c.password.renderText o.context with
      | error e => rfl
      | ok password => rfl

/-! ## What a receiver reads -/

/-- A text in front of its first colon and behind it. -/
def splitAtColon (s : String) : String × String :=
  (String.ofList (s.toList.takeWhile (· ≠ ':')),
    String.ofList ((s.toList.dropWhile (· ≠ ':')).drop 1))

/-- The base 64 behind the word for basic authentication. -/
def coded? (value : String) : Option String :=
  (List.isPrefixOf? "Basic ".toList value.toList).map String.ofList

/-- **Name and password as the receiver of a header reads them.** -/
def read? (value : String) : Option (String × String) := do
  let coded ← coded? value
  let bytes ← Text.Base64.bytes? coded
  let text ← String.fromUTF8? bytes
  pure (splitAtColon text)

/-- A name without a colon is told from the password by the first colon. -/
lemma splitAtColon_joined (h : ':' ∉ username.toList) (password : String) :
    splitAtColon (username ++ ":" ++ password) = (username, password) := by
  have joined : (username ++ ":" ++ password).toList =
      username.toList ++ ':' :: password.toList := by simp
  rw [splitAtColon, joined, Text.takeWhile_ne h, Text.dropWhile_ne h, List.drop_one, List.tail_cons,
    String.ofList_toList, String.ofList_toList]

lemma fromUTF8?_toUTF8 (s : String) : String.fromUTF8? s.toUTF8 = some s :=
  dif_pos s.isValidUTF8

/-- The coded part is what stands behind the scheme. -/
lemma coded?_basic (coded : String) : coded? ("Basic " ++ coded) = some coded := by
  rw [coded?, String.toList_append]
  exact congrArg some String.ofList_toList

/-- What is behind a base 64 of joined texts is read back, if the name holds no colon. -/
lemma read?_basic {coded : String} (h : ':' ∉ username.toList)
    (bytes : Text.Base64.bytes? coded = some (username ++ ":" ++ password).toUTF8) :
    read? ("Basic " ++ coded) = some (username, password) := by
  simp only [read?, coded?_basic, bytes, fromUTF8?_toUTF8, splitAtColon_joined h,
    Option.bind_eq_bind, Option.bind_some]
  rfl

/-! ## What authorization leaves -/

/-- **A request with its credentials**: the header decodes to name and password joined by a colon,
and nothing else has changed. -/
structure Signed (o : Outgoing) (username password : String) (later : Outgoing) : Prop where
  context : later.context = o.context
  others : ∀ name, name ≠ "Authorization" →
    Record.get? name later.headers = Record.get? name o.headers
  header : ∃ coded, Record.get? "Authorization" later.headers = some ("Basic " ++ coded) ∧
    Text.Base64.bytes? coded = some (username ++ ":" ++ password).toUTF8

/-- The header that a request is signed with, as its receiver sees it. -/
def Outgoing.credentials? (o : Outgoing) : Option (String × String) :=
  (Record.get? "Authorization" o.headers).bind read?

namespace Signed

variable {later : Outgoing}

lemma of_insert (o : Outgoing) (username password : String) :
    Signed o username password
      { o with
        headers := Record.insert "Authorization" (headerValue username password) o.headers } where
  context := rfl
  others name other := by rw [Record.get?_insert, if_neg other.symm]
  header := ⟨_, by rw [Record.get?_insert, if_pos rfl, headerValue], Text.Base64.bytes?_ofText _⟩

lemma credentials (h : Signed o username password later) (hu : ':' ∉ username.toList) :
    later.credentials? = some (username, password) := by
  obtain ⟨coded, header, bytes⟩ := h.header
  rw [Outgoing.credentials?, header, Option.bind_some, read?_basic hu bytes]

/-- **A header belongs to one pair of credentials**, among names without a colon. -/
lemma unique {o' later' : Outgoing} {username' password' : String}
    (h : Signed o username password later) (h' : Signed o' username' password' later')
    (hu : ':' ∉ username.toList) (hu' : ':' ∉ username'.toList)
    (same : Record.get? "Authorization" later.headers =
      Record.get? "Authorization" later'.headers) :
    username = username' ∧ password = password' := by
  have read : later.credentials? = later'.credentials? := by
    rw [Outgoing.credentials?, same]
    rfl
  rw [h.credentials hu, h'.credentials hu'] at read
  exact Prod.mk.inj (Option.some.inj read)

end Signed

/-- **Authorization leaves credentials that their receiver can read.**  If both templates come to
texts, the request is signed with these and is otherwise as before; without a colon in the name the
pair is read back from the header, and no other pair has it.  If one of them does not, the request
is as before. -/
theorem sign_legible (c : Credentials) (o : Outgoing) :
    (∀ username password, c.Renders o.context username password →
      ∃ later, c.sign o = .ok () later ∧ c.authorize o.context o.headers = .ok later.headers ∧
        Signed o username password later ∧
        (':' ∉ username.toList → later.credentials? = some (username, password) ∧
          ∀ o' username' password' later', Signed o' username' password' later' →
            ':' ∉ username'.toList →
            Record.get? "Authorization" later.headers =
              Record.get? "Authorization" later'.headers →
            username = username' ∧ password = password')) ∧
    ((∀ username password, ¬c.Renders o.context username password) →
      ∃ e, c.sign o = .error e o ∧ c.authorize o.context o.headers = .error e) := by
  constructor
  · intro username password renders
    have authorized := authorize_of_renders renders
    have signed := Signed.of_insert o username password
    refine ⟨_, by rw [sign_apply, authorized], authorized, signed, fun hu => ?_⟩
    exact ⟨signed.credentials hu, fun _ _ _ _ signed' hu' => signed.unique signed' hu hu'⟩
  · intro fails
    obtain ⟨e, failed⟩ := exists_authorize_error fails
    exact ⟨e, by rw [sign_apply, failed], failed⟩

example : headerValue "alice" "s3cret" = "Basic YWxpY2U6czNjcmV0" := by decide +kernel

/-- With colons in the names two pairs may share a header. -/
example : headerValue "a:b" "c" = headerValue "a" "b:c" := by decide +kernel

end Credentials

end Connector
