import Connector.Proofs.Loop.Snapshots
import Mathlib.Data.List.Nodup

/-!
# The headers of the requests that a loop sends

Headers are kept by their names as they are spelled, but to the receiver two spellings that differ
in case only are one name.  The header that says what a body is minds that; the one of
authentication replaces its own spelling only.

* `HeadersApart` — headers of pairwise different names, whatever their case.
* `headersApart_insert` — when one more header leaves them apart.
* `Definition.Options.RespellsAuthorization` — credentials beside a configured header of their name
  in another spelling.
* `Options.headersApart_of_renders` — the headers of a request that is rendered.
* **`Loop.requests_headersApart`** — the headers of every request of a run.
* `Loop.requests_twoAuthorizations` — a request with two headers of authentication.
-/

namespace Connector

open Record (names)

/-! ## Headers apart -/

section

variable {α : Type} {r s : Record α} {key : String} {value : α}

/-- **Headers of pairwise different names**, where upper and lower case are the same. -/
def HeadersApart (headers : Record α) : Prop :=
  (names headers).Pairwise fun a b => a.toLower ≠ b.toLower

instance (headers : Record α) : Decidable (HeadersApart headers) :=
  inferInstanceAs (Decidable ((names headers).Pairwise fun a b => a.toLower ≠ b.toLower))

/-- In a record every name occurs once, so that headers are apart when no two names differ in case
only. -/
lemma headersApart_iff (h : r.Ordered) : HeadersApart r ↔
    ∀ a ∈ names r, ∀ b ∈ names r, a.toLower = b.toLower → a = b := by
  constructor
  · intro apart a ha b hb same
    have symm : Std.Symm fun a b : String => a.toLower ≠ b.toLower := ⟨fun _ _ h => Ne.symm h⟩
    by_contra differ
    exact apart.forall ha hb differ same
  · intro one
    exact h.nodup.pairwise_of_forall_ne fun a ha b hb differ same => differ (one a ha b hb same)

/-- **One more header** leaves the others apart when none of them has its name in another
spelling. -/
lemma headersApart_insert (h : r.Ordered) : HeadersApart (Record.insert key value r) ↔
    HeadersApart r ∧ ∀ a ∈ names r, a.toLower = key.toLower → a = key := by
  rw [headersApart_iff (h.insert key value), headersApart_iff h]
  simp only [Record.mem_names_insert]
  constructor
  · intro apart
    exact ⟨fun a ha b hb => apart a (.inr ha) b (.inr hb),
      fun a ha => apart a (.inr ha) key (.inl rfl)⟩
  · rintro ⟨apart, own⟩ a (rfl | ha) b (rfl | hb) same
    · rfl
    · exact (own b hb same.symm).symm
    · exact own a ha same
    · exact apart a ha b hb same

end

/-! ## The headers of one request -/

/-- **There are credentials, and their header is configured in another spelling.** -/
def Definition.Options.RespellsAuthorization (o : Definition.Options) : Prop :=
  o.credentials.isSome ∧ ∃ name ∈ names o.headers.entries,
    name.toLower = "authorization" ∧ name ≠ "Authorization"

instance (o : Definition.Options) : Decidable o.RespellsAuthorization :=
  inferInstanceAs (Decidable (o.credentials.isSome ∧ ∃ name ∈ names o.headers.entries,
    name.toLower = "authorization" ∧ name ≠ "Authorization"))

/-- **Options as they are configured**: the headers have the configured names, and there are
credentials if some are configured. -/
structure Options.Configured (o : Options) (d : Definition.Options) : Prop where
  headers : names o.headers = names d.headers.entries
  credentials : o.credentials.isSome = d.credentials.isSome

lemma Definition.Options.configured_of_load {d : Definition.Options} {o : Connector.Options}
    (h : d.load = .ok o) : o.Configured d := by
  obtain ⟨credentials, hc, h⟩ := exists_of_bind_eq_ok h
  split_ifs at h
  obtain ⟨url, -, h⟩ := exists_of_bind_eq_ok h
  obtain ⟨headers, hh, h⟩ := exists_of_bind_eq_ok h
  obtain ⟨body, -, h⟩ := exists_of_bind_eq_ok h
  cases h
  refine ⟨Record.names_mapValuesM hh, ?_⟩
  cases hd : d.credentials with
  | none =>
      rw [hd] at hc
      cases hc
      rfl
  | some c =>
      rw [hd, loadOptional] at hc
      cases hl : c.load with
      | error e => rw [hl] at hc; cases hc
      | ok loaded => rw [hl] at hc; cases hc; rfl

lemma Definition.Loop.configured_of_load {d : Definition.Loop} {name : String}
    {request : Connector.Request} (h : d.load name = .ok request) :
    request.options.Configured d.options := by
  obtain ⟨options, ho, h⟩ := exists_of_bind_eq_ok h
  obtain ⟨before, -, h⟩ := exists_of_bind_eq_ok h
  obtain ⟨after, -, h⟩ := exists_of_bind_eq_ok h
  obtain ⟨repetition, -, h⟩ := exists_of_bind_eq_ok h
  obtain ⟨checkpoint, -, h⟩ := exists_of_bind_eq_ok h
  cases h
  exact Definition.Options.configured_of_load ho

namespace Options

variable {o : Options} {d : Definition.Options} {context : Context}
  {own headers : Record String} {request : Http.Request}

/-- The rendered headers have the configured names. -/
lemma Configured.names_own (h : o.Configured d) (hown : o.renderHeaders context = .ok own) :
    names own = names d.headers.entries := by
  obtain ⟨rendered, hr, rfl⟩ := exists_of_map_eq_ok hown
  have same : names rendered = names d.headers.entries := by
    rw [Record.names_mapValuesM (of_mapError_eq_ok hr), h.headers]
  have ordered : rendered.Ordered := by
    rw [Record.ordered_iff_names, same, ← Record.ordered_iff_names]
    exact d.headers.ordered
  rw [ordered.sort_eq, same]

/-- Where there are credentials, the header of authentication is put in. -/
lemma authorize_eq_ok (h : o.authorize context own = .ok headers) :
    o.credentials.isSome = false ∧ headers = own ∨
      o.credentials.isSome ∧ ∃ value, headers = Record.insert "Authorization" value own := by
  rw [authorize] at h
  cases hc : o.credentials with
  | none =>
      rw [hc] at h
      cases h
      exact .inl ⟨rfl, rfl⟩
  | some c =>
      rw [hc] at h
      exact .inr ⟨rfl, Credentials.authorize_eq_ok h⟩

/-- The header that says what a body is leaves the others apart: none is a spelling of it. -/
lemma headersApart_contentType {value : String} (h : headers.Ordered)
    (hn : ¬ NamesContentType headers) :
    HeadersApart (Record.insert "Content-Type" value headers) ↔ HeadersApart headers := by
  rw [headersApart_insert h, and_iff_left]
  intro a ha same
  exact absurd ⟨a, ha, same.trans (by decide +kernel)⟩ hn

/-- **The headers of a request are apart** unless authentication is configured in another
spelling. -/
lemma headersApart_of_renders (h : o.Configured d) (apart : HeadersApart d.headers.entries)
    (renders : o.Renders context request) :
    HeadersApart request.headers ↔ ¬ d.RespellsAuthorization := by
  obtain ⟨fields, own, headers, -, hown, authorized, -, hrequest⟩ := renders.content
  have same := h.names_own hown
  have ordered : own.Ordered := by
    rw [Record.ordered_iff_names, same, ← Record.ordered_iff_names]
    exact d.headers.ordered
  have ownApart : HeadersApart own := by rwa [HeadersApart, same]
  obtain ⟨later, headersApart⟩ : headers.Ordered ∧
      (HeadersApart headers ↔ ¬ d.RespellsAuthorization) := by
    rcases authorize_eq_ok authorized with ⟨none, rfl⟩ | ⟨some, value, rfl⟩
    · have absent : d.credentials.isSome = false := h.credentials ▸ none
      have plain : ¬ d.RespellsAuthorization := by
        simp [Definition.Options.RespellsAuthorization, absent]
      exact ⟨ordered, iff_of_true ownApart plain⟩
    · refine ⟨ordered.insert _ _, ?_⟩
      rw [headersApart_insert ordered, and_iff_right ownApart, same]
      have lower : "Authorization".toLower = "authorization" := by decide +kernel
      have configured : d.credentials.isSome := h.credentials ▸ some
      simp [Definition.Options.RespellsAuthorization, configured, lower]
  rw [hrequest]
  split_ifs with body
  · have unnamed : ¬ NamesContentType headers :=
      mt (namesContentType_of_authorize authorized).1 body.2
    exact (headersApart_contentType later unnamed).trans headersApart
  · exact headersApart

/-- **The names of the headers of a request**: the configured ones, the one of authentication where
there are credentials, and the one that says what the body is where none is configured for it. -/
lemma mem_names_of_renders (h : o.Configured d) (renders : o.Renders context request)
    (name : String) : name ∈ names request.headers ↔
      name ∈ names d.headers.entries ∨ d.credentials.isSome ∧ name = "Authorization" ∨
        request.body.isSome ∧ ¬ NamesContentType d.headers.entries ∧ name = "Content-Type" := by
  obtain ⟨fields, own, headers, -, hown, authorized, hbody, hrequest⟩ := renders.content
  have same := h.names_own hown
  have authorization : name ∈ names headers ↔
      name ∈ names d.headers.entries ∨ d.credentials.isSome ∧ name = "Authorization" := by
    rw [← same, ← h.credentials]
    rcases authorize_eq_ok authorized with ⟨none, rfl⟩ | ⟨some, value, rfl⟩
    · simp [none]
    · simp [some, Record.mem_names_insert, or_comm]
  have body : request.body.isSome ↔ fields ≠ [] := by
    rw [hbody]
    split_ifs with empty <;> simp [empty]
  have contentType : NamesContentType own ↔ NamesContentType d.headers.entries := by
    rw [NamesContentType, same]
    rfl
  rw [hrequest, body, ← contentType, ← or_assoc, ← authorization]
  split_ifs with added
  · simp [Record.mem_names_insert, added, or_comm]
  · rw [or_iff_left fun extra => added ⟨extra.1, extra.2.1⟩]

end Options

namespace Loop

variable {d : Definition.Loop} {l : Loop}

/-- **The headers of every request of a run.**  When the configured names are pairwise different in
whatever case, those of every request that is sent are as well, unless there are credentials and the
header of authentication is configured in a spelling of its own.  To the configured headers nothing
is added but that header, and the one that says what the body is where none is configured that
does. -/
theorem requests_headersApart (h : d.load l.request.name = .ok l.request)
    (apart : HeadersApart d.options.headers.entries) (context : Context) (w : World) :
    ∀ request ∈ l.requests context w,
      (HeadersApart request.headers ↔ ¬ d.options.RespellsAuthorization) ∧
      ∀ name, name ∈ names request.headers ↔
        name ∈ names d.options.headers.entries ∨
          d.options.credentials.isSome ∧ name = "Authorization" ∨
          request.body.isSome ∧ ¬ NamesContentType d.options.headers.entries ∧
            name = "Content-Type" := by
  intro request hrequest
  have configured := Definition.Loop.configured_of_load h
  obtain ⟨i, here⟩ := List.getElem?_of_mem hrequest
  obtain ⟨c, -, renders⟩ := renders_of_getElem? here
  exact ⟨Options.headersApart_of_renders configured apart renders,
    Options.mem_names_of_renders configured renders⟩

/-- A request with credentials and one header. -/
def accountDefinition (header : String) : Definition.Loop where
  options := {
    url := "items"
    headers := .ofList [(header, "mine")]
    credentials := some ⟨some "u", some "p"⟩ }

/-- The loop of that definition. -/
def accountLoop (header : String) : Loop where
  job := "items"
  token := [0]
  request := {
    name := "items"
    options := ⟨⟨"items", .literal⟩, "GET", [(header, ⟨"mine", .literal⟩)], [],
      some ⟨⟨"u", .literal⟩, ⟨"p", .literal⟩⟩⟩
    before := ⟨"pre_process", [], []⟩
    after := ⟨"post_process", [], []⟩
    repetition := ⟨"once", []⟩
    checkpoint := none }

lemma accountDefinition_load (header : String) :
    (accountDefinition header).load "items" = .ok (accountLoop header).request := by
  have url : Definition.compile "items" = .ok ⟨"items", .literal⟩ := rfl
  have shown : Text.isBlankText "items" = false := rfl
  have method : Text.upper (Text.trim "GET") = "GET" := rfl
  have headers : Definition.compileRecord (.ofList [(header, "mine")]) =
      .ok [(header, ⟨"mine", .literal⟩)] := rfl
  have credentials : Definition.loadOptional Definition.Credentials.load
      (some ⟨some "u", some "p"⟩) = .ok (some ⟨⟨"u", .literal⟩, ⟨"p", .literal⟩⟩) := rfl
  have options : (accountDefinition header).options.load =
      .ok (accountLoop header).request.options := by
    rw [Definition.Options.load]
    simp only [accountDefinition, credentials, url, shown, method, headers]
    rfl
  have repetition : Definition.Repetition.load {} = .ok ⟨"once", []⟩ := by
    have kind : Text.lower (Text.trim "once") = "once" := by decide
    rw [Definition.Repetition.load, kind]
    rfl
  rw [Definition.Loop.load, options]
  simp only [accountDefinition, repetition]
  rfl

/-- A world with one answer. -/
def accountWorld : World where
  functions := []
  network := .scripted
  answers := [.response ⟨200, [], "a"⟩]
  store := none

lemma exists_request_account (header : String) :
    ∃ request, request ∈ (accountLoop header).requests [] accountWorld :=
  List.exists_mem_of_ne_nil _ nofun

theorem requests_headersApart_accept :
    (accountDefinition "Accept").load "items" = .ok (accountLoop "Accept").request ∧
    HeadersApart (accountDefinition "Accept").options.headers.entries ∧
    ∃ request ∈ (accountLoop "Accept").requests [] accountWorld, HeadersApart request.headers := by
  have apart : HeadersApart (accountDefinition "Accept").options.headers.entries := by
    decide +kernel
  have plain : ¬ (accountDefinition "Accept").options.RespellsAuthorization := by decide +kernel
  obtain ⟨request, hrequest⟩ := exists_request_account "Accept"
  refine ⟨accountDefinition_load _, apart, request, hrequest, ?_⟩
  exact (requests_headersApart (l := accountLoop "Accept") (accountDefinition_load _) apart []
    accountWorld request hrequest).1.2 plain

/-- **A second header of authentication** stands beside the configured one. -/
theorem requests_twoAuthorizations :
    (accountDefinition "authorization").load "items" = .ok (accountLoop "authorization").request ∧
    HeadersApart (accountDefinition "authorization").options.headers.entries ∧
    ∃ request ∈ (accountLoop "authorization").requests [] accountWorld,
      "authorization" ∈ names request.headers ∧ "Authorization" ∈ names request.headers ∧
        ¬ HeadersApart request.headers := by
  have loads := accountDefinition_load "authorization"
  have configured := Definition.Loop.configured_of_load loads
  have apart : HeadersApart (accountDefinition "authorization").options.headers.entries := by
    decide +kernel
  have respells : (accountDefinition "authorization").options.RespellsAuthorization := by
    decide +kernel
  obtain ⟨request, hrequest⟩ := exists_request_account "authorization"
  obtain ⟨i, here⟩ := List.getElem?_of_mem hrequest
  obtain ⟨c, -, renders⟩ := renders_of_getElem? here
  have named := Options.mem_names_of_renders configured renders
  refine ⟨loads, apart, request, hrequest, (named _).2 (.inl ?_), (named _).2 (.inr (.inl ?_)), ?_⟩
  · decide +kernel
  · exact ⟨rfl, rfl⟩
  · rw [Options.headersApart_of_renders configured apart renders, not_not]
    exact respells

end Loop

end Connector
