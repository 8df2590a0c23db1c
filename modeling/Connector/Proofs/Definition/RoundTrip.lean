import Connector.Definition.Printer
import Connector.Definition.Reader
import Connector.Proofs.Context

/-!
# Written definitions are read back

What is written for a definition is read as that definition, whatever texts, records and optional
parts are in it.  A reader walks the members of an object as they come and a writer puts them in the
order of their names, so both sides are tied by the value under each name alone.

* `Record.Ordered.erase` — the records that are written.
* `Decoder.Inverts` — a decoder that gives back what an encoder has written; `text_inverts`,
  `list_inverts`, `bindings_inverts` for the parts that are no structures.
* `Fields.written`, `required_written`, `optional_written`, `withDefault_written` — one field of a
  written structure; `decodeStructure_written` — all of it.
* `Stage.separate_written` — the tag of a stage is found wherever its name puts it.
* `Task.inverts`, `Options.inverts`, `Stage.inverts`, … — one lemma for each part.
* **`Definition.ofJson_toJson`** — reading inverts writing, so that what has been read once is
  stable.
-/

namespace Connector

namespace Record

variable {α β : Type} {key other : String}

/-! ## Written records -/

lemma mem_of_mem_erase {r : Record α} {entry : String × α} (h : entry ∈ erase key r) :
    entry ∈ r := by
  induction r with
  | nil => simp [erase] at h
  | cons head rest ih =>
      simp only [erase] at h
      split at h
      · exact List.mem_cons_of_mem _ (ih h)
      · rcases List.mem_cons.1 h with rfl | h
        · exact List.mem_cons_self ..
        · exact List.mem_cons_of_mem _ (ih h)

/-- A record without one of its entries is still in the order of names. -/
lemma Ordered.erase {r : Record α} (h : r.Ordered) (key : String) :
    (Record.erase key r).Ordered := by
  induction r with
  | nil => exact List.Pairwise.nil
  | cons head rest ih =>
      obtain ⟨first, later⟩ := List.pairwise_cons.1 h
      simp only [Record.erase]
      split
      · exact ih later
      · exact List.pairwise_cons.2 ⟨fun e he => first e (mem_of_mem_erase he), ih later⟩

/-- Nothing is erased where the name is absent. -/
lemma erase_of_absent {r : Record α} (h : get? key r = none) : erase key r = r := by
  induction r with
  | nil => rfl
  | cons head rest ih =>
      obtain ⟨k, v⟩ := head
      simp only [get?] at h
      split at h
      · cases h
      · rename_i differs
        rw [erase, if_neg differs, ih h]

end Record

open Record (get? ofList Ordered)

namespace Source

variable {r : Record Json}

mutual

/-- A value is nowhere broken. -/
lemma isWhole_ofJson : ∀ v : Json, (ofJson v).isWhole = true
  | .null | .bool _ | .num _ | .str _ => by simp only [ofJson, isWhole]
  | .arr xs => by simp only [ofJson, isWhole, itemsWhole_ofItems xs, Bool.and_self]
  | .obj ms => by simp only [ofJson, isWhole, membersWhole_ofMembers ms, Bool.and_self]

lemma itemsWhole_ofItems : ∀ xs : List Json, itemsWhole (ofItems xs) = true
  | [] => rfl
  | v :: rest => by
      simp only [ofItems, itemsWhole, isWhole_ofJson v, itemsWhole_ofItems rest, Bool.and_self]

lemma membersWhole_ofMembers : ∀ ms : List (String × Json), membersWhole (ofMembers ms) = true
  | [] => rfl
  | (_, v) :: rest => by
      simp only [ofMembers, membersWhole, isWhole_ofJson v, membersWhole_ofMembers rest,
        Bool.and_self]

end

end Source

/-! ## Decoders that give back what was written -/

/-- **A decoder inverts an encoder**: everything that is written is read back, and nothing is
written as null. -/
structure Decoder.Inverts {α : Type} (decode : Decoder α) (encode : α → Json) : Prop where
  back (a : α) : decode (Source.ofJson (encode a)) = .ok a
  present (a : α) : encode a ≠ .null

namespace Decoder

variable {α : Type} {decode : Decoder α} {encode : α → Json}

lemma text_inverts : Inverts text .str where
  back _ := by simp only [Source.ofJson, text]
  present _ := by simp

lemma bool_inverts : Inverts bool .bool where
  back _ := by simp only [Source.ofJson, bool]
  present _ := by simp

/-- An optional value that is written is read back. -/
lemma Inverts.option (h : Inverts decode encode) (a : α) :
    Decoder.option decode (Source.ofJson (encode a)) = .ok (some a) := by
  have back := h.back a
  cases written : encode a with
  | null => exact absurd written (h.present a)
  | _ =>
      rw [written] at back
      simp only [Source.ofJson, Decoder.option] at back ⊢
      rw [back]
      rfl

/-- A text that may be absent is written as a text or as null, and read again. -/
lemma option_orNull (s : Option String) :
    Decoder.option text (Source.ofJson (Definition.orNull s)) = .ok s := by
  cases s with
  | none => simp only [Definition.orNull, Source.ofJson, Decoder.option]
  | some s => exact text_inverts.option s

/-- The items of a list are read again, one after the other. -/
lemma items_written (h : Inverts decode encode) (xs : List α) :
    items decode true (Source.ofItems (xs.map encode)) = .ok xs := by
  induction xs with
  | nil => rfl
  | cons x rest ih =>
      simp only [List.map_cons, Source.ofItems, items, h.back x, ih]
      rfl

/-- A list is read again if its items are. -/
lemma list_inverts (h : Inverts decode encode) :
    Inverts (list decode) (Definition.array encode) where
  back xs := by
    simp only [Definition.array, Source.ofJson, list]
    exact items_written h xs
  present _ := by simp [Definition.array]

/-- The members of a map are read again, each under its name. -/
lemma members_written (h : Inverts decode encode) (r : Record α) :
    members decode true (Source.ofMembers (r.mapValues encode)) = .ok r := by
  induction r with
  | nil => rfl
  | cons entry rest ih =>
      obtain ⟨k, v⟩ := entry
      have encoded : Record.mapValues encode ((k, v) :: rest) =
          (k, encode v) :: Record.mapValues encode rest := rfl
      simp only [encoded, Source.ofMembers, members, h.back v]
      rw [ih]
      rfl

/-- A map of texts is read again. -/
lemma bindings_inverts : Inverts (bindings text) Definition.texts where
  back b := by
    simp only [Definition.texts, Source.ofJson, bindings, members_written text_inverts]
    have same : Bindings.ofList b.entries = b := by
      cases b with
      | mk entries ordered => simp only [Bindings.ofList, Record.ofList_of_ordered ordered]
    exact congrArg Except.ok same
  present _ := by simp [Definition.texts]

/-- A small count is a machine integer. -/
lemma ofInt_count {n : Int} (nonneg : 0 ≤ n) (small : n < 65536) :
    ∃ w : WideInt, Number.ofInt n = .int w ∧ w.val = n := by
  unfold Number.ofInt WideInt.ofInt?
  split
  · rename_i w word
    split at word
    · cases word
      exact ⟨_, rfl, rfl⟩
    · cases word
  · rename_i word
    split at word
    · cases word
    · omega

/-- A small count below the bound is read back. -/
lemma natBelow_ofNat {bound n : Nat} (below : n < bound) (small : n < 65536) :
    natBelow bound (Source.ofJson (.ofNat n)) = .ok n := by
  obtain ⟨w, word, val⟩ := ofInt_count (n := n) (by omega) (by omega)
  have range : 0 ≤ (n : Int) ∧ (n : Int) < bound := by omega
  rw [Json.ofNat, word]
  simp only [Source.ofJson, natBelow, val, if_pos range, Int.toNat_natCast]

end Decoder

/-! ## Written structures -/

/-- The fields of a structure that was written as a record. -/
def Fields.written (r : Record Json) : Fields := ⟨.memory, Source.ofMembers r, .missingField⟩

namespace Fields

variable {α : Type} {r : Record Json} {name : String} {decode : Decoder α} {encode : α → Json}

/-- A written field is found where a record has it under its name. -/
lemma find?_written (name : String) (place : Nat) (r : Record Json) :
    (find? name place (Source.ofMembers r)).map (·.2) = (get? name r).map Source.ofJson := by
  induction r generalizing place with
  | nil => rfl
  | cons entry rest ih =>
      obtain ⟨k, v⟩ := entry
      simp only [Source.ofMembers, find?, get?]
      split
      · rfl
      · exact ih (place + 1)

/-- A member that is there is decoded. -/
lemma decode_of_some {v : Json} {a : α} {default : Option α} (h : get? name r = some v)
    (back : decode (Source.ofJson v) = .ok a) :
    (written r).decode name decode default = pure a := by
  obtain ⟨⟨place, s⟩, found, value⟩ : ∃ hit, find? name 0 (Source.ofMembers r) = some hit
      ∧ hit.2 = Source.ofJson v := by
    have := find?_written name 0 r
    rw [h, Option.map_some, Option.map_eq_some_iff] at this
    exact this
  have value : s = Source.ofJson v := value
  subst value
  simp only [Fields.decode, written, found, back]
  rfl

/-- A member that is not there is its default. -/
lemma decode_of_none {a : α} (h : get? name r = none) :
    (written r).decode name decode (some a) = pure a := by
  have absent : find? name 0 (Source.ofMembers r) = none := by
    have := find?_written name 0 r
    rwa [h, Option.map_none, Option.map_eq_none_iff] at this
  simp only [Fields.decode, written, absent]
  rfl

/-- A required field that was written is read again. -/
lemma required_written (inverts : decode.Inverts encode) {a : α}
    (h : get? name r = some (encode a)) : (written r).required name decode = pure a :=
  decode_of_some h (inverts.back a)

/-- A field that was written is read again; its default plays no part. -/
lemma withDefault_written (inverts : decode.Inverts encode) {a default : α}
    (h : get? name r = some (encode a)) :
    (written r).withDefault name decode default = pure a :=
  decode_of_some h (inverts.back a)

/-- An optional member is left out when it is absent. -/
lemma optional_written (inverts : decode.Inverts encode) {a : Option α}
    (h : get? name r = a.map encode) : (written r).optional name decode = pure a := by
  cases a with
  | none => exact decode_of_none h
  | some a => exact decode_of_some h (inverts.option a)

/-- An optional text that is shown as null when it is absent. -/
lemma optional_orNull {s : Option String} (h : get? name r = some (Definition.orNull s)) :
    (written r).optional name Decoder.text = pure s :=
  decode_of_some h (Decoder.option_orNull s)

/-- A port that has to be there: every port is below the bound. -/
lemma required_port {p : UInt16} (h : get? name r = some (.ofNat p.toNat)) :
    (written r).required name (Decoder.natBelow UInt16.size) = pure p.toNat :=
  decode_of_some h (Decoder.natBelow_ofNat p.toNat_lt p.toNat_lt)

/-- A record in order has each name once. -/
lemma check_written {known seen : List String} {place : Nat} (hr : r.Ordered)
    (fresh : ∀ entry ∈ r, entry.1 ∉ seen) :
    check known true seen place (Source.ofMembers r) = pure () := by
  induction r generalizing seen place with
  | nil => rfl
  | cons entry rest ih =>
      obtain ⟨k, v⟩ := entry
      obtain ⟨first, later⟩ := List.pairwise_cons.1 hr
      have unseen : seen.contains k = false := by
        have := fresh (k, v) (List.mem_cons_self ..)
        simpa using this
      have rest_fresh : ∀ entry ∈ rest, entry.1 ∉ seen := fun entry h =>
        fresh entry (List.mem_cons_of_mem _ h)
      have rest_unlike : ∀ entry ∈ rest, entry.1 ∉ k :: seen := fun entry h => by
        have differs : k ≠ entry.1 := fun same =>
          String.lt_irrefl k (by simpa [← same] using first entry h)
        simp [differs.symm, rest_fresh entry h]
      simp only [Source.ofMembers, check, unseen, Source.isWhole_ofJson]
      split
      · exact ih later rest_unlike
      · exact ih later rest_fresh

end Fields

/-- **A written structure is decoded from its fields.** -/
lemma decodeStructure_written {α : Type} {known : List String} {build : Fields → Located α}
    {r : Record Json} {a : α} (hr : r.Ordered) (h : build (.written r) = pure a) :
    decodeStructure .memory known build (.obj (Source.ofMembers r) true) = .ok a := by
  have whole : Fields.check known true [] 0 (Source.ofMembers r) = pure () :=
    Fields.check_written hr fun _ _ => List.not_mem_nil
  have built : build ⟨.memory, Source.ofMembers r, .missingField⟩ = pure a := h
  simp only [decodeStructure, whole, built]
  rfl

namespace Definition

open Decoder Fields Record

/-- A field that is written only if it is there, and where it is found. -/
@[simp] lemma get?_whenSome {α : Type} {key name : String} (encode : α → Json) (a : Option α) :
    get? key (ofList (whenSome name encode a)) = if name = key then a.map encode else none := by
  cases a with
  | none => simp [whenSome]
  | some a => simp [whenSome]

/-- A part that is written as an object. -/
lemma inverts_object {α : Type} {decode : Decoder α} {members : α → List (String × Json)}
    (back : ∀ a, decode (.obj (Source.ofMembers (ofList (members a))) true) = .ok a) :
    decode.Inverts fun a => object (members a) where
  back a := by
    simp only [object, Source.ofJson]
    exact back a
  present _ := by simp [object]

lemma Logging.inverts : (Logging.decode .memory).Inverts Logging.toJson := by
  refine inverts_object fun l => decodeStructure_written (ordered_ofList _) ?_
  rw [withDefault_written text_inverts (a := l.level) (by simp)]
  rfl

lemma Proxy.inverts : (Proxy.decode .memory).Inverts Proxy.toJson := by
  refine inverts_object fun p => decodeStructure_written (ordered_ofList _) ?_
  rw [withDefault_written bool_inverts (a := p.enabled) (by simp),
    withDefault_written text_inverts (a := p.scheme) (by simp),
    required_written text_inverts (a := p.host) (by simp),
    required_port (p := p.port) (by simp),
    optional_written text_inverts (a := p.username) (by simp),
    optional_written text_inverts (a := p.password) (by simp),
    withDefault_written bool_inverts (a := p.resolvesRemotely) (by simp)]
  have port : UInt16.ofNat p.port.toNat = p.port := UInt16.ofNat_toNat
  exact congrArg (fun port => Except.ok { p with port }) port

lemma Settings.inverts : (Settings.decode .memory).Inverts Settings.toJson := by
  refine inverts_object fun s => decodeStructure_written (ordered_ofList _) ?_
  rw [withDefault_written Logging.inverts (a := s.logging) (by simp),
    optional_written Proxy.inverts (a := s.proxy) (by simp)]
  rfl

/-- A task of a processor is read again. -/
lemma Task.inverts : (Task.decode .memory).Inverts Task.toJson := by
  refine inverts_object fun t => decodeStructure_written (ordered_ofList _) ?_
  rw [required_written text_inverts (a := t.function) (by simp),
    withDefault_written (list_inverts text_inverts) (a := t.inputs) (by simp),
    optional_written text_inverts (a := t.output) (by simp)]
  rfl

/-- A condition is read again, be it a test or a group of them. -/
lemma Condition.inverts : (Condition.decode .memory).Inverts Condition.toJson := by
  refine inverts_object fun c => decodeStructure_written (ordered_ofList _) ?_
  rw [required_written text_inverts (a := c.function) (by simp),
    withDefault_written (list_inverts text_inverts) (a := c.inputs) (by simp)]
  rfl

/-- A processor is read again, with its condition and its tasks. -/
lemma Processor.inverts : (Processor.decode .memory).Inverts Processor.toJson := by
  refine inverts_object fun p => decodeStructure_written (ordered_ofList _) ?_
  rw [withDefault_written (list_inverts Condition.inverts) (a := p.conditions)
      (by simp [Processor.members]),
    withDefault_written (list_inverts Task.inverts) (a := p.pipeline)
      (by simp [Processor.members])]
  rfl

lemma Repetition.inverts : (Repetition.decode .memory).Inverts Repetition.toJson := by
  refine inverts_object fun r => decodeStructure_written (ordered_ofList _) ?_
  rw [withDefault_written text_inverts (a := r.kind) (by simp),
    withDefault_written (list_inverts Condition.inverts) (a := r.stopConditions) (by simp)]
  rfl

/-- A checkpoint is read again, with its scope and its content. -/
lemma Checkpoint.inverts : (Checkpoint.decode .memory).Inverts Checkpoint.toJson := by
  refine inverts_object fun c => decodeStructure_written (ordered_ofList _) ?_
  rw [withDefault_written (list_inverts text_inverts) (a := c.scope) (by simp),
    withDefault_written bindings_inverts (a := c.content) (by simp)]
  rfl

/-! ### Tagged parts -/

/-- The content of credentials is read again, with what is absent written as null. -/
lemma Credentials.content_written (c : Credentials) :
    Credentials.decodeContent .memory (Source.ofJson
      (object [("username", orNull c.username), ("password", orNull c.password)])) = .ok c := by
  simp only [object, Source.ofJson]
  refine decodeStructure_written (ordered_ofList _) ?_
  rw [optional_orNull (s := c.username) (by simp), optional_orNull (s := c.password) (by simp)]
  rfl

/-- The content is written before the tag, so it is kept until the tag is read. -/
lemma Credentials.inverts : (Credentials.decode .memory).Inverts Credentials.toJson := by
  refine inverts_object fun c => ?_
  have order : ofList [("type", Json.str "basic_auth"),
        ("options", object [("username", orNull c.username), ("password", orNull c.password)])]
      = [("options", object [("username", orNull c.username), ("password", orNull c.password)]),
        ("type", Json.str "basic_auth")] := rfl
  have tag : Credentials.checkTag (Source.ofJson (Json.str "basic_auth")) = .ok () := rfl
  rw [order]
  simp only [Source.ofMembers, Credentials.decode, Credentials.ofMembers, nextTagged]
  simp [tag, Credentials.content_written c, keep, noMoreTagged, nextTagged, bind, Except.bind]

lemma Options.inverts : (Options.decode .memory).Inverts Options.toJson := by
  refine inverts_object fun o => decodeStructure_written (ordered_ofList _) ?_
  rw [required_written text_inverts (a := o.url) (by simp),
    withDefault_written text_inverts (a := o.method) (by simp),
    withDefault_written bindings_inverts (a := o.headers) (by simp),
    withDefault_written bindings_inverts (a := o.body) (by simp),
    optional_written Credentials.inverts (a := o.credentials) (by simp)]
  rfl

/-! ### Requests and stages -/

/-- A request loop among the members of a part that has a name, and perhaps a tag. -/
lemma Loop.ofFields_written (l : Loop) {r : Record Json}
    (same : ∀ name, name ≠ "name" → name ≠ "type" → get? name r = get? name (ofList l.members)) :
    Loop.ofFields .memory (.written r) = pure l := by
  have member {name : String} {v? : Option Json} (hn : name ≠ "name") (ht : name ≠ "type")
      (h : get? name (ofList l.members) = v?) : get? name r = v? :=
    (same name hn ht).trans h
  rw [Loop.ofFields,
    required_written Options.inverts (a := l.options)
      (member (by simp) (by simp) (by simp [Loop.members])),
    withDefault_written Processor.inverts (a := l.before)
      (member (by simp) (by simp) (by simp [Loop.members])),
    withDefault_written Processor.inverts (a := l.after)
      (member (by simp) (by simp) (by simp [Loop.members])),
    withDefault_written Repetition.inverts (a := l.repetition)
      (member (by simp) (by simp) (by simp [Loop.members])),
    optional_written Checkpoint.inverts (a := l.checkpoint)
      (member (by simp) (by simp) (by simp [Loop.members]))]
  rfl

/-- A loop writes no name, so that of the request or the stage stands beside its fields. -/
lemma Loop.get?_name (l : Loop) : get? "name" (ofList l.members) = none := by
  simp [Loop.members]

/-- A request is read again, with its name or without one. -/
lemma Request.inverts : (Request.decode .memory).Inverts Request.toJson := by
  refine inverts_object fun r => decodeStructure_written (ordered_ofList _) ?_
  have loop : Loop.ofFields .memory (.written (ofList (whenSome "name" .str r.name
      ++ r.loop.members))) = pure r.loop :=
    Loop.ofFields_written r.loop fun name hn _ => by
      rw [get?_ofList_append, get?_whenSome, if_neg hn.symm, Option.or_none]
  rw [optional_written text_inverts (a := r.name)
      (by rw [get?_ofList_append, Loop.get?_name]; simp), loop]
  rfl

/-- Behind the tag there is no other. -/
lemma Stage.separate_tagged {kind : Stage.Kind} {r : Record Json} (h : get? "type" r = none) :
    Stage.separate .memory true (some kind) (Source.ofMembers r)
      = .ok (kind, Source.ofMembers r) := by
  induction r with
  | nil => rfl
  | cons entry rest ih =>
      obtain ⟨k, v⟩ := entry
      simp only [get?] at h
      split at h
      · cases h
      · rename_i differs
        simp only [Source.ofMembers, Stage.separate, if_neg differs, keep, ih h]
        rfl

/-- **The tag of a stage** is found wherever its name puts it; the other members stay. -/
lemma Stage.separate_written {kind : Stage.Kind} {tag : Json} {r : Record Json} (hr : r.Ordered)
    (h : get? "type" r = some tag) (hk : Stage.Kind.decode (Source.ofJson tag) = .ok kind) :
    Stage.separate .memory true none (Source.ofMembers r)
      = .ok (kind, Source.ofMembers (Record.erase "type" r)) := by
  induction r with
  | nil => cases h
  | cons entry rest ih =>
      obtain ⟨k, v⟩ := entry
      have later : Ordered rest := (List.pairwise_cons.1 hr).2
      by_cases here : k = "type"
      · subst here
        have value : v = tag := by simpa [get?] using h
        subst value
        have once : get? "type" rest = none :=
          Option.eq_none_iff_forall_ne_some.2 fun w hw =>
            hr.not_mem_of_lt w (later.get?_eq_some_iff.1 hw)
        simp only [Source.ofMembers, Stage.separate, hk, Record.erase, if_true,
          Record.erase_of_absent once]
        exact Stage.separate_tagged once
      · have rest_has : get? "type" rest = some tag := by simpa [get?, here] using h
        simp only [Source.ofMembers, Stage.separate, if_neg here, keep, ih later rest_has,
          Record.erase]
        rfl

/-- A stage is decoded from the members without the tag. -/
lemma Stage.decode_written (kind : Stage.Kind) (tag : String) {s : Stage}
    {members : List (String × Json)} (h : get? "type" (ofList members) = some (.str tag))
    (hk : Stage.Kind.decode (.str tag) = .ok kind)
    (hs : ∀ r : Record Json, r.Ordered →
      (∀ name, name ≠ "type" → get? name r = get? name (ofList members)) →
      Stage.decodeKind kind (.obj (Source.ofMembers r) true) = .ok s) :
    Stage.decode .memory (Source.ofJson (object members)) = .ok s := by
  have tagged : Stage.Kind.decode (Source.ofJson (.str tag)) = .ok kind := by
    rw [Source.ofJson, hk]
  have others := hs (Record.erase "type" (ofList members)) ((ordered_ofList members).erase "type")
    fun name hn => by rw [get?_erase, if_neg hn.symm]
  simp only [object, Source.ofJson, Stage.decode,
    Stage.separate_written (ordered_ofList members) h tagged]
  exact others

/-- A stage that sends a request is read again. -/
lemma Stage.http_written (name : String) (loop : Loop) :
    Stage.decode .memory (Source.ofJson (Stage.http name loop).toJson)
      = .ok (.http name loop) := by
  refine Stage.decode_written .http "http" (by simp [Loop.members]) rfl
    fun r hr same => ?_
  have whole : Loop.ofFields .memory (.written r) = pure loop :=
    Loop.ofFields_written loop fun name hn ht => by
      rw [same name ht]
      simp [hn.symm, ht.symm]
  have named : get? "name" r = some (.str name) := by
    rw [same "name" (by simp)]
    simp [Loop.get?_name]
  rw [Stage.decodeKind]
  refine decodeStructure_written hr ?_
  rw [required_written text_inverts named, whole]
  rfl

/-- A stage that splits a text is read again. -/
lemma Stage.split_written (name source : String) (delimiter : Option String) (output : String) :
    Stage.decode .memory (Source.ofJson (Stage.split name source delimiter output).toJson)
      = .ok (.split name source delimiter output) := by
  refine Stage.decode_written .split "split" (by simp) rfl fun r hr same => ?_
  rw [Stage.decodeKind]
  refine decodeStructure_written hr ?_
  rw [required_written text_inverts (a := name) (by rw [same _ (by simp)]; simp),
    required_written text_inverts (a := source) (by rw [same _ (by simp)]; simp),
    optional_written text_inverts (a := delimiter) (by rw [same _ (by simp)]; simp),
    required_written text_inverts (a := output) (by rw [same _ (by simp)]; simp)]
  rfl

/-- A stage that runs a processor is read again. -/
lemma Stage.process_written (name : String) (processor : Processor) :
    Stage.decode .memory (Source.ofJson (Stage.process name processor).toJson)
      = .ok (.process name processor) := by
  refine Stage.decode_written .process "process"
    (by simp [Processor.members]) rfl fun r hr same => ?_
  have conditions : get? "conditions" r
      = some (array Condition.toJson processor.conditions) := by
    rw [same _ (by simp)]
    simp [Processor.members]
  have pipeline : get? "pipeline" r = some (array Task.toJson processor.pipeline) := by
    rw [same _ (by simp)]
    simp [Processor.members]
  rw [Stage.decodeKind]
  refine decodeStructure_written hr ?_
  rw [required_written text_inverts (a := name)
      (by rw [same _ (by simp)]; simp [Processor.members]),
    withDefault_written (list_inverts Condition.inverts) conditions,
    withDefault_written (list_inverts Task.inverts) pipeline]
  rfl

lemma Stage.inverts : (Stage.decode .memory).Inverts Stage.toJson where
  back
    | .http name loop => Stage.http_written name loop
    | .split name source delimiter output => Stage.split_written name source delimiter output
    | .process name processor => Stage.process_written name processor
  present s := by cases s <;> simp [Stage.toJson, object]

/-- A job is read again, with its stages in their order. -/
lemma Job.inverts : (Job.decode .memory).Inverts Job.toJson := by
  refine inverts_object fun j => decodeStructure_written (ordered_ofList _) ?_
  rw [required_written text_inverts (a := j.name) (by simp),
    required_written (list_inverts Stage.inverts) (a := j.stages) (by simp)]
  rfl

/-- A definition is read back from what is written for it. -/
lemma inverts : (decode .memory).Inverts toJson := by
  refine inverts_object fun d => decodeStructure_written (ordered_ofList _) ?_
  rw [withDefault_written Settings.inverts (a := d.settings) (by simp),
    withDefault_written (list_inverts Request.inverts) (a := d.requests) (by simp),
    withDefault_written (list_inverts Job.inverts) (a := d.jobs) (by simp)]
  rfl

/-- **Reading inverts writing**: a definition that is written is read back, whatever is in it.  So a
value that is read at all is read again as the same definition once this was written, and what was
written is stable under reading and writing. -/
theorem ofJson_toJson :
    (∀ d : Definition, ofJson d.toJson = .ok d) ∧
    (∀ v : Json, (ofJson v >>= fun d => ofJson d.toJson) = ofJson v) ∧
    ∀ v : Json, (ofJson v >>= fun d => toJson <$> ofJson d.toJson) = toJson <$> ofJson v := by
  have back (d : Definition) : ofJson d.toJson = .ok d := inverts.back d
  refine ⟨back, fun v => ?_, fun v => ?_⟩
  · cases ofJson v with
    | error e => rfl
    | ok d => exact back d
  · cases ofJson v with
    | error e => rfl
    | ok d =>
        change toJson <$> ofJson d.toJson = toJson <$> .ok d
        rw [back d]

end Definition

end Connector
