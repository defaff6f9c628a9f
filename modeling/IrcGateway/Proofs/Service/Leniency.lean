import IrcGateway.Service.Codec
import Mathlib.Data.List.Nodup
import Mathlib.Data.Option.Basic
import Mathlib.Logic.Relation

/-!
# What may differ in JSON

Who writes the service's values may know more fields than the gateway does, and may leave out an
optional field that holds its default. `Edit` is one such change, to a value or anywhere inside it,
and `read_eq_of_edits` says that no number of them changes what is read.

An edit is made at one level, and the records around it only hold it in one of their fields. At
every level the same is therefore to be shown: the two records agree field by field
(`Record.Alike`), where to agree is to hold values that read alike, or a default in place of nothing
(`Field.Agree`). What a record is read as depends on no more than that (`Record.read_congr`).
-/

namespace IrcGateway.Service

/-! ### Shapes -/

/-- The records of the service. -/
inductive Record where
  | contactId
  | contact
  | participant
  | account
  | chat
  | location
  | media
  | event
  deriving DecidableEq, Repr

/-- How a value of the service is built. -/
inductive Shape where
  | text
  | bool
  | int
  | real
  | list (item : Shape)
  | nullable (value : Shape)
  | record (r : Record)
  deriving DecidableEq, Repr

/-- What a record stands for. -/
abbrev Record.Value : Record → Type
  | contactId => ContactId
  | contact => Contact
  | participant => Participant
  | account => Account
  | chat => Chat
  | location => Location
  | media => Media
  | event => Event

/-- Reads a record. -/
def Record.read : (r : Record) → Json → Option r.Value
  | contactId => ContactId.ofJson?
  | contact => Contact.ofJson?
  | participant => Participant.ofJson?
  | account => Account.ofJson?
  | chat => Chat.ofJson?
  | location => Location.ofJson?
  | media => Media.ofJson?
  | event => Event.ofJson?

/-- What a value of a shape stands for. -/
abbrev Shape.Value : Shape → Type
  | text => String
  | bool => Bool
  | int => Int
  | real => Float
  | list item => List item.Value
  | nullable value => Option value.Value
  | record r => r.Value

/-- Reads a value of a shape. -/
def Shape.read : (s : Shape) → Json → Option s.Value
  | text => Json.text?
  | bool => Json.bool?
  | int => Json.int64?
  | real => Json.real?
  | list item => Json.listOf? item.read
  | nullable value => Json.nullable? value.read
  | record r => r.read

/-- A field of a record. -/
structure Field where
  name : String
  shape : Shape
  /-- What the field stands for where it is left out; `none` if it must be there. -/
  absent : Option shape.Value

namespace Field

def required (name : String) (shape : Shape) : Field :=
  ⟨name, shape, none⟩

def optional (name : String) (shape : Shape) (absent : shape.Value) : Field :=
  ⟨name, shape, some absent⟩

end Field

/-- The fields of a record, in their order. -/
def Record.fields : Record → List Field
  | contactId => [.required "user" .text, .required "server" .text]
  | contact =>
    [.required "id" (.record .contactId), .optional "name" .text "",
      .optional "push_name" .text "", .optional "formatted_name" .text ""]
  | participant =>
    [.required "id" (.record .contactId), .required "contact" (.record .contact),
      .optional "is_admin" .bool false]
  | account => [.required "self_id" (.record .contactId), .required "push_name" .text]
  | chat =>
    [.required "id" (.record .contactId), .required "name" .text, .required "is_group" .bool]
  | location => [.required "latitude" .real, .required "longitude" .real]
  | media =>
    [.required "file_hash" .text, .optional "filename" .text "", .optional "mime_type" .text "",
      .optional "caption" .text ""]
  | event =>
    [.required "id" .text, .required "chat" (.record .chat),
      .optional "sender" (.nullable (.record .contact)) none, .required "timestamp" .int,
      .optional "is_sent_by_me" .bool false, .optional "is_sent_by_me_from_web" .bool false,
      .optional "is_notification" .bool false, .optional "type" .text "",
      .optional "subtype" .text "", .optional "recipient_ids" (.list (.record .contactId)) [],
      .optional "from" (.nullable (.record .contactId)) none, .optional "body" .text "",
      .optional "mentioned_ids" (.list (.record .contactId)) [],
      .optional "quoted_message" (.nullable (.record .event)) none,
      .optional "location" (.nullable (.record .location)) none,
      .optional "media" (.nullable (.record .media)) none]

/-- A record has no two fields of one name. -/
theorem Record.nodup_names (r : Record) : (r.fields.map Field.name).Nodup := by
  cases r <;> decide

theorem Record.eq_of_name_eq {r : Record} {f g : Field} (hf : f ∈ r.fields) (hg : g ∈ r.fields)
    (h : f.name = g.name) : f = g :=
  List.inj_on_of_nodup_map r.nodup_names hf hg h

/-! ### Edits -/

/-- A change to a value that makes no difference, or to one of the values in it. -/
inductive Edit : Shape → Json → Json → Prop where
  /-- An object is given a field that its record does not have. -/
  | add {r : Record} {name : String} (hname : ∀ f ∈ r.fields, f.name ≠ name) (value : Json)
      (before after : List (String × Json)) :
      Edit (.record r) (.object (before ++ after)) (.object (before ++ (name, value) :: after))
  /-- A field that holds its default is left out. -/
  | leaveOut {r : Record} {f : Field} {value : Json} {absent : f.shape.Value} (hf : f ∈ r.fields)
      (habsent : f.absent = some absent) (hvalue : f.shape.read value = some absent)
      (before after : List (String × Json)) (honce : ∀ p ∈ before ++ after, p.1 ≠ f.name) :
      Edit (.record r) (.object (before ++ (f.name, value) :: after)) (.object (before ++ after))
  /-- The value of a field is changed. -/
  | field {r : Record} {f : Field} {value value' : Json} (hf : f ∈ r.fields)
      (h : Edit f.shape value value') (before after : List (String × Json)) :
      Edit (.record r) (.object (before ++ (f.name, value) :: after))
        (.object (before ++ (f.name, value') :: after))
  /-- The value of a field is changed where a list gives the fields in their order. -/
  | place {r : Record} {f : Field} {value value' : Json} {before : List Json}
      (hf : r.fields[before.length]? = some f) (h : Edit f.shape value value') (after : List Json) :
      Edit (.record r) (.list (before ++ value :: after)) (.list (before ++ value' :: after))
  /-- An item of a list is changed. -/
  | item {s : Shape} {value value' : Json} (h : Edit s value value') (before after : List Json) :
      Edit (.list s) (.list (before ++ value :: after)) (.list (before ++ value' :: after))
  /-- A value that might be null is changed. -/
  | present {s : Shape} {value value' : Json} (h : Edit s value value') :
      Edit (.nullable s) value value'

/-! ### Records that agree field by field -/

/-- What stands in a field of one record and of another is read alike. -/
inductive Field.Agree (f : Field) : Option Json → Option Json → Prop where
  | same (slot : Option Json) : Agree f slot slot
  | read {value value' : Json} (h : f.shape.read value = f.shape.read value') :
      Agree f (some value) (some value')
  | leftOut {value : Json} {absent : f.shape.Value} (habsent : f.absent = some absent)
      (hvalue : f.shape.read value = some absent) : Agree f (some value) none

/-- A field that must be there is read alike, and so is every field where both records have it. -/
theorem Field.Agree.bind_eq {f : Field} {slot slot' : Option Json} (h : f.Agree slot slot')
    (hhave : f.absent = none ∨ slot'.isSome = slot.isSome) :
    slot.bind f.shape.read = slot'.bind f.shape.read := by
  cases h with
  | same => rfl
  | read hread => exact hread
  | leftOut habsent hvalue => simp [habsent] at hhave

/-- Both are objects, or lists of one length. -/
inductive SameForm : Json → Json → Prop where
  | objects (fields fields' : List (String × Json)) : SameForm (.object fields) (.object fields')
  | lists {items items' : List Json} (h : items.length = items'.length) :
      SameForm (.list items) (.list items')

/-- Two records that agree in every field. -/
structure Record.Alike (r : Record) (j j' : Json) : Prop where
  form : SameForm j j'
  agree : ∀ (i : Nat) (f : Field), r.fields[i]? = some f →
    f.Agree (j.slot? i f.name) (j'.slot? i f.name)

theorem SameForm.isRecord_eq {j j' : Json} (h : SameForm j j') (width : Nat) :
    j.isRecord width = j'.isRecord width := by
  cases h with
  | objects fields fields' => rfl
  | lists h => simp only [Json.isRecord, h]

namespace Record.Alike

variable {r : Record} {j j' : Json} (h : r.Alike j j') {i : Nat} {name : String} {s : Shape}

include h

theorem required?_eq (hf : r.fields[i]? = some (.required name s)) :
    j.required? i name s.read = j'.required? i name s.read :=
  (h.agree i _ hf).bind_eq (.inl rfl)

theorem withDefault?_eq {absent : s.Value} (hf : r.fields[i]? = some (.optional name s absent)) :
    j.withDefault? i name s.read absent = j'.withDefault? i name s.read absent := by
  have hagree : (Field.optional name s absent).Agree (j.slot? i name) (j'.slot? i name) :=
    h.agree i _ hf
  unfold Json.withDefault?
  generalize j.slot? i name = slot at hagree ⊢
  generalize j'.slot? i name = slot' at hagree ⊢
  cases hagree with
  | same => rfl
  | read hread => exact hread
  | leftOut habsent hvalue =>
    obtain rfl := Option.some.inj habsent
    exact hvalue

end Record.Alike

/-! ### Reading records that agree -/

/-- The sender is optional in an object, and has its place in a list. -/
theorem senderOfJson?_object (fields : List (String × Json)) :
    senderOfJson? (.object fields) =
      (Json.object fields).withDefault? 2 "sender" (Json.nullable? Contact.ofJson?) none := by
  unfold senderOfJson? Json.withDefault?
  cases (Json.object fields).slot? 2 "sender" <;> rfl

theorem senderOfJson?_list (items : List Json) :
    senderOfJson? (.list items) =
      (Json.list items).required? 2 "sender" (Json.nullable? Contact.ofJson?) := by
  unfold senderOfJson? Json.required?
  cases (Json.list items).slot? 2 "sender" <;> rfl

/-- What an event quotes is a field like others. -/
theorem Event.ofJson?_eq (j : Json) : Event.ofJson? j = (do
    guard (j.isRecord 16)
    let id ← j.required? 0 "id" Json.text?
    let chat ← j.required? 1 "chat" Chat.ofJson?
    let sender ← senderOfJson? j
    let timestamp ← j.required? 3 "timestamp" Json.int64?
    let isSentByMe ← j.withDefault? 4 "is_sent_by_me" Json.bool? false
    let isSentByMeFromWeb ← j.withDefault? 5 "is_sent_by_me_from_web" Json.bool? false
    let isNotification ← j.withDefault? 6 "is_notification" Json.bool? false
    let kind ← j.withDefault? 7 "type" Json.text? ""
    let subtype ← j.withDefault? 8 "subtype" Json.text? ""
    let recipientIds ← j.withDefault? 9 "recipient_ids" (Json.listOf? ContactId.ofJson?) []
    let origin ← j.withDefault? 10 "from" (Json.nullable? ContactId.ofJson?) none
    let body ← j.withDefault? 11 "body" Json.text? ""
    let mentionedIds ← j.withDefault? 12 "mentioned_ids" (Json.listOf? ContactId.ofJson?) []
    let quoted ← j.withDefault? 13 "quoted_message" (Json.nullable? Event.ofJson?) none
    let location ← j.withDefault? 14 "location" (Json.nullable? Location.ofJson?) none
    let media ← j.withDefault? 15 "media" (Json.nullable? Media.ofJson?) none
    return {
      id := id, chat, sender, timestamp, isSentByMe, isSentByMeFromWeb, isNotification, kind
      subtype, recipientIds, origin, body, mentionedIds, quoted, location, media }) := by
  have hrefused (rest : Unit → Option Event) : (guard (false = true) >>= rest) = none := rfl
  have hpassed (rest : Unit → Option Event) : (guard (true = true) >>= rest) = rest () := rfl
  rw [Event.ofJson?]
  cases j.isRecord 16 with
  | false =>
    rw [Bool.not_false, if_pos rfl, hrefused]
    rfl
  | true =>
    rw [Bool.not_true, if_neg Bool.false_ne_true, hpassed]
    dsimp only
    -- nothing differs before the quoted event
    iterate 13
      apply bind_congr
      intro
    unfold Json.withDefault?
    split
    · next h => simp only [h]
    · next h => simp only [h, Json.nullable?]
    · next v hv h =>
      have hread : Json.nullable? Event.ofJson? v = (Event.ofJson? v).map some := by
        unfold Json.nullable?
        split
        · simp at hv
        · rfl
      simp only [h, hread]

namespace Record.Alike

variable {j j' : Json}

theorem sender_eq (h : Record.event.Alike j j') : senderOfJson? j = senderOfJson? j' := by
  cases h.form with
  | objects fields fields' =>
    rw [senderOfJson?_object, senderOfJson?_object]
    exact h.withDefault?_eq (i := 2) rfl
  | @lists items items' hlength =>
    rw [senderOfJson?_list, senderOfJson?_list]
    refine (h.agree 2 _ rfl).bind_eq (.inr ?_)
    rw [Bool.eq_iff_iff, Option.isSome_iff_ne_none, Option.isSome_iff_ne_none]
    simp [Json.slot?, hlength]

theorem read_eq {r : Record} (h : r.Alike j j') : r.read j = r.read j' := by
  have hrecord := h.form.isRecord_eq
  -- A record is read field by field, by place in the table: a field is required or has a default,
  -- and of two forms that agree on it neither way of reading sees a difference.
  cases r with
  | contactId =>
    have huser := h.required?_eq (i := 0) rfl
    have hserver := h.required?_eq (i := 1) rfl
    simp only [Record.read, Shape.read, ContactId.ofJson?, hrecord] at huser hserver ⊢
    rw [huser, hserver]
  | contact =>
    have hid := h.required?_eq (i := 0) rfl
    have hname := h.withDefault?_eq (i := 1) rfl
    have hpush := h.withDefault?_eq (i := 2) rfl
    have hformatted := h.withDefault?_eq (i := 3) rfl
    simp only [Record.read, Shape.read, Contact.ofJson?, hrecord] at hid hname hpush hformatted ⊢
    rw [hid, hname, hpush, hformatted]
  | participant =>
    have hid := h.required?_eq (i := 0) rfl
    have hcontact := h.required?_eq (i := 1) rfl
    have hadmin := h.withDefault?_eq (i := 2) rfl
    simp only [Record.read, Shape.read, Participant.ofJson?, hrecord] at hid hcontact hadmin ⊢
    rw [hid, hcontact, hadmin]
  | account =>
    have hid := h.required?_eq (i := 0) rfl
    have hpush := h.required?_eq (i := 1) rfl
    simp only [Record.read, Shape.read, Account.ofJson?, hrecord] at hid hpush ⊢
    rw [hid, hpush]
  | chat =>
    have hid := h.required?_eq (i := 0) rfl
    have hname := h.required?_eq (i := 1) rfl
    have hgroup := h.required?_eq (i := 2) rfl
    simp only [Record.read, Shape.read, Chat.ofJson?, hrecord] at hid hname hgroup ⊢
    rw [hid, hname, hgroup]
  | location =>
    have hlatitude := h.required?_eq (i := 0) rfl
    have hlongitude := h.required?_eq (i := 1) rfl
    simp only [Record.read, Shape.read, Location.ofJson?, hrecord] at hlatitude hlongitude ⊢
    rw [hlatitude, hlongitude]
  | media =>
    have hhash := h.required?_eq (i := 0) rfl
    have hfilename := h.withDefault?_eq (i := 1) rfl
    have htype := h.withDefault?_eq (i := 2) rfl
    have hcaption := h.withDefault?_eq (i := 3) rfl
    simp only [Record.read, Shape.read, Media.ofJson?, hrecord] at hhash hfilename htype hcaption ⊢
    rw [hhash, hfilename, htype, hcaption]
  | event =>
    have hid := h.required?_eq (i := 0) rfl
    have hchat := h.required?_eq (i := 1) rfl
    -- the sender may be left out of an object, but not of a list
    have hsender := h.sender_eq
    have htimestamp := h.required?_eq (i := 3) rfl
    have hme := h.withDefault?_eq (i := 4) rfl
    have hweb := h.withDefault?_eq (i := 5) rfl
    have hnotification := h.withDefault?_eq (i := 6) rfl
    have hkind := h.withDefault?_eq (i := 7) rfl
    have hsubtype := h.withDefault?_eq (i := 8) rfl
    have hrecipients := h.withDefault?_eq (i := 9) rfl
    have horigin := h.withDefault?_eq (i := 10) rfl
    have hbody := h.withDefault?_eq (i := 11) rfl
    have hmentioned := h.withDefault?_eq (i := 12) rfl
    have hquoted := h.withDefault?_eq (i := 13) rfl
    have hlocation := h.withDefault?_eq (i := 14) rfl
    have hmedia := h.withDefault?_eq (i := 15) rfl
    simp only [Shape.read, Record.read] at *
    rw [Event.ofJson?_eq, Event.ofJson?_eq]
    simp only [hrecord, hid, hchat, hsender, htimestamp, hme, hweb, hnotification, hkind, hsubtype,
      hrecipients, horigin, hbody, hmentioned, hquoted, hlocation, hmedia]

end Record.Alike

/-! ### Edits make no difference -/

/-- A field is looked up as if another were not there. -/
theorem lookup_append_cons_of_ne {before after : List (String × Json)} {name other : String}
    {value : Json} (h : other ≠ name) :
    (before ++ (name, value) :: after).lookup other = (before ++ after).lookup other := by
  rw [List.lookup_append, List.lookup_append, List.lookup_cons, beq_false_of_ne h]

/-- A null is not edited. -/
theorem Edit.ne_null {s : Shape} {j j' : Json} (h : Edit s j j') : j ≠ .null ∧ j' ≠ .null := by
  induction h with
  | present h ih => exact ih
  | _ => simp

variable {r : Record} {f : Field}

theorem alike_add {name : String} (hname : ∀ f ∈ r.fields, f.name ≠ name) (value : Json)
    (before after : List (String × Json)) :
    r.Alike (.object (before ++ after)) (.object (before ++ (name, value) :: after)) := by
  refine ⟨.objects _ _, fun i g hg => ?_⟩
  simp only [Json.slot?]
  rw [lookup_append_cons_of_ne (hname g (List.mem_of_getElem? hg))]
  exact .same _

theorem alike_leaveOut {value : Json} {absent : f.shape.Value} (hf : f ∈ r.fields)
    (habsent : f.absent = some absent) (hvalue : f.shape.read value = some absent)
    {before after : List (String × Json)} (honce : ∀ p ∈ before ++ after, p.1 ≠ f.name) :
    r.Alike (.object (before ++ (f.name, value) :: after)) (.object (before ++ after)) := by
  refine ⟨.objects _ _, fun i g hg => ?_⟩
  simp only [Json.slot?]
  by_cases hname : g.name = f.name
  · -- it is the field that was left out
    obtain rfl := Record.eq_of_name_eq (List.mem_of_getElem? hg) hf hname
    have hnone : ∀ fields : List (String × Json), (∀ p ∈ fields, p ∈ before ++ after) →
        fields.lookup g.name = none := by
      intro fields hsub
      rw [List.lookup_eq_none_iff]
      intro p hp
      simpa using (honce p (hsub p hp)).symm
    rw [hnone _ fun p hp => hp, List.lookup_append,
      hnone before fun p hp => List.mem_append_left _ hp, Option.none_or, List.lookup_cons_self]
    exact .leftOut habsent hvalue
  · rw [lookup_append_cons_of_ne hname]
    exact .same _

theorem alike_field {value value' : Json} (hf : f ∈ r.fields)
    (h : f.shape.read value = f.shape.read value') (before after : List (String × Json)) :
    r.Alike (.object (before ++ (f.name, value) :: after))
      (.object (before ++ (f.name, value') :: after)) := by
  refine ⟨.objects _ _, fun i g hg => ?_⟩
  simp only [Json.slot?]
  by_cases hname : g.name = f.name
  · obtain rfl := Record.eq_of_name_eq (List.mem_of_getElem? hg) hf hname
    rw [List.lookup_append, List.lookup_append, List.lookup_cons_self, List.lookup_cons_self]
    -- what stands before may have the field too, and is looked up first
    cases before.lookup g.name with
    | some earlier => exact .same _
    | none => exact .read h
  · rw [lookup_append_cons_of_ne hname, lookup_append_cons_of_ne hname]
    exact .same _

theorem alike_place {value value' : Json} {before : List Json}
    (hf : r.fields[before.length]? = some f) (h : f.shape.read value = f.shape.read value')
    (after : List Json) :
    r.Alike (.list (before ++ value :: after)) (.list (before ++ value' :: after)) := by
  refine ⟨.lists (by simp), fun i g hg => ?_⟩
  simp only [Json.slot?]
  by_cases hi : i = before.length
  · subst hi
    obtain rfl : f = g := Option.some.inj (hf.symm.trans hg)
    simpa using Field.Agree.read h
  · have hsame : (before ++ value :: after)[i]? = (before ++ value' :: after)[i]? := by
      simp only [List.getElem?_append, List.getElem?_cons]
      split
      · rfl
      · rw [if_neg (by omega), if_neg (by omega)]
    rw [hsame]
    exact .same _

/-- **An edit makes no difference to what is read.** -/
theorem Edit.read_eq {s : Shape} {j j' : Json} (h : Edit s j j') : s.read j = s.read j' := by
  induction h with
  | add hname value before after => exact (alike_add hname value before after).read_eq
  | leaveOut hf habsent hvalue before after honce =>
    exact (alike_leaveOut hf habsent hvalue honce).read_eq
  | field hf h before after ih => exact (alike_field hf ih before after).read_eq
  | place hf h after ih => exact (alike_place hf ih after).read_eq
  | @item s value value' h before after ih =>
    simp only [Shape.read, Json.listOf?, List.mapM_append, List.mapM_cons, ih]
  | @present s value value' h ih =>
    obtain ⟨hnull, hnull'⟩ := h.ne_null
    -- what is no null is read as if null were not allowed
    have hread : ∀ v, v ≠ .null → Json.nullable? s.read v = (s.read v).map some := by
      intro v hv
      unfold Json.nullable?
      split
      · exact absurd rfl hv
      · rfl
    simp only [Shape.read]
    rw [hread value hnull, hread value' hnull', ih]

theorem read_eq_of_edits {s : Shape} {j j' : Json} (h : Relation.ReflTransGen (Edit s) j j') :
    s.read j = s.read j' := by
  induction h with
  | refl => rfl
  | tail _ hlast ih => exact ih.trans hlast.read_eq

end IrcGateway.Service
