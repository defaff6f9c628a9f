import IrcGateway.Proofs.Service.Leniency

/-!
# Events survive JSON

An event that is written and read is the same event (`Event.ofJson?_toJson`). Every field is read as
it was written, and what an event quotes is an event again, so that the proof is by induction on how
deep events quote. Of two kinds of values no such thing is said: a time must have 64 bits, as JSON
has numbers that the gateway refuses, and there must be no place, as not every double is a JSON
number.

`events_survive_json` adds that the reader is lenient: fields that it does not know, and defaults
that are left out, change nothing.
-/

namespace IrcGateway.Json

/-! ### Objects as records -/

variable {α : Type} (fields : List (String × Json)) (index : Nat) (name : String)
  (read : Json → Option α)

@[simp] theorem isRecord_object (width : Nat) : (object fields).isRecord width = true := rfl

@[simp] theorem required?_object :
    (object fields).required? index name read = (fields.lookup name).bind read := rfl

@[simp] theorem withDefault?_object (absent : α) :
    (object fields).withDefault? index name read absent =
      match fields.lookup name with
      | none => some absent
      | some v => read v := rfl

end IrcGateway.Json

namespace IrcGateway.Service

/-! ### Lists and values that may be missing -/

section

variable {α : Type} {read : Json → Option α} {write : α → Json}

theorem listOf?_map (h : ∀ a, read (write a) = some a) (items : List α) :
    Json.listOf? read (.list (items.map write)) = some items := by
  unfold Json.listOf?
  induction items with
  | nil => rfl
  | cons a items ih =>
    simp only at ih
    simp [List.mapM_cons, h, ih]

theorem nullable?_optional (hnull : read .null = none) {value : Option α}
    (h : ∀ a, value = some a → read (write a) = some a) :
    Json.nullable? read (optional write value) = some value := by
  cases value with
  | none => rfl
  | some a =>
    have hread := h a rfl
    unfold optional Json.nullable?
    simp only
    split
    · -- a value is not written as null, which cannot be read
      next hwritten => simp [hwritten, hnull] at hread
    · rw [hread]
      rfl

end

/-! ### Records -/

theorem ContactId.ofJson?_toJson (id : ContactId) : ContactId.ofJson? id.toJson = some id := by
  simp [ofJson?, toJson, List.lookup_cons, Json.text?]

theorem Contact.ofJson?_toJson (p : Contact) : Contact.ofJson? p.toJson = some p := by
  simp [ofJson?, toJson, List.lookup_cons, Json.text?, ContactId.ofJson?_toJson]

theorem Chat.ofJson?_toJson (chat : Chat) : Chat.ofJson? chat.toJson = some chat := by
  simp [ofJson?, toJson, List.lookup_cons, Json.text?, Json.bool?, ContactId.ofJson?_toJson]

theorem Media.ofJson?_toJson (media : Media) : Media.ofJson? media.toJson = some media := by
  simp [ofJson?, toJson, List.lookup_cons, Json.text?]

/-! ### Events -/

namespace Event

/-- Something holds of an event and of all that it quotes, to any depth. -/
inductive Throughout (p : Event → Prop) : Event → Prop where
  | intro {e : Event} (h : p e) (hquoted : ∀ q, e.quoted = some q → Throughout p q) :
      Throughout p e

/-- The event names no place, and its time has 64 bits. -/
structure Plain (e : Event) : Prop where
  location : e.location = none
  timestamp : Text.fitsSigned e.timestamp = true

/-- What an event quotes is written like other values that may be missing. -/
theorem toJson_eq (e : Event) :
    e.toJson = .object
      [("id", .text e.id), ("chat", e.chat.toJson), ("sender", optional Contact.toJson e.sender),
        ("timestamp", .int e.timestamp), ("is_sent_by_me", .bool e.isSentByMe),
        ("is_sent_by_me_from_web", .bool e.isSentByMeFromWeb),
        ("is_notification", .bool e.isNotification), ("type", .text e.kind),
        ("subtype", .text e.subtype),
        ("recipient_ids", .list (e.recipientIds.map ContactId.toJson)),
        ("from", optional ContactId.toJson e.origin), ("body", .text e.body),
        ("mentioned_ids", .list (e.mentionedIds.map ContactId.toJson)),
        ("quoted_message", optional Event.toJson e.quoted),
        ("location", optional Location.toJson e.location),
        ("media", optional Media.toJson e.media)] := by
  obtain ⟨id, chat, sender, timestamp, isSentByMe, isSentByMeFromWeb, isNotification, kind, subtype,
    recipientIds, origin, body, mentionedIds, quoted, location, media⟩ := e
  cases quoted <;> rfl

/-- **An event that is written and read is the same event.** -/
theorem ofJson?_toJson {e : Event} (h : e.Throughout Plain) : Event.ofJson? e.toJson = some e := by
  induction h with
  | @intro e h hquoted ih =>
    have hsender : Json.nullable? Contact.ofJson? (optional Contact.toJson e.sender)
        = some e.sender := nullable?_optional rfl fun p _ => Contact.ofJson?_toJson p
    have horigin : Json.nullable? ContactId.ofJson? (optional ContactId.toJson e.origin)
        = some e.origin := nullable?_optional rfl fun id _ => ContactId.ofJson?_toJson id
    have hmedia : Json.nullable? Media.ofJson? (optional Media.toJson e.media)
        = some e.media := nullable?_optional rfl fun media _ => Media.ofJson?_toJson media
    have hlocation : Json.nullable? Location.ofJson? (optional Location.toJson e.location)
        = some e.location := by
      rw [h.location]
      rfl
    have hquoted : Json.nullable? Event.ofJson? (optional Event.toJson e.quoted)
        = some e.quoted := by
      -- an event is no null, and what it quotes is read by the induction
      refine nullable?_optional ?_ ih
      rw [Event.ofJson?_eq]
      rfl
    have hrecipients := listOf?_map ContactId.ofJson?_toJson e.recipientIds
    have hmentioned := listOf?_map ContactId.ofJson?_toJson e.mentionedIds
    rw [Event.ofJson?_eq, Event.toJson_eq]
    simp only [Json.isRecord_object, Json.required?_object, Json.withDefault?_object,
      senderOfJson?_object, List.lookup_cons_self, List.lookup_cons]
    simp [Json.text?, Json.bool?, Json.int64?, h.timestamp, Chat.ofJson?_toJson, hsender, horigin,
      hmedia, hlocation, hquoted, hrecipients, hmentioned]
    cases e
    rfl

end Event

/-- **Events survive JSON.** Let an event and all that it quotes have a time of 64 bits and no
place. Then the event is read as it was written. And whatever an object is read as, it is read as
the same when fields are added to it that events do not have, or optional fields are left out that
hold their default, or the like is done to values inside it. -/
theorem events_survive_json :
    (∀ e : Event, e.Throughout Event.Plain → Event.ofJson? e.toJson = some e) ∧
      ∀ j j' : Json, Relation.ReflTransGen (Edit (.record .event)) j j' →
        Event.ofJson? j' = Event.ofJson? j :=
  ⟨fun _ => Event.ofJson?_toJson, fun _ _ h => (read_eq_of_edits h).symm⟩

namespace Sample

def bob : Contact where
  id := ⟨"31611111111", "c.us"⟩
  pushName := "Bob"

def family : Chat where
  id := ⟨"1", "g.us"⟩
  name := "Family"
  isGroup := true

def question : Event where
  id := "m1"
  chat := family
  timestamp := -9223372036854775808
  isSentByMe := true
  body := "Shall we?"

def answer : Event where
  id := "m2"
  chat := family
  sender := some bob
  timestamp := 9223372036854775807
  body := "Yes, @31600000000!"
  mentionedIds := [⟨"31600000000", "c.us"⟩]
  quoted := some question

/-- The answer as an older service writes it. -/
def older : Json :=
  .object [("id", .text "m2"), ("chat", family.toJson), ("timestamp", .int 9223372036854775807),
    ("body", .text "Yes!"),
    ("quoted_message", .object [("id", .text "m1"), ("chat", family.toJson), ("timestamp", .int 5),
      ("sender", .null)])]

/-- The same as a newer one writes it, which has a further field and leaves out what is null. -/
def newer : Json :=
  .object [("id", .text "m2"), ("chat", family.toJson), ("timestamp", .int 9223372036854775807),
    ("body", .text "Yes!"),
    ("quoted_message",
      .object [("id", .text "m1"), ("chat", family.toJson), ("timestamp", .int 5)]),
    ("edited", .bool true)]

theorem plain_answer : answer.Throughout Event.Plain := by
  refine .intro ⟨rfl, rfl⟩ ?_
  rintro q ⟨⟩
  exact .intro ⟨rfl, rfl⟩ nofun

/-- Two edits lead from one to the other, one of them in what is quoted. -/
theorem edits_older_newer : Relation.ReflTransGen (Edit (.record .event)) older newer := by
  let quoting : Field := .optional "quoted_message" (.nullable (.record .event)) none
  let sender : Field := .optional "sender" (.nullable (.record .contact)) none
  have hsender : Edit (.record .event)
      (.object [("id", .text "m1"), ("chat", family.toJson), ("timestamp", .int 5),
        ("sender", .null)]) _ :=
    .leaveOut (r := .event) (f := sender) (by simp [Record.fields, sender]) rfl rfl [_, _, _] []
      (by decide)
  have hquoted : Edit (.record .event) older _ :=
    .field (f := quoting) (by simp [Record.fields, quoting]) (.present hsender) [_, _, _, _] []
  have hadd : Edit (.record .event) _ newer := .add (by decide) (.bool true) [_, _, _, _, _] []
  exact (Relation.ReflTransGen.single hquoted).tail hadd

end Sample

theorem answer_survives_json :
    (Sample.answer.Throughout Event.Plain ∧
        Event.ofJson? Sample.answer.toJson = some Sample.answer) ∧
      (Relation.ReflTransGen (Edit (.record .event)) Sample.older Sample.newer ∧
        Event.ofJson? Sample.newer = Event.ofJson? Sample.older) :=
  ⟨⟨Sample.plain_answer, events_survive_json.1 _ Sample.plain_answer⟩,
    Sample.edits_older_newer, events_survive_json.2 _ _ Sample.edits_older_newer⟩

end IrcGateway.Service
