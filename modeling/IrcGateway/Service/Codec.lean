import IrcGateway.Json
import IrcGateway.Map.Provider
import IrcGateway.Service.Event

/-!
# Values of the service as JSON

Every value of the service is read from JSON with `ofJson?` and written with `toJson`. Reading
ignores unknown fields, takes a default for an optional field that is left out, and refuses a value
of the wrong type, null included. Writing gives every field.
-/

namespace IrcGateway.Service

def ContactId.ofJson? (j : Json) : Option ContactId := do
  guard (j.isRecord 2)
  let user ← j.required? 0 "user" Json.text?
  let server ← j.required? 1 "server" Json.text?
  return { user := user, server }

def ContactId.toJson (id : ContactId) : Json :=
  .object [("user", .text id.user), ("server", .text id.server)]

def Contact.ofJson? (j : Json) : Option Contact := do
  guard (j.isRecord 4)
  let id ← j.required? 0 "id" ContactId.ofJson?
  let name ← j.withDefault? 1 "name" Json.text? ""
  let pushName ← j.withDefault? 2 "push_name" Json.text? ""
  let formattedName ← j.withDefault? 3 "formatted_name" Json.text? ""
  return { id := id, name, pushName, formattedName }

def Contact.toJson (c : Contact) : Json :=
  .object [("id", c.id.toJson), ("name", .text c.name), ("push_name", .text c.pushName),
    ("formatted_name", .text c.formattedName)]

def Participant.ofJson? (j : Json) : Option Participant := do
  guard (j.isRecord 3)
  let id ← j.required? 0 "id" ContactId.ofJson?
  let contact ← j.required? 1 "contact" Contact.ofJson?
  let isAdmin ← j.withDefault? 2 "is_admin" Json.bool? false
  return { id := id, contact, isAdmin }

def Participant.toJson (p : Participant) : Json :=
  .object [("id", p.id.toJson), ("contact", p.contact.toJson), ("is_admin", .bool p.isAdmin)]

def Account.ofJson? (j : Json) : Option Account := do
  guard (j.isRecord 2)
  let id ← j.required? 0 "self_id" ContactId.ofJson?
  let pushName ← j.required? 1 "push_name" Json.text?
  return { id := id, pushName }

def Account.toJson (a : Account) : Json :=
  .object [("self_id", a.id.toJson), ("push_name", .text a.pushName)]

def Chat.ofJson? (j : Json) : Option Chat := do
  guard (j.isRecord 3)
  let id ← j.required? 0 "id" ContactId.ofJson?
  let name ← j.required? 1 "name" Json.text?
  let isGroup ← j.required? 2 "is_group" Json.bool?
  return { id := id, name, isGroup }

def Chat.toJson (c : Chat) : Json :=
  .object [("id", c.id.toJson), ("name", .text c.name), ("is_group", .bool c.isGroup)]

def Location.ofJson? (j : Json) : Option Location := do
  guard (j.isRecord 2)
  let latitude ← j.required? 0 "latitude" Json.real?
  let longitude ← j.required? 1 "longitude" Json.real?
  return { latitude := latitude, longitude }

def Location.toJson (l : Location) : Json :=
  .object [("latitude", .real l.latitude), ("longitude", .real l.longitude)]

def Media.ofJson? (j : Json) : Option Media := do
  guard (j.isRecord 4)
  let fileHash ← j.required? 0 "file_hash" Json.text?
  let filename ← j.withDefault? 1 "filename" Json.text? ""
  let mimeType ← j.withDefault? 2 "mime_type" Json.text? ""
  let caption ← j.withDefault? 3 "caption" Json.text? ""
  return { fileHash := fileHash, filename, mimeType, caption }

def Media.toJson (m : Media) : Json :=
  .object [("file_hash", .text m.fileHash), ("filename", .text m.filename),
    ("mime_type", .text m.mimeType), ("caption", .text m.caption)]

/-- The sender of an event. In an object it may be left out; a list that reaches this far must give
it. -/
def senderOfJson? (j : Json) : Option (Option Contact) :=
  match j, j.slot? 2 "sender" with
  | .object _, none => some none
  | _, none => none
  | _, some v => v.nullable? Contact.ofJson?

/-- Reads an event with everything it quotes, to any depth. -/
def Event.ofJson? (j : Json) : Option Event := do
  if !j.isRecord 16 then none
  let id ← j.required? 0 "id" Json.text?
  let chat ← j.required? 1 "chat" Chat.ofJson?
  let sender ← senderOfJson? j
  let timestamp ← j.required? 3 "timestamp" Json.int64?
  let isSentByMe ← j.withDefault? 4 "is_sent_by_me" Json.bool? false
  let isSentByMeFromWeb ← j.withDefault? 5 "is_sent_by_me_from_web" Json.bool? false
  let isNotification ← j.withDefault? 6 "is_notification" Json.bool? false
  let kind ← j.withDefault? 7 "type" Json.text? ""
  let subtype ← j.withDefault? 8 "subtype" Json.text? ""
  let recipientIds ← j.withDefault? 9 "recipient_ids" (Json.listOf? ContactId.ofJson?) []
  let origin ← j.withDefault? 10 "from" (Json.nullable? ContactId.ofJson?) none
  let body ← j.withDefault? 11 "body" Json.text? ""
  let mentionedIds ← j.withDefault? 12 "mentioned_ids" (Json.listOf? ContactId.ofJson?) []
  let quoted ←
    match h : j.slot? 13 "quoted_message" with
    | none => some none
    | some .null => some none
    | some v =>
      have := Json.sizeOf_slot?_lt h
      (Event.ofJson? v).map some
  let location ← j.withDefault? 14 "location" (Json.nullable? Location.ofJson?) none
  let media ← j.withDefault? 15 "media" (Json.nullable? Media.ofJson?) none
  return {
    id := id, chat, sender, timestamp, isSentByMe, isSentByMeFromWeb, isNotification, kind
    subtype, recipientIds, origin, body, mentionedIds, quoted, location, media }
termination_by sizeOf j

/-- A value, or null where there is none. -/
def optional {α : Type} (write : α → Json) : Option α → Json
  | none => .null
  | some a => write a

/-- Writes an event with everything it quotes. -/
def Event.toJson : Event → Json
  | ⟨id, chat, sender, timestamp, isSentByMe, isSentByMeFromWeb, isNotification, kind, subtype,
      recipientIds, origin, body, mentionedIds, quoted, location, media⟩ =>
    .object [("id", .text id), ("chat", chat.toJson), ("sender", optional Contact.toJson sender),
      ("timestamp", .int timestamp), ("is_sent_by_me", .bool isSentByMe),
      ("is_sent_by_me_from_web", .bool isSentByMeFromWeb),
      ("is_notification", .bool isNotification), ("type", .text kind),
      ("subtype", .text subtype), ("recipient_ids", .list (recipientIds.map ContactId.toJson)),
      ("from", optional ContactId.toJson origin), ("body", .text body),
      ("mentioned_ids", .list (mentionedIds.map ContactId.toJson)),
      ("quoted_message",
        match quoted with
        | none => .null
        | some q => q.toJson),
      ("location", optional Location.toJson location), ("media", optional Media.toJson media)]

/-- A map provider is given by its name, or by an object whose only field has that name and no
value. -/
def providerOfJson? : Json → Option Map.Provider
  | .text key => Map.Provider.ofKey? key
  | .object [(key, .null)] => Map.Provider.ofKey? key
  | _ => none

end IrcGateway.Service
