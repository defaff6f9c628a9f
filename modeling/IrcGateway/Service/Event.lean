import IrcGateway.Service.Contact
import IrcGateway.Time.Stamp

/-!
# Events of the messaging service

What the service delivers for a chat: a message or a notification, in one record whose unused fields
are empty.
-/

namespace IrcGateway.Service

/-- A chat, as an event refers to it. -/
structure Chat where
  id : ContactId
  /-- The subject of a group, or the name of the other person. -/
  name : String
  isGroup : Bool
  deriving DecidableEq, Repr, Inhabited

/-- A place on earth. -/
structure Location where
  latitude : Float
  longitude : Float
  deriving Repr, Inhabited

/-- A file sent along with a message. -/
structure Media where
  /-- The hash of the content, the same whenever the file is delivered again. -/
  fileHash : String
  filename : String := ""
  mimeType : String := ""
  caption : String := ""
  deriving DecidableEq, Repr, Inhabited

/-- A message or a notification of a chat. -/
structure Event where
  /-- Unique within the chat. -/
  id : String
  chat : Chat
  sender : Option Contact := none
  /-- Unix seconds. -/
  timestamp : Int
  isSentByMe : Bool := false
  /-- The account sent it with another client of the service. -/
  isSentByMeFromWeb : Bool := false
  isNotification : Bool := false
  kind : String := ""
  subtype : String := ""
  recipientIds : List ContactId := []
  /-- Who acted, where no sender is attached. -/
  origin : Option ContactId := none
  body : String := ""
  mentionedIds : List ContactId := []
  quoted : Option Event := none
  location : Option Location := none
  media : Option Media := none
  deriving Repr, Inhabited

namespace Event

/-- The stamp of the lines that relay the event. -/
def stamp (e : Event) : Time.Stamp :=
  Time.Stamp.ofSeconds e.timestamp

/-- Whether a file comes with the event. -/
def hasMedia (e : Event) : Bool :=
  e.media.isSome

end Event

end IrcGateway.Service
