import IrcGateway.Service.Event
import IrcGateway.Text.Case

/-!
# The chats a client knows

A room is what the client's side knows of a chat: its name among channels and nicks, whether the
client was told that it is in it, its members, and the events that were handled. The roster holds
the rooms in the order of their registration; no two of them share a name, whatever the case of its
letters.
-/

namespace IrcGateway.Chat

open IrcGateway.Text IrcGateway.Service

/-- One chat as the client knows it. -/
structure Room where
  id : ContactId
  /-- The name the service shows. -/
  name : String
  /-- The channel of a group, or the nick of a person. -/
  identifier : String
  isGroup : Bool
  /-- Whether the client was told that it is in the channel. -/
  joined : Bool := false
  members : List Participant := []
  /-- The events handled, latest first. -/
  seen : List String := []
  deriving DecidableEq, Repr, Inhabited

namespace Room

/-- The name a chat asks for; a group becomes a channel. -/
def baseName (chat : Service.Chat) : String :=
  (if chat.isGroup then "#" else "") ++ safeName chat.name chat.id.user

/-- The room of a chat that was just met. -/
def ofChat (chat : Service.Chat) (members : List Participant) : Room :=
  { id := chat.id
    name := chat.name
    identifier := baseName chat
    isGroup := chat.isGroup
    members }

def hasSeen (r : Room) (event : String) : Bool :=
  r.seen.contains event

/-- Remembers an event as handled. -/
def see (r : Room) (event : String) : Room :=
  if r.hasSeen event then r else { r with seen := event :: r.seen }

/-- The member with this identifier. -/
def member? (r : Room) (id : ContactId) : Option Participant :=
  r.members.find? (fun p => p.id == id)

end Room

/-- The rooms of one client, in the order of registration. -/
structure Roster where
  rooms : List Room := []
  deriving DecidableEq, Repr, Inhabited

namespace Roster

/-- The room of a chat. -/
def byId? (r : Roster) (id : ContactId) : Option Room :=
  r.rooms.find? (fun room => room.id == id)

/-- The room of this name, whatever the case of its letters. -/
def byName? (r : Roster) (name : String) : Option Room :=
  r.rooms.find? (fun room => sameName room.identifier name)

/-- Whether a room has this name. -/
def isTaken (r : Roster) (name : String) : Bool :=
  r.rooms.any (fun room => sameName room.identifier name)

/-- A name with a number after it. -/
def numbered (base : String) (k : Nat) : String :=
  base ++ "_" ++ String.ofList (Nat.toDigits 10 k)

/-- The first free one of the names `base_k`, `base_(k+1)`, …, trying at most `tries` of them. -/
def firstNumbered (r : Roster) (base : String) (tries k : Nat) : String :=
  match tries with
  | 0 => numbered base k
  | tries + 1 =>
    if r.isTaken (numbered base k) then firstNumbered r base tries (k + 1) else numbered base k

/-- The name a new room gets: the one it asks for, or else that with the least number from 2 on that
makes it free. One of as many numbers as there are rooms always does. -/
def freeName (r : Roster) (base : String) : String :=
  if r.isTaken base then r.firstNumbered base r.rooms.length 2 else base

/-- Registers a room, under a free name. A chat that is known keeps the room it has. -/
def insert (r : Roster) (room : Room) : Roster :=
  match r.byId? room.id with
  | some _ => r
  | none => ⟨r.rooms ++ [{ room with identifier := r.freeName room.identifier }]⟩

/-- Changes the room of a chat, if there is one. -/
def update (r : Roster) (id : ContactId) (change : Room → Room) : Roster :=
  ⟨r.rooms.map (fun room => if room.id = id then change room else room)⟩

/-- Whether an event of a chat was handled. -/
def hasSeen (r : Roster) (id : ContactId) (event : String) : Bool :=
  (r.byId? id).any (fun room => room.hasSeen event)

end Roster

end IrcGateway.Chat
