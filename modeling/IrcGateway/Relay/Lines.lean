import IrcGateway.Chat.Rendering
import IrcGateway.Chat.Roster
import IrcGateway.Protocol.Line
import IrcGateway.Service.Notification

/-!
# Lines for an event

Which lines a client is sent for an event of the service: the burst that brings it into a channel,
the text of a message with what it quotes, and the news of a notification, recipient by recipient.
-/

namespace IrcGateway.Relay

open IrcGateway.Protocol IrcGateway.Service IrcGateway.Chat IrcGateway.Time

/-- A line with the stamp it is to be written with. -/
structure Dated where
  stamp : Stamp
  line : String
  deriving DecidableEq, Repr

/-- The nick of a person as it is seen in a room: the name of a member, else the name of the direct
chat with the person, else the user part of the identifier. -/
def personName (roster : Roster) (room : Room) (id : ContactId) : String :=
  match room.member? id with
  | some member => member.safeName
  | none =>
    match roster.byId? id with
    | some direct => if direct.isGroup then id.user else direct.identifier
    | none => id.user

/-! ### Joining -/

/-- The nicks in a channel as the client is told them: operators are marked, the client goes by its
own nick, and comes first if the service does not list it. -/
def memberNicks (nick : String) (account : Account) (room : Room) : List String :=
  (if (room.member? account.id).isNone then [nick] else []) ++
    room.members.map fun p =>
      (if p.isAdmin then "@" else "") ++ (if p.id = account.id then nick else p.safeName)

/-- What brings a client into a channel. -/
def joinLines (nick : String) (account : Account) (room : Room) : List Dated :=
  [Line.join nick room.identifier, Line.topic nick room.identifier room.name,
    Line.names nick room.identifier (memberNicks nick account room),
    Line.endOfNames nick room.identifier].map fun l => ⟨.clock, l.text⟩

/-! ### Messages -/

/-- The nick a message comes from. -/
def speaker (nick : String) (roster : Roster) (room : Room) (e : Event) : String :=
  if e.isSentByMe then nick
  else
    match e.sender, e.origin with
    | some sender, _ => sender.safeName
    | none, some id => personName roster room id
    | none, none => room.identifier

/-- The target of a message: the channel or the other person for what the account sent and for
groups, and otherwise the client. -/
def target (nick : String) (room : Room) (e : Event) : String :=
  if room.isGroup || e.isSentByMe then room.identifier else nick

/-- What a quoted line begins with. -/
def quoteMark : String := "> "

/-- A text as private messages, line by line. -/
def textMessages (stamp : Stamp) (sender target text : String) (mark : String) : List Dated :=
  (textLines text).map fun line => ⟨stamp, (Line.privmsg sender target (mark ++ line)).text⟩

/-- The lines of a message, where `render` gives the text of an event: first what it quotes, then
its own text. -/
def messageLines (render : Event → String) (nick : String) (roster : Roster) (room : Room)
    (e : Event) : List Dated :=
  let sender := speaker nick roster room e
  let target := target nick room e
  (match e.quoted with
    | some q => textMessages e.stamp sender target (render q) quoteMark
    | none => [])
    ++ textMessages e.stamp sender target (render e) ""

/-! ### Notifications -/

/-- What is shown of a missed call. -/
def missedCall : String := "-- missed call --"

/-- What a notification says of one recipient: a line, if any, and whether the client leaves. -/
structure News where
  line : Option Dated
  leaves : Bool
  deriving DecidableEq, Repr

/-- Who caused a notification: the sender if one is attached, else the acting user. -/
def actor? (e : Event) : Option ContactId :=
  match e.sender with
  | some sender => some sender.id
  | none => e.origin

/-- The nick of who caused a notification; without anybody it is the server. -/
def author (nick : String) (account : Account) (roster : Roster) (room : Room) (e : Event) :
    String :=
  match actor? e with
  | some id => if id = account.id then nick else personName roster room id
  | none => serverName

/-- What a change says of one recipient. -/
def newsOf (nick : String) (account : Account) (roster : Roster) (room : Room) (e : Event)
    (change : Change) (recipient : ContactId) : News :=
  let own := recipient = account.id
  let name := if own then nick else personName roster room recipient
  let author := author nick account roster room e
  let line : Option Line :=
    match change with
    | .add => if own then none else some (.join name room.identifier)
    | .leave => some (.part name room.identifier)
    | .remove => some (.kick author room.identifier name)
    | .miss => some (.privmsg author room.identifier missedCall)
    | .create => none
    | .unknown _ => none
  { line := line.map fun l => ⟨e.stamp, l.text⟩, leaves := own && change.removes }

/-- The news of a notification, in the order of its recipients. -/
def news (nick : String) (account : Account) (roster : Roster) (room : Room) (e : Event) :
    List News :=
  e.recipientIds.map (newsOf nick account roster room e (Change.ofSubtype e.subtype))

end IrcGateway.Relay
