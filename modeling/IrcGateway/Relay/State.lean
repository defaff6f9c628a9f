import IrcGateway.Activity.Tracker
import IrcGateway.Media.Kind
import IrcGateway.Media.Store
import IrcGateway.Relay.Lines
import IrcGateway.Service.Client
import IrcGateway.Session

/-!
# Relaying events

The relay of one client turns the events of the service into lines, one event at a time. It
registers a chat with its members when it first hears of it, brings the client into a channel before
anything is said there, and handles each event of a chat once. Output has a fixed order: the join
burst, the quoted text, the text.

`handle` gives the new state together with everything that was done on the way, and stops at the
first line that cannot be written. An event whose members could not be asked for leaves no trace and
may come again; any other event counts as handled, whatever became of it.
-/

namespace IrcGateway.Relay

open IrcGateway.Activity IrcGateway.Chat IrcGateway.Media IrcGateway.Service

/-- Why an event was not relayed. -/
inductive RelayError where
  | service (fault : Fault)
  | store (error : StoreError)
  | write (error : WriteError)
  /-- The event is a notification of a kind that cannot be shown. -/
  | unknownKind (kind : String)
  /-- The client could not be brought into the channel. -/
  | join (channel : String) (error : WriteError)
  deriving DecidableEq, Repr

/-- The wording of an error; a store that failed has none of its own. -/
def RelayError.message : RelayError → String
  | .service fault => fault.message
  | .store (.invalidHash hash) => invalidHashMessage hash
  | .store .storage => ""
  | .write error => "failed to write to IRC client: " ++ error.message
  | .unknownKind kind => "no idea what to do with notification type " ++ kind
  | .join channel error => "failed to join " ++ channel ++ ": " ++ error.message

/-- What the relay of one client remembers. -/
structure State where
  roster : Roster := {}
  /-- The latest time of every chat. -/
  activity : Tracker := {}
  /-- Where media files are kept. -/
  store : Store
  deriving Repr

/-- Under which circumstances an event is handled. -/
structure Circumstances where
  account : Account
  provider : Map.Provider
  client : Client
  /-- Keeps the temporary name of a file apart from others. -/
  token : String
  /-- The client's nick. -/
  nick : String
  /-- What becomes of the lines written for the event, counted from zero. -/
  writeFault : Nat → Option WriteError

/-- What came of handling an event. -/
structure Outcome where
  state : State
  /-- What the service was asked, in order. -/
  calls : List Call := []
  /-- The lines written, in order. -/
  lines : List Dated := []
  /-- Whether a file was being written on the way, so that others came to act. -/
  waited : Bool := false
  result : Except RelayError Unit := .ok ()

/-- What came of storing the file of an event. -/
structure Storing where
  store : Store
  /-- What the service was asked. -/
  calls : List Call := []
  /-- Whether a file was being written. -/
  waited : Bool := false
  result : Except RelayError Unit := .ok ()

/-- The kind of event that never reaches a client. -/
def internalKind : String := "e2e_notification"

/-- Writes lines in order up to the first that fails; `k` lines were written before. -/
def deliver (fault : Nat → Option WriteError) (k : Nat) :
    List Dated → List Dated × Option WriteError
  | [] => ([], none)
  | line :: rest =>
    match fault k with
    | some e => ([], some e)
    | none =>
      let (written, failed) := deliver fault (k + 1) rest
      (line :: written, failed)

/-- Gives out news in order up to the first line that fails. A client that leaves is no longer in
the channel. -/
def deliverNews (fault : Nat → Option WriteError) (chat : ContactId) (k : Nat) (roster : Roster) :
    List News → Roster × List Dated × Option WriteError
  | [] => (roster, [], none)
  | news :: rest =>
    let left :=
      if news.leaves then roster.update chat (fun room => { room with joined := false }) else roster
    match news.line with
    | none => deliverNews fault chat k left rest
    | some line =>
      match fault k with
      | some e => (roster, [], some e)
      | none =>
        let (roster, written, failed) := deliverNews fault chat (k + 1) left rest
        (roster, line :: written, failed)

/-- The outcome's result for lines of which one may have failed. -/
def written (failed : Option WriteError) : Except RelayError Unit :=
  match failed with
  | none => .ok ()
  | some e => .error (.write e)

/-- Registers the chat of an event if it is new. -/
def register (c : Circumstances) (roster : Roster) (chat : Service.Chat) :
    List Call × Except Fault Roster :=
  match roster.byId? chat.id with
  | some _ => ([], .ok roster)
  | none =>
    match c.client.members chat with
    | .ok members => ([.members chat.id], .ok (roster.insert (Room.ofChat chat members)))
    | .error fault => ([.members chat.id], .error fault)

/-- Stores the file of an event, unless it is stored already. A hash that names no file is refused
before anything is written. -/
def storeMedia (c : Circumstances) (store : Store) (e : Event) : Storing :=
  match e.media with
  | none => { store }
  | some media =>
    if (store.lookup? media.fileHash).isSome then { store }
    else
      let calls := [Call.download e.id media.fileHash]
      match c.client.download e with
      | .error fault => { store, calls, result := .error (.service fault) }
      | .ok bytes =>
        let extension := extension media.mimeType bytes media.filename
        match store.add c.token media.fileHash extension bytes with
        | (store, .ok _) => { store, calls, waited := true }
        | (store, .error .storage) =>
          { store, calls, waited := true, result := .error (.store .storage) }
        | (store, .error error) => { store, calls, result := .error (.store error) }

/-- Relays a message after `k` lines; its chat is registered. -/
def relayMessage (c : Circumstances) (k : Nat) (s : State) (room : Room) (e : Event) : Outcome :=
  let stored := storeMedia c s.store e
  let outcome : Outcome :=
    { state := { s with store := stored.store }, calls := stored.calls, waited := stored.waited }
  match stored.result with
  | .error error => { outcome with result := .error error }
  | .ok () =>
    let fileUrl := fun hash => (stored.store.lookup? hash).map (·.url)
    let render := render c.provider c.account room.members fileUrl
    let (lines, failed) := deliver c.writeFault k (messageLines render c.nick s.roster room e)
    { outcome with lines, result := written failed }

/-- Relays a notification after `k` lines; its chat is registered. -/
def relayNotification (c : Circumstances) (k : Nat) (s : State) (room : Room) (e : Event) :
    Outcome :=
  match NotificationFamily.ofKind? e.kind with
  | none => { state := s, result := .error (.unknownKind e.kind) }
  | some _ =>
    let (roster, lines, failed) :=
      deliverNews c.writeFault room.id k s.roster (news c.nick c.account s.roster room e)
    { state := { s with roster }, lines, result := written failed }

/-- Handles an event that was not handled before; its chat is registered and, if it is a group, the
client is in it. -/
def handleFirst (c : Circumstances) (k : Nat) (s : State) (room : Room) (e : Event) : Outcome :=
  let (activity, _) := s.activity.observe room.id.text e.timestamp
  let s := { s with activity, roster := s.roster.update room.id (fun r => r.see e.id) }
  if e.isSentByMeFromWeb then { state := s }
  else if e.isNotification then relayNotification c k s room e
  else relayMessage c k s room e

/-- Handles an event of a registered chat. -/
def handleIn (c : Circumstances) (s : State) (room : Room) (e : Event) : Outcome :=
  let burst := if room.isGroup && !room.joined then joinLines c.nick c.account room else []
  match deliver c.writeFault 0 burst with
  | (lines, some error) =>
    { state := { s with roster := s.roster.update room.id (fun r => r.see e.id) }
      lines
      result := .error (.join room.identifier error) }
  | (lines, none) =>
    let s :=
      { s with
        roster :=
          s.roster.update room.id (fun r => { r with joined := r.joined || r.isGroup }) }
    if room.hasSeen e.id then { state := s, lines }
    else
      let outcome := handleFirst c lines.length s room e
      { outcome with lines := lines ++ outcome.lines }

/-- Handles one event. -/
def handle (c : Circumstances) (s : State) (e : Event) : Outcome :=
  if e.kind = internalKind then { state := s }
  else
    match register c s.roster e.chat with
    | (calls, .error fault) => { state := s, calls, result := .error (.service fault) }
    | (calls, .ok roster) =>
      let s := { s with roster }
      match roster.byId? e.chat.id with
      | none => { state := s, calls }
      | some room =>
        let outcome := handleIn c s room e
        { outcome with calls := calls ++ outcome.calls }

end IrcGateway.Relay
