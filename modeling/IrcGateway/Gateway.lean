import IrcGateway.Relay.State
import IrcGateway.Session.Reader

/-!
# Serving a client

The gateway serves one client from its first byte to the end of its connection. Until the client has
a nick and its password is settled, commands are thrown away. Then the gateway logs in to the
messaging service in the client's name, greets the client line by line, and relays in both
directions until the client leaves, the service ends its events, or a line cannot be written.

What the gateway does next is a `Turn`; `turn` says which turns are possible and what they do. While
events are relayed, the end of the session comes first, then events, then commands. Reading the
client's input is a matter of the session and may happen between any two turns. `settle` lets the
reader act as long as it can, then the gateway, and so on in turn until both have to wait. The
latest times are saved when the gateway waits: for something to do, or for a file to be written in
the middle of an event.

Of the gateway, a `Connection` is the part that joins the client's session and the relay that feeds
it. Handling an event writes the relay's lines to the session.
-/

namespace IrcGateway

open IrcGateway.Activity IrcGateway.Protocol IrcGateway.Relay IrcGateway.Service

/-! ### A client with its relay -/

structure Connection where
  session : Session
  relay : Relay.State
  deriving Repr

namespace Connection

/-- Writes dated lines to a session. -/
def writeLines (s : Session) (lines : List Dated) : Session :=
  lines.foldl (fun s line => s.orUnchanged (s.write line.stamp line.line)) s

/-- The circumstances under which the session lets an event be handled. -/
def circumstances (session : Session) (account : Account) (provider : Map.Provider)
    (client : Client) (token : String) : Circumstances :=
  { account, provider, client, token
    nick := session.nick
    writeFault := fun _ => session.writeFault }

/-- Handles one event of the service. -/
def handleEvent (c : Connection) (account : Account) (provider : Map.Provider) (client : Client)
    (token : String) (e : Event) : Connection × Outcome :=
  let outcome := Relay.handle (circumstances c.session account provider client token) c.relay e
  ({ session := writeLines c.session outcome.lines, relay := outcome.state }, outcome)

/-- The relay goes away, and with it the latest times. -/
def close (c : Connection) : Connection :=
  { c with relay := { c.relay with activity := c.relay.activity.close } }

/-- Lets the latest times be saved now and while `span` milliseconds pass. -/
def elapse (c : Connection) (line : Timeline) (span : Nat) : Connection × Timeline :=
  let (activity, line) := c.relay.activity.elapse line span
  ({ c with relay := { c.relay with activity } }, line)

end Connection

/-! ### The gateway -/

/-- Why serving a client failed. -/
inductive GatewayError where
  /-- The client left before it was logged in. -/
  | loginAborted
  /-- The service refused the login. -/
  | connect (fault : Fault)
  /-- A line could not be written. -/
  | write (error : WriteError)
  deriving DecidableEq, Repr

def GatewayError.message : GatewayError → String
  | .loginAborted => "client disconnected before logging in"
  | .connect fault => "could not connect to the messaging service: " ++ fault.message
  | .write error => "failed to write to IRC client: " ++ error.message

/-- How far serving a client has come. -/
inductive Phase where
  /-- Waiting for nick and password; the password is remembered once it was seen. -/
  | login (password : Option String)
  /-- Waiting for the service to answer the login. -/
  | connecting (nick password : String)
  /-- Greeting the client; these lines are still to be written. -/
  | greeting (account : Account) (lines : List String)
  | serving (account : Account)
  | finished (result : Except GatewayError Unit)
  deriving Repr

structure Gateway where
  connection : Connection
  provider : Map.Provider := .openStreetMap
  /-- Whether latest times are kept. -/
  keepsTimes : Bool := false
  phase : Phase := .login none
  /-- Events delivered and not handled yet, oldest first. -/
  events : List Event := []
  /-- Whether the service will deliver no more. -/
  eventsEnded : Bool := false
  /-- Everything that was asked of others, in order. -/
  calls : List Call := []
  /-- The time, and what was attempted to save. -/
  timeline : Timeline := {}
  deriving Repr

/-- Something the gateway can do next. -/
inductive Turn where
  /-- Nick and password are there: log in. -/
  | logIn
  /-- See that the password is settled. -/
  | seePassword
  /-- Hear how the service answers the login. -/
  | hearAnswer
  /-- Write the next line of the greeting, or begin to serve after the last. -/
  | greet
  /-- Notice that the session has stopped. -/
  | noticeStop
  /-- Handle the next event, or the end of events. -/
  | event
  /-- Take the next command. -/
  | command
  deriving DecidableEq, Repr

namespace Gateway

def session (g : Gateway) : Session :=
  g.connection.session

def withSession (g : Gateway) (s : Session) : Gateway :=
  { g with connection := { g.connection with session := s } }

/-- Ends serving: the session stops, its queue has no consumer any more, and the relay goes away. -/
def finish (g : Gateway) (result : Except GatewayError Unit) : Gateway :=
  let connection := { g.connection with session := g.session.stop.abandonQueue }
  { g with connection := connection.close, phase := .finished result, events := [] }

/-- Goes on with the session after a write, or ends serving because it failed. -/
def afterWrite (g : Gateway) (attempt : Except WriteError Session) : Gateway :=
  match attempt with
  | .ok s => g.withSession s
  | .error e => g.finish (.error (.write e))

/-- What a client is greeted with. -/
def greeting (nick : String) : List String :=
  [(Line.welcome nick).text, (Line.yourHost nick).text, (Line.created nick).text,
    (Line.myInfo nick).text, (Line.noMotd nick).text]

/-- Begins to serve a client that was greeted, with its stored times. -/
def beginServing (g : Gateway) (client : Client) (account : Account) : Gateway :=
  let user := account.id.text
  let activity : Tracker :=
    if g.keepsTimes then Tracker.saving user ((client.storedTimes user).getD []) else {}
  { g with
    connection := { g.connection with relay := { g.connection.relay with activity } }
    phase := .serving account
    calls := if g.keepsTimes then g.calls ++ [.storedTimes user] else g.calls }

/-- Handles a private message of the client: it is sent to the chat of that name. -/
def handlePrivateMessage (g : Gateway) (client : Client) (params : List String) : Gateway :=
  match params with
  | target :: text :: _ =>
    match g.connection.relay.roster.byName? target with
    | none => g.afterWrite (g.session.writeNow (Line.noSuchNick g.session.nick target).text)
    | some room =>
      let g := { g with calls := g.calls ++ [.send room.id text] }
      match client.sendFault with
      | none => g
      | some fault =>
        g.afterWrite
          (g.session.status ("failed to send message to " ++ target ++ ": " ++ fault.message))
  | _ => g.afterWrite (g.session.writeNow (Line.needMoreParams g.session.nick "PRIVMSG").text)

/-- Handles a command of a client that is logged in; all but private messages are ignored. -/
def handleCommand (g : Gateway) (client : Client) (m : Message) : Gateway :=
  if m.command = "PRIVMSG" then g.handlePrivateMessage client m.params else g

/-- Lets the latest times be saved now and while `span` milliseconds pass. -/
def elapse (g : Gateway) (span : Nat) : Gateway :=
  let (connection, timeline) := g.connection.elapse g.timeline span
  { g with connection, timeline }

/-- Handles an event of the service. Of all errors the client is only told of a notification that
cannot be shown. -/
def handleEvent (g : Gateway) (client : Client) (token : String) (account : Account) (e : Event) :
    Gateway :=
  let (connection, outcome) := g.connection.handleEvent account g.provider client token e
  let g := { g with connection, calls := g.calls ++ outcome.calls }
  let g := if outcome.waited then g.elapse 0 else g
  match outcome.result with
  | .error (.unknownKind kind) =>
    g.withSession (g.session.orUnchanged (g.session.status (RelayError.unknownKind kind).message))
  | _ => g

/-- Takes one turn, if it is possible now. -/
def turn (g : Gateway) (client : Client) (token : String) (t : Turn) : Option Gateway :=
  match g.phase, t with
  | .login (some password), .logIn =>
    if g.session.nick = "" then none
    else
      some { g with
        phase := .connecting g.session.nick password
        calls := g.calls ++ [.login g.session.nick password] }
  | .login none, .seePassword =>
    g.session.password.map fun password => { g with phase := .login (some password) }
  | .login password, .noticeStop =>
    if g.session.stopped ∧ (password = none ∨ g.session.nick ≠ "") then
      some (g.finish (.error .loginAborted))
    else none
  | .login _, .command =>
    match g.session.take with
    | (.command _, s) => some (g.withSession s)
    | (.closed, _) => some (g.finish (.error .loginAborted))
    | (.empty, _) => none
  | .connecting nick password, .hearAnswer =>
    match client.login nick password with
    | none => none
    | some (.ok account) => some { g with phase := .greeting account (greeting nick) }
    | some (.error fault) =>
      let s := g.session.orUnchanged
        (g.session.status ("error while connecting: " ++ fault.message))
      some ((g.withSession s).finish (.error (.connect fault)))
  | .connecting _ _, .noticeStop =>
    if g.session.stopped then some (g.finish (.error .loginAborted)) else none
  | .greeting account (line :: rest), .greet =>
    match g.session.writeNow line with
    | .ok s => some { g.withSession s with phase := .greeting account rest }
    | .error e => some (g.finish (.error (.write e)))
  | .greeting account [], .greet => some (g.beginServing client account)
  | .serving _, .noticeStop => if g.session.stopped then some (g.finish (.ok ())) else none
  | .serving account, .event =>
    if g.session.stopped then none
    else
      match g.events with
      | e :: rest => some ({ g with events := rest }.handleEvent client token account e)
      | [] =>
        if g.eventsEnded then
          let s := g.session.orUnchanged
            (g.session.status "connection to the messaging service closed")
          some ((g.withSession s).finish (.ok ()))
        else none
  | .serving _, .command =>
    if g.session.stopped ∨ g.events ≠ [] ∨ g.eventsEnded then none
    else
      match g.session.take with
      | (.command m, s) => some ((g.withSession s).handleCommand client m)
      | _ => none
  | _, _ => none

/-! ### What happens to a gateway from outside -/

/-- The service delivers an event. A gateway that has finished takes none, and none follows the end
of events. -/
def deliverEvent (g : Gateway) (e : Event) : Gateway :=
  match g.phase with
  | .finished _ => g
  | _ => if g.eventsEnded then g else { g with events := g.events ++ [e] }

/-- The service ends its events. -/
def endEvents (g : Gateway) : Gateway :=
  { g with eventsEnded := true }

/-! ### Running -/

/-- The turns in the order in which they are tried. -/
def turnOrder : List Turn :=
  [.logIn, .seePassword, .hearAnswer, .greet, .noticeStop, .event, .command]

/-- Takes at most `fuel` turns, each the first that is possible. -/
def takeTurns (client : Client) (token : String) (fuel : Nat) (g : Gateway) : Gateway × Bool :=
  match fuel with
  | 0 => (g, false)
  | fuel + 1 =>
    match turnOrder.findSome? (g.turn client token) with
    | some next => ((takeTurns client token fuel next).1, true)
    | none => (g, false)

/-- A bound on how often reader and gateway can act: each act reads input, moves a command into the
queue, takes one from it, handles an event, or brings the connection further. -/
def workload (g : Gateway) : Nat :=
  2 * g.session.workload + g.session.queue.length + g.events.length + 16

/-- Lets reader and gateway act in turn until both have to wait. -/
def settle (client : Client) (token : String) (g : Gateway) : Gateway :=
  go g.workload g
where
  /-- Changes between reader and gateway at most `fuel` times. -/
  go (fuel : Nat) (g : Gateway) : Gateway :=
    let g := g.withSession g.session.readAll
    match fuel with
    | 0 => g
    | fuel + 1 =>
      match takeTurns client token g.workload g with
      | (g, true) => go fuel g
      | (g, false) => g

end Gateway

end IrcGateway
