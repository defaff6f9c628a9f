import IrcGateway.Protocol.Capabilities
import IrcGateway.Protocol.Line
import IrcGateway.Time.Stamp

/-!
# A client's session

The state of one connected client: what it has registered, the bytes it sent that are still unread,
the queue of commands for the rest of the gateway, and all lines written to it. This module holds
the state, writing, and the queue's consumer; reading is in `IrcGateway.Session.Reader`.

Writing fails once the session has stopped, and when the client's socket is gone. A line is tagged
with its time exactly if the client had negotiated this when the line was written.

* `write_stopped`: a stopped session takes no line.
* `sent_of_write`: a line that is taken is added after all earlier ones, and nothing else is.
-/

namespace IrcGateway

open IrcGateway.Protocol IrcGateway.Time

/-- Why a line could not be written. -/
inductive WriteError where
  /-- The session has stopped. -/
  | closed
  /-- The client's socket is gone. -/
  | brokenPipe
  deriving DecidableEq, Repr

def WriteError.message : WriteError → String
  | .closed => "IRC session closed"
  | .brokenPipe => "broken pipe"

/-- A line written to the client, with the stamp it was tagged with. -/
structure Sent where
  stamp : Option Stamp
  line : String
  deriving DecidableEq, Repr

namespace Sent

/-- The line with its tag. -/
def text (now : String) (s : Sent) : String :=
  match s.stamp with
  | some t => "@time=" ++ t.text now ++ " " ++ s.line
  | none => s.line

/-- The characters the client receives: the line with its tag, then CR LF. -/
def wire (now : String) (s : Sent) : List Char :=
  (s.text now).toList ++ ['\r', '\n']

end Sent

/-- The name the gateway's own notices come from. -/
def statusNick : String := "status"

/-- One client's session. -/
structure Session where
  /-- How many commands the queue holds. -/
  capacity : Nat
  capabilities : Capabilities := {}
  /-- The current nick; empty before the client sent one. -/
  nick : String := ""
  /-- How often a nick was announced. -/
  nickChanges : Nat := 0
  /-- The password, once it is settled. -/
  password : Option String := none
  /-- Whether the client has sent USER. -/
  userSeen : Bool := false
  stopped : Bool := false
  /-- Bytes received and not read yet. -/
  unread : List UInt8 := []
  /-- Whether the client will send no more. -/
  inputEnded : Bool := false
  /-- Whether the client's socket is gone. -/
  clientGone : Bool := false
  /-- Whether the client saw the session close the socket. -/
  closeSeen : Bool := false
  /-- Commands read and not taken yet, oldest first. -/
  queue : List Message := []
  /-- The command the reader could not put into a full queue. -/
  held : Option Message := none
  /-- Whether the queue has lost its consumer. -/
  abandoned : Bool := false
  /-- Every line written, oldest first. -/
  sent : List Sent := []
  deriving Repr

namespace Session

/-- A new session; a queue holds at least one command. -/
def start (queueSize : Nat) : Session :=
  { capacity := max queueSize 1 }

/-! ### Writing -/

/-- Why a line would not be taken now. -/
def writeFault (s : Session) : Option WriteError :=
  if s.stopped then some .closed
  else if s.clientGone then some .brokenPipe
  else none

/-- What a line dated `time` becomes on this session. -/
def tagged (s : Session) (time : Stamp) (line : String) : Sent :=
  ⟨if s.capabilities.has serverTime then some time else none, line⟩

/-- Writes one line. -/
def write (s : Session) (time : Stamp) (line : String) : Except WriteError Session :=
  match s.writeFault with
  | some e => .error e
  | none => .ok { s with sent := s.sent ++ [s.tagged time line] }

/-- Writes a line dated with the moment of writing. -/
def writeNow (s : Session) (line : String) : Except WriteError Session :=
  s.write .clock line

/-- Writes lines in order up to the first that fails. -/
def writeList (s : Session) : List String → Session × Except WriteError Unit
  | [] => (s, .ok ())
  | line :: rest =>
    match s.writeNow line with
    | .ok s => writeList s rest
    | .error e => (s, .error e)

/-- Sends a private message. -/
def privateMessage (s : Session) (time : Stamp) (sender target body : String) :
    Except WriteError Session :=
  s.write time (Line.privmsg sender target body).text

/-- Sends a notice of the gateway to the client. -/
def status (s : Session) (body : String) : Except WriteError Session :=
  s.privateMessage .clock statusNick s.nick body

/-- Writes where it is possible, and otherwise does nothing. -/
def orUnchanged (s : Session) (attempt : Except WriteError Session) : Session :=
  match attempt with
  | .ok s => s
  | .error _ => s

theorem write_of_up {s : Session} (h : s.writeFault = none) (time : Stamp) (line : String) :
    s.write time line = .ok { s with sent := s.sent ++ [s.tagged time line] } := by
  rw [write, h]

theorem write_of_fault {s : Session} {e : WriteError} (h : s.writeFault = some e) (time : Stamp)
    (line : String) : s.write time line = .error e := by
  rw [write, h]

theorem write_stopped {s : Session} (h : s.stopped = true) (time : Stamp) (line : String) :
    s.write time line = .error .closed :=
  write_of_fault (by simp [writeFault, h]) time line

theorem sent_of_write {s s' : Session} {time : Stamp} {line : String}
    (h : s.write time line = .ok s') : s' = { s with sent := s.sent ++ [s.tagged time line] } := by
  cases hfault : s.writeFault with
  | none => exact (Except.ok.inj ((write_of_up hfault time line).symm.trans h)).symm
  | some e => exact absurd ((write_of_fault hfault time line).symm.trans h) (by simp)

/-! ### The end of a session -/

/-- Stops the session: the reader gives up a command it holds, and the socket is closed. -/
def stop (s : Session) : Session :=
  { s with stopped := true, held := none, closeSeen := s.closeSeen || !s.clientGone }

/-! ### What the client does to its socket -/

/-- The client sends bytes; after its end of input they go nowhere. -/
def receive (s : Session) (bytes : List UInt8) : Session :=
  if s.inputEnded then s else { s with unread := s.unread ++ bytes }

/-- The client ends its input. -/
def endInput (s : Session) : Session :=
  { s with inputEnded := true }

/-- The client's socket disappears. -/
def dropClient (s : Session) : Session :=
  { s with inputEnded := true, clientGone := true }

/-! ### The consumer of the queue -/

/-- What the consumer finds in the queue. -/
inductive Taken where
  | command (m : Message)
  | empty
  /-- Nothing is left and nothing will come. -/
  | closed
  deriving Repr

/-- Takes the oldest command. -/
def take (s : Session) : Taken × Session :=
  match s.queue with
  | m :: rest => (.command m, { s with queue := rest })
  | [] => (if s.stopped || s.abandoned then .closed else .empty, s)

/-- The consumer goes away. -/
def abandonQueue (s : Session) : Session :=
  { s with abandoned := true, queue := [] }

/-! ### Registration -/

/-- Settles the password; only the first one counts. -/
def setPassword (s : Session) (password : String) : Session :=
  match s.password with
  | some _ => s
  | none => { s with password := some password }

/-- Whether the client has a nick, has sent USER and has no negotiation open. -/
def isRegistered (s : Session) : Bool :=
  s.nick != "" && s.userSeen && !s.capabilities.negotiating

/-- A client that finished its registration without a password will send none. -/
def settle (s : Session) : Session :=
  if s.isRegistered then s.setPassword "" else s

end Session

end IrcGateway
