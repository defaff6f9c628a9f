import IrcGateway.Activity.Latest
import IrcGateway.Service.Event

/-!
# What the gateway asks of others

The answers that the messaging service and the archive of times give while the gateway works, the
faults for which the service does not do what it is asked for, and the record of what was asked.
-/

namespace IrcGateway.Service

/-- Why the service did not do what it was asked for. -/
inductive Fault where
  | request (reason : String)
  | notFound (what : String)
  | disconnected
  deriving DecidableEq, Repr, Inhabited

/-- The wording of a fault. -/
def Fault.message : Fault → String
  | .request reason => "upstream request failed: " ++ reason
  | .notFound what => "not found upstream: " ++ what
  | .disconnected => "upstream session closed"

/-- How requests are answered. -/
structure Client where
  /-- The present members of a chat. -/
  members : Chat → Except Fault (List Participant)
  /-- The content of the file that comes with an event. -/
  download : Event → Except Fault (List UInt8)
  /-- Why a text cannot be sent to a chat, if it cannot. -/
  sendFault : Option Fault
  /-- Who a login with nick and password is; `none` while there is no answer. -/
  login : String → String → Option (Except Fault Account)
  /-- The times stored for a user, if they are kept and can be read. -/
  storedTimes : String → Option Activity.Times

/-- Something that was asked for. -/
inductive Call where
  | members (chat : ContactId)
  | download (event hash : String)
  | send (chat : ContactId) (text : String)
  | login (nick password : String)
  | storedTimes (user : String)
  deriving DecidableEq, Repr

end IrcGateway.Service
