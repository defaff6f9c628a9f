/-!
# Notifications

The two families of notifications that can be shown to a client, and what each subtype says about
the people it names.
-/

namespace IrcGateway.Service

/-- What a notification is about. -/
inductive NotificationFamily where
  | membership
  | call
  deriving DecidableEq, Repr

/-- The family of an event kind; `none` for a kind that cannot be shown. -/
def NotificationFamily.ofKind? (kind : String) : Option NotificationFamily :=
  if kind = "gp2" then some .membership
  else if kind = "call_log" then some .call
  else none

/-- What happened to the people a notification names. -/
inductive Change where
  | create
  | add
  | leave
  | remove
  | miss
  /-- A subtype nothing is shown for. -/
  | unknown (subtype : String)
  deriving DecidableEq, Repr

namespace Change

def ofSubtype (subtype : String) : Change :=
  if subtype = "create" then .create
  else if subtype = "add" ∨ subtype = "invite" then .add
  else if subtype = "leave" then .leave
  else if subtype = "remove" then .remove
  else if subtype = "miss" then .miss
  else .unknown subtype

/-- Whether the people named are no longer in the chat. -/
def removes : Change → Bool
  | .leave => true
  | .remove => true
  | _ => false

end Change

end IrcGateway.Service
