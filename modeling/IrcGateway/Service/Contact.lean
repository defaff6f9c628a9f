import IrcGateway.Text.Blank
import IrcGateway.Text.Lines

/-!
# People and chats of the messaging service

Identifiers in the form `user@server`, the people behind them with the names they go by, members of
a chat, and the account the gateway speaks for.

People and chats are called anything; a nick or the rest of a channel name must be one word without
the characters that mean something to the line protocol. `safeName` makes one: white space inside
the name becomes a single underscore, reserved and control characters disappear, and a fallback
stands in for a name of which nothing is left.
-/

namespace IrcGateway.Service

open IrcGateway.Text

/-! ### Usable names -/

/-- A character with a meaning of its own in the line protocol. -/
def isReserved (c : Char) : Bool :=
  [':', ',', '!', '@', '#', '*', '?', '.'].contains c

/-- A character that a usable name leaves out. -/
def isDropped (c : Char) : Bool :=
  isReserved c || isControl c

/-- The usable characters of a name. `gap` says that white space was skipped since the last
character kept, and `begun` that a character was kept at all. -/
def safeChars (gap begun : Bool) : List Char → List Char
  | [] => []
  | c :: cs =>
    if isBlank c then safeChars true begun cs
    else if isDropped c then safeChars gap begun cs
    else if gap && begun then '_' :: c :: safeChars false true cs
    else c :: safeChars false true cs

/-- A usable form of `name`, or `fallback` if there is none. -/
def safeName (name fallback : String) : String :=
  match safeChars false false (trim name.toList) with
  | [] => fallback
  | cs => String.ofList cs

/-! ### People -/

/-- The identifier of a person or a chat. -/
structure ContactId where
  user : String
  server : String
  deriving DecidableEq, Repr, Inhabited

namespace ContactId

/-- The identifier that a text stands for: the text is cut at its first at sign, and is all user if
it has none. -/
def ofText (text : String) : ContactId :=
  match splitAtFirst '@' text.toList with
  | some (user, server) => ⟨String.ofList user, String.ofList server⟩
  | none => ⟨text, ""⟩

/-- The text of an identifier; an empty server leaves out the at sign as well. -/
def text (id : ContactId) : String :=
  if id.server = "" then id.user else id.user ++ "@" ++ id.server

end ContactId

/-- A person, with the names known for them. -/
structure Contact where
  id : ContactId
  /-- The name in the address book of the account. -/
  name : String := ""
  /-- The name the person chose. -/
  pushName : String := ""
  /-- The name the service makes up, most often a telephone number. -/
  formattedName : String := ""
  deriving DecidableEq, Repr, Inhabited

namespace Contact

/-- The first of the names that is not blank, or else the user part of the identifier. -/
def displayName (c : Contact) : String :=
  ([c.name, c.pushName, c.formattedName].find? (fun n => !(trim n.toList).isEmpty)).getD c.id.user

/-- The display name in usable form. -/
def safeName (c : Contact) : String :=
  Service.safeName c.displayName c.id.user

end Contact

/-- A member of a chat. -/
structure Participant where
  id : ContactId
  contact : Contact
  isAdmin : Bool := false
  deriving DecidableEq, Repr, Inhabited

namespace Participant

/-- A person as an ordinary member. -/
def ofContact (c : Contact) : Participant :=
  { id := c.id, contact := c }

def safeName (p : Participant) : String :=
  p.contact.safeName

end Participant

/-- The account the gateway speaks for. -/
structure Account where
  id : ContactId
  pushName : String
  deriving DecidableEq, Repr, Inhabited

end IrcGateway.Service
