import IrcGateway.Text.Blank
import IrcGateway.Text.Case

/-!
# Negotiated capabilities

The capabilities one client has asked for, kept in ascending order and in lower case, and whether a
negotiation is open. A token is only taken while one is. Main statements: `mem_insertToken` says
what the list holds afterwards.
-/

namespace IrcGateway.Protocol

open IrcGateway.Text

/-- The capability that dates every line. -/
def serverTime : String := "server-time"

/-- Everything offered to a client. -/
def supportedCapabilities : List String := [serverTime, "whapp-irc/replay"]

/-- Puts a token into an ascending list, unless it is there. -/
def insertToken (token : String) : List String → List String
  | [] => [token]
  | t :: ts =>
    if token < t then token :: t :: ts
    else if token = t then t :: ts
    else t :: insertToken token ts

theorem mem_insertToken {x token : String} {ts : List String} :
    x ∈ insertToken token ts ↔ x = token ∨ x ∈ ts := by
  induction ts with
  | nil => simp [insertToken]
  | cons t ts ih =>
    rw [insertToken]
    split
    · simp
    · split
      · rename_i h
        simp [h]
      · simp only [List.mem_cons, ih]
        exact or_left_comm

/-- What a client has negotiated. -/
structure Capabilities where
  /-- The tokens taken, strictly ascending. -/
  tokens : List String := []
  /-- Whether a negotiation is open. -/
  negotiating : Bool := false
  deriving DecidableEq, Repr, Inhabited

namespace Capabilities

def start (c : Capabilities) : Capabilities :=
  { c with negotiating := true }

def finish (c : Capabilities) : Capabilities :=
  { c with negotiating := false }

/-- The form in which a token is kept. -/
def normal (token : String) : String :=
  lower (String.ofList (trim token.toList))

/-- Takes a token, and says whether it is new. Outside a negotiation nothing is taken, nor is a
blank token. -/
def add (c : Capabilities) (token : String) : Capabilities × Bool :=
  if c.negotiating = false ∨ trim token.toList = [] then (c, false)
  else ({ c with tokens := insertToken (normal token) c.tokens },
    !c.tokens.contains (normal token))

/-- Takes tokens in order. -/
def addAll (c : Capabilities) (tokens : List String) : Capabilities :=
  tokens.foldl (fun c t => (c.add t).1) c

@[simp] theorem negotiating_addAll (c : Capabilities) (tokens : List String) :
    (c.addAll tokens).negotiating = c.negotiating := by
  induction tokens generalizing c with
  | nil => rfl
  | cons token rest ih =>
    have hadd : (c.add token).1.negotiating = c.negotiating := by
      unfold add
      split <;> rfl
    exact (ih (c.add token).1).trans hadd

/-- Whether a token was taken, whatever the case of its letters. -/
def has (c : Capabilities) (token : String) : Bool :=
  c.tokens.contains (lower token)

end Capabilities

end IrcGateway.Protocol
