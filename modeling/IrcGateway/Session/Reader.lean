import IrcGateway.Protocol.Parser
import IrcGateway.Session
import IrcGateway.Text.Utf8

/-!
# Reading a client's commands

The reader of a session goes through the bytes line by line. Blank and malformed lines change
nothing. Housekeeping commands are answered at once; every other command goes into the queue, and
while the queue is full the reader holds it and reads no further. The session stops when the client
quits, its input ends, an answer to PING cannot be written, or the queue has lost its consumer.

`read` does one thing at a time, so that it can be interleaved with everything else; `readAll` goes
on until there is nothing to do.

* `workload_lt_of_read`: every reading leaves less to do, which is why `readAll` ends.
-/

namespace IrcGateway

open IrcGateway.Protocol IrcGateway.Text

namespace Session

/-- The first line of the bytes with its line feed, and the bytes after it. Unterminated bytes are a
line only once the input has ended. -/
def splitLine (ended : Bool) (bytes : List UInt8) : Option (List UInt8 × List UInt8) :=
  match bytes.dropWhile (· != 10) with
  | lf :: rest => some (bytes.takeWhile (· != 10) ++ [lf], rest)
  | [] => if ended && !bytes.isEmpty then some (bytes, []) else none

theorem length_of_splitLine {ended : Bool} {bytes line rest : List UInt8}
    (h : splitLine ended bytes = some (line, rest)) : rest.length < bytes.length := by
  unfold splitLine at h
  split at h
  · -- at least the line feed is gone
    rename_i lf r heq
    have hs := congrArg List.length
      (List.takeWhile_append_dropWhile (p := (· != 10)) (l := bytes))
    simp only [Option.some.injEq, Prod.mk.injEq] at h
    rw [heq, h.2] at hs
    simp only [List.length_append, List.length_cons] at hs
    omega
  · split at h
    · -- the last line is all that there is, and not empty
      rename_i hc
      simp only [Bool.and_eq_true, Bool.not_eq_true', List.isEmpty_eq_false_iff] at hc
      simp only [Option.some.injEq, Prod.mk.injEq] at h
      rw [← h.2]
      simpa using List.length_pos_iff.mpr hc.2
    · simp at h

/-- Answers a capability command. Each opens a negotiation; END closes it again. -/
def handleCapability (s : Session) (m : Message) : Session :=
  let s := { s with capabilities := s.capabilities.start }
  let subcommand := upper (m.params.head?.getD "")
  if subcommand = "LS" then
    s.orUnchanged (s.writeNow (Line.capabilities "LS" supportedCapabilities).text)
  else if subcommand = "LIST" then
    s.orUnchanged (s.writeNow (Line.capabilities "LIST" s.capabilities.tokens).text)
  else if subcommand = "REQ" then
    let tokens :=
      if 1 < m.params.length then (words m.trailing.toList).map String.ofList else []
    let s := { s with capabilities := s.capabilities.addAll tokens }
    s.orUnchanged (s.writeNow (Line.capabilities "ACK" s.capabilities.tokens).text)
  else if subcommand = "END" then
    settle { s with capabilities := s.capabilities.finish }
  else s

/-- Handles one command; a command for the rest of the gateway is held. -/
def handle (s : Session) (m : Message) : Session :=
  if m.command = "PING" then
    match s.writeNow (Line.pong (m.params.head?.getD serverName)).text with
    | .ok s => s
    | .error _ => s.stop
  else if m.command = "QUIT" then s.stop
  else if m.command = "NICK" then
    match m.params with
    | nick :: _ => settle { s with nick, nickChanges := s.nickChanges + 1 }
    | [] => s
  else if m.command = "USER" then { settle { s with userSeen := true } with held := some m }
  else if m.command = "PASS" then s.setPassword (m.params.head?.getD "")
  else if m.command = "CAP" then s.handleCapability m
  else { s with held := some m }

/-- Handles one line as it came from the socket. -/
def handleLine (s : Session) (line : List UInt8) : Session :=
  match Message.parse (String.ofList (Utf8.decodeLossy line)) with
  | .ok m => s.handle m
  | .error _ => s

/-- One act of the reader: it gets rid of a command it holds, or reads a line, or notices the end of
input. `none` if it has to wait.

After a stop the reader does nothing more. This settles a race: a reader that is stopped from
outside while a whole line is there for it may still take that line up, without being able to answer
it. -/
def read (s : Session) : Option Session :=
  if s.stopped then none
  else
    match s.held with
    | some m =>
      if s.abandoned then some s.stop
      else if s.queue.length < s.capacity then
        some { s with queue := s.queue ++ [m], held := none }
      else none
    | none =>
      match splitLine s.inputEnded s.unread with
      | some (line, rest) => some (handleLine { s with unread := rest } line)
      | none => if s.inputEnded then some s.stop else none

/-- A bound on the acts the reader still has before it: two for a byte, one to get rid of a command,
one to stop. -/
def workload (s : Session) : Nat :=
  2 * s.unread.length + (if s.held.isSome then 1 else 0) + (if s.stopped then 0 else 1)

/-! ### Handling a line reads no bytes -/

private theorem unread_orUnchanged (s : Session) (time : Time.Stamp) (line : String) :
    (s.orUnchanged (s.write time line)).unread = s.unread := by
  unfold orUnchanged
  split
  · rename_i h
    rw [sent_of_write h]
  · rfl

private theorem unread_settle (s : Session) : s.settle.unread = s.unread := by
  unfold settle setPassword
  split
  · split <;> rfl
  · rfl

private theorem unread_setPassword (s : Session) (p : String) :
    (s.setPassword p).unread = s.unread := by
  unfold setPassword
  split <;> rfl

private theorem unread_handleCapability (s : Session) (m : Message) :
    (s.handleCapability m).unread = s.unread := by
  unfold handleCapability writeNow
  simp only
  repeat' split
  all_goals simp [unread_orUnchanged, unread_settle]

theorem unread_handle (s : Session) (m : Message) : (s.handle m).unread = s.unread := by
  unfold handle writeNow
  split
  · split
    · rename_i h
      rw [sent_of_write h]
    · rfl
  repeat' split
  all_goals simp [unread_settle, unread_setPassword, unread_handleCapability, stop]

theorem unread_handleLine (s : Session) (line : List UInt8) :
    (s.handleLine line).unread = s.unread := by
  unfold handleLine
  split
  · exact unread_handle _ _
  · rfl

theorem workload_lt_of_read {s s' : Session} (h : s.read = some s') :
    s'.workload < s.workload := by
  unfold read at h
  split at h
  · simp at h
  · rename_i hs
    simp only [Bool.not_eq_true] at hs
    -- a held command is given up or queued, which is one thing less to do in either case
    split at h
    · rename_i m hm
      split at h
      · simp only [Option.some.injEq] at h
        subst h
        simp only [workload, stop, hs, hm, Option.isSome_some, Option.isSome_none, if_true,
          Bool.false_eq_true, if_false]
        omega
      · split at h
        · simp only [Option.some.injEq] at h
          subst h
          simp [workload, hs, hm]
        · simp at h
    · rename_i hm
      split at h
      · rename_i line rest hl
        simp only [Option.some.injEq] at h
        subst h
        -- the line may leave a command to be held, but is not empty itself
        have := length_of_splitLine hl
        unfold workload
        rw [unread_handleLine]
        simp only [hm, hs]
        split <;> split <;> simp <;> omega
      · split at h
        · simp only [Option.some.injEq] at h
          subst h
          simp [workload, stop, hs, hm]
        · simp at h

/-- Lets the reader act until it has to wait. -/
def readAll (s : Session) : Session :=
  match h : s.read with
  | some s' =>
    have := workload_lt_of_read h
    s'.readAll
  | none => s
termination_by s.workload

end Session

end IrcGateway
