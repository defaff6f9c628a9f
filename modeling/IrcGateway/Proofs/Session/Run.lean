import IrcGateway.Proofs.Protocol.Reading
import IrcGateway.Session.Reader

/-!
# Runs of a session

A session is at the mercy of several parties. Its client sends bytes, in pieces of any size, and may
end its input or disappear. The reader acts when it can. The consumer takes commands from the queue
or goes away. The rest of the gateway writes lines, or stops the session. Each of these is a `Move`,
and a run is any sequence of them, so that every order in which the parties may come to act is a run
of its own.

What the reader can do next is one of four things, named in `Reads`. Of all a session remembers, the
registration and the lines written have no part in the way of commands from the client to the
consumer; `flow` leaves them out, and `flow_handle` says what handling a command does to the rest.
-/

namespace IrcGateway.Session

open IrcGateway.Protocol IrcGateway.Text IrcGateway.Time

/-- What can happen to a session next. -/
inductive Move where
  /-- The client sends bytes. -/
  | receive (bytes : List UInt8)
  /-- The client ends its input. -/
  | endInput
  /-- The client's socket disappears. -/
  | dropClient
  /-- The reader acts, if it can. -/
  | read
  /-- The consumer takes the oldest command, if there is one. -/
  | take
  /-- The consumer goes away. -/
  | abandon
  /-- Another party writes a line. -/
  | write (time : Stamp) (line : String)
  /-- Another party stops the session. The reader takes this up at once, where it might read one
  more line that is already there; what such a line would do is not among the runs. -/
  | stop
  deriving Repr

namespace Move

/-- The session after a move. -/
def apply (s : Session) : Move → Session
  | receive bytes => s.receive bytes
  | endInput => s.endInput
  | dropClient => s.dropClient
  | read => s.read.getD s
  | take => s.take.2
  | abandon => s.abandonQueue
  | write time line => s.orUnchanged (s.write time line)
  | stop => s.stop

/-- The bytes that reach the session with a move. -/
def heard (s : Session) : Move → List UInt8
  | receive bytes => if s.inputEnded then [] else bytes
  | _ => []

/-- The command that the consumer gets with a move. -/
def taken (s : Session) : Move → List Message
  | take =>
    match s.take.1 with
    | .command m => [m]
    | _ => []
  | _ => []

theorem taken_take (s : Session) : Move.taken s .take = s.queue.head?.toList := by
  simp only [Move.taken, Session.take]
  cases s.queue with
  | nil => cases s.stopped || s.abandoned <;> rfl
  | cons m rest => rfl

/-- Client and consumer stay, and nobody else stops the session. -/
def Undisturbed : Move → Prop
  | dropClient => False
  | abandon => False
  | stop => False
  | _ => True

end Move

/-- The session after a run. -/
def run (s : Session) (moves : List Move) : Session :=
  moves.foldl Move.apply s

/-- The bytes that reach the session along a run. -/
def heard (s : Session) : List Move → List UInt8
  | [] => []
  | move :: rest => move.heard s ++ heard (move.apply s) rest

/-- The commands that the consumer gets along a run. -/
def taken (s : Session) : List Move → List Message
  | [] => []
  | move :: rest => move.taken s ++ taken (move.apply s) rest

@[simp] theorem run_nil (s : Session) : run s [] = s := rfl

@[simp] theorem run_cons (s : Session) (move : Move) (rest : List Move) :
    run s (move :: rest) = run (move.apply s) rest := rfl

theorem run_append (s : Session) (moves more : List Move) :
    run s (moves ++ more) = run (run s moves) more :=
  List.foldl_append

theorem taken_append (s : Session) (moves more : List Move) :
    taken s (moves ++ more) = taken s moves ++ taken (run s moves) more := by
  induction moves generalizing s with
  | nil => rfl
  | cons move rest ih => simp [taken, ih]

/-! ### What the reader does -/

/-- What the reader can do next. -/
inductive Reads (s : Session) : Session → Prop where
  /-- It holds a command that nobody waits for. -/
  | gaveUp {m : Message} (hm : s.held = some m) (ha : s.abandoned = true) : Reads s s.stop
  /-- It puts the command it holds into the queue. -/
  | queued {m : Message} (hm : s.held = some m) (ha : s.abandoned = false)
      (hq : s.queue.length < s.capacity) : Reads s { s with queue := s.queue ++ [m], held := none }
  /-- It reads a line. -/
  | line {line rest : List UInt8} (hm : s.held = none)
      (hl : splitLine s.inputEnded s.unread = some (line, rest)) :
      Reads s (handleLine { s with unread := rest } line)
  /-- It notices the end of input. -/
  | ended (hm : s.held = none) (hl : splitLine s.inputEnded s.unread = none)
      (he : s.inputEnded = true) : Reads s s.stop

/-- **What reading can be.** -/
theorem reads {s s' : Session} (h : s.read = some s') : s.stopped = false ∧ Reads s s' := by
  unfold read at h
  split at h
  · simp at h
  · next hs =>
    refine ⟨by simpa using hs, ?_⟩
    -- a command that is held goes first, and only without one is a line read
    split at h
    · next m hm =>
      split at h
      · next ha =>
        rw [← Option.some.inj h]
        exact .gaveUp hm ha
      · next ha =>
        split at h
        · next hq =>
          rw [← Option.some.inj h]
          exact .queued hm (by simpa using ha) hq
        · simp at h
    · next hm =>
      split at h
      · next line rest hl =>
        rw [← Option.some.inj h]
        exact .line hm hl
      · next hl =>
        split at h
        · next he =>
          rw [← Option.some.inj h]
          exact .ended hm hl he
        · simp at h

/-- Why the reader has to wait: the session has stopped, the queue is full, or no whole line is
there yet. -/
theorem read_eq_none {s : Session} (h : s.read = none) :
    s.stopped = true ∨ (s.held.isSome = true ∧ s.capacity ≤ s.queue.length) ∨
      (s.held = none ∧ splitLine s.inputEnded s.unread = none ∧ s.inputEnded = false) := by
  unfold read at h
  split at h
  · next hs => exact .inl hs
  · split at h
    · next m hm =>
      split at h
      · simp at h
      · split at h
        · simp at h
        · next hq => exact .inr (.inl ⟨by simp [hm], Nat.le_of_not_lt hq⟩)
    · next hm =>
      split at h
      · simp at h
      · next hl =>
        split at h
        · simp at h
        · next he => exact .inr (.inr ⟨hm, hl, by simpa using he⟩)

/-! ### What the parts of handling a command change -/

theorem exists_orUnchanged (s : Session) (time : Stamp) (line : String) :
    ∃ sent, s.orUnchanged (s.write time line) = { s with sent } := by
  unfold orUnchanged
  split
  · next h => exact ⟨_, sent_of_write h⟩
  · exact ⟨s.sent, rfl⟩

theorem exists_setPassword (s : Session) (given : String) :
    ∃ password, s.setPassword given = { s with password } := by
  unfold setPassword
  split
  · exact ⟨s.password, rfl⟩
  · exact ⟨some given, rfl⟩

theorem exists_settle (s : Session) : ∃ password, s.settle = { s with password } := by
  unfold settle
  split
  · exact exists_setPassword s ""
  · exact ⟨s.password, rfl⟩

theorem exists_handleCapability (s : Session) (m : Message) :
    ∃ capabilities password sent,
      s.handleCapability m = { s with capabilities, password, sent } := by
  -- LS, LIST and REQ are answered, which may fail; only END can settle the registration
  have hanswer : ∀ capabilities line, ∃ capabilities' password sent,
      { s with capabilities }.orUnchanged ({ s with capabilities }.write .clock line)
        = { s with capabilities := capabilities', password, sent } := by
    intro capabilities line
    obtain ⟨sent, h⟩ := exists_orUnchanged { s with capabilities } .clock line
    exact ⟨capabilities, s.password, sent, h⟩
  unfold handleCapability writeNow
  simp only
  split
  · exact hanswer _ _
  split
  · exact hanswer _ _
  split
  · exact hanswer _ _
  split
  · obtain ⟨password, h⟩ := exists_settle { s with capabilities := s.capabilities.start.finish }
    exact ⟨_, password, s.sent, h⟩
  · exact ⟨_, s.password, s.sent, rfl⟩

/-! ### The way of commands -/

/-- A session without its registration and the lines written. -/
def flow (s : Session) : Session :=
  { s with
    capabilities := {}, nick := "", nickChanges := 0, password := none, userSeen := false
    sent := [] }

@[simp] theorem queue_flow (s : Session) : s.flow.queue = s.queue := rfl

@[simp] theorem inputEnded_flow (s : Session) : s.flow.inputEnded = s.inputEnded := rfl

theorem flow_orUnchanged (s : Session) (time : Stamp) (line : String) :
    (s.orUnchanged (s.write time line)).flow = s.flow := by
  obtain ⟨sent, h⟩ := exists_orUnchanged s time line
  rw [h]
  rfl

/-- A command for the rest of the gateway. -/
def isForwarded (m : Message) : Bool :=
  !(["PING", "QUIT", "NICK", "PASS", "CAP"].contains m.command)

/-- **Handling a command.** While answers can be written, QUIT stops the session, a command for the
rest of the gateway is held, and any other has no part in the way of commands. -/
theorem flow_handle {s : Session} (hw : s.writeFault = none) (m : Message) :
    (s.handle m).flow =
      if m.command = "QUIT" then s.flow.stop
      else if isForwarded m then { s.flow with held := some m }
      else s.flow := by
  unfold handle
  by_cases hping : m.command = "PING"
  · have hf : isForwarded m = false := by simp [isForwarded, hping]
    have hquit : m.command ≠ "QUIT" := by simp [hping]
    -- the only command whose answer could stop the session
    rw [if_pos hping, if_neg hquit, hf, writeNow, write_of_up hw]
    rfl
  by_cases hquit : m.command = "QUIT"
  · rw [if_neg hping, if_pos hquit, if_pos hquit]
    rfl
  rw [if_neg hping, if_neg hquit, if_neg hquit]
  by_cases hnick : m.command = "NICK"
  · have hf : isForwarded m = false := by simp [isForwarded, hnick]
    rw [if_pos hnick, hf]
    split
    · next nick more _ =>
      obtain ⟨password, h⟩ := exists_settle { s with nick, nickChanges := s.nickChanges + 1 }
      rw [h]
      rfl
    · rfl
  rw [if_neg hnick]
  -- USER is handled and forwarded all the same
  by_cases huser : m.command = "USER"
  · have hf : isForwarded m = true := by simp [isForwarded, huser]
    obtain ⟨password, h⟩ := exists_settle { s with userSeen := true }
    rw [if_pos huser, hf, h]
    rfl
  rw [if_neg huser]
  by_cases hpass : m.command = "PASS"
  · have hf : isForwarded m = false := by simp [isForwarded, hpass]
    obtain ⟨password, h⟩ := exists_setPassword s (m.params.head?.getD "")
    rw [if_pos hpass, hf, h]
    rfl
  rw [if_neg hpass]
  by_cases hcap : m.command = "CAP"
  · have hf : isForwarded m = false := by simp [isForwarded, hcap]
    obtain ⟨capabilities, password, sent, h⟩ := exists_handleCapability s m
    rw [if_pos hcap, hf, h]
    rfl
  · have hf : isForwarded m = true := by simp [isForwarded, hping, hquit, hnick, hpass, hcap]
    rw [if_neg hcap, hf]
    rfl

end IrcGateway.Session
