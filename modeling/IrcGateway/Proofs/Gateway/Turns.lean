import IrcGateway.Gateway
import IrcGateway.Proofs.Relay.Handling
import IrcGateway.Proofs.Session.Answers

/-!
# What a gateway does in a turn

`Turned` names the ways a turn can go, each with all that holds on it, and `turned` says that there
are no others. What a turn does to the session is one or more of the moves of the gateway's side:
it takes a command, writes lines, and when it is the last turn stops the session
(`Turned.moves`).
-/

namespace IrcGateway.Gateway

open IrcGateway.Activity IrcGateway.Chat IrcGateway.Protocol IrcGateway.Relay IrcGateway.Service

/-- The service has not accepted the login yet. -/
def Early (g : Gateway) : Prop :=
  (∃ password, g.phase = .login password) ∨ ∃ nick password, g.phase = .connecting nick password

/-- A turn of the gateway, by what it does. -/
inductive Turned (g : Gateway) (client : Client) (token : String) : Turn → Gateway → Prop where
  /-- The login is called for, with nick and password as they are now. -/
  | logIn {password : String} (hp : g.phase = .login (some password)) (hn : g.session.nick ≠ "") :
      Turned g client token .logIn
        { g with
          phase := .connecting g.session.nick password
          calls := g.calls ++ [.login g.session.nick password] }
  | seePassword {password : String} (hp : g.phase = .login none)
      (hs : g.session.password = some password) :
      Turned g client token .seePassword { g with phase := .login (some password) }
  /-- The client left before it was logged in. -/
  | abort {t : Turn} (hp : g.Early)
      (ht : t = .noticeStop ∨ (t = .command ∧ g.session.queue = [])) :
      Turned g client token t (g.finish (.error .loginAborted))
  /-- A command that comes before the login is thrown away. -/
  | ignore {password : Option String} {m : Message} {rest : List Message}
      (hp : g.phase = .login password) (hq : g.session.queue = m :: rest) :
      Turned g client token .command (g.withSession { g.session with queue := rest })
  | accept {nick password : String} {account : Account} (hp : g.phase = .connecting nick password)
      (ha : client.login nick password = some (.ok account)) :
      Turned g client token .hearAnswer { g with phase := .greeting account (greeting nick) }
  /-- The service refuses the login, and the client is told so. -/
  | refuse {nick password : String} {fault : Fault} (hp : g.phase = .connecting nick password)
      (ha : client.login nick password = some (.error fault)) :
      Turned g client token .hearAnswer
        ((g.withSession (g.session.orUnchanged
          (g.session.status ("error while connecting: " ++ fault.message)))).finish
            (.error (.connect fault)))
  | greet {account : Account} {line : String} {rest : List String} {s : Session}
      (hp : g.phase = .greeting account (line :: rest)) (hw : g.session.writeNow line = .ok s) :
      Turned g client token .greet { g.withSession s with phase := .greeting account rest }
  /-- The client did not hear the greeting to its end. -/
  | unheard {account : Account} {line : String} {rest : List String} {e : WriteError}
      (hp : g.phase = .greeting account (line :: rest)) (hw : g.session.writeNow line = .error e) :
      Turned g client token .greet (g.finish (.error (.write e)))
  | begin {account : Account} (hp : g.phase = .greeting account []) :
      Turned g client token .greet (g.beginServing client account)
  /-- The session has stopped. -/
  | leave {account : Account} (hp : g.phase = .serving account) (hs : g.session.stopped = true) :
      Turned g client token .noticeStop (g.finish (.ok ()))
  | event {account : Account} {e : Event} {rest : List Event} (hp : g.phase = .serving account)
      (hs : g.session.stopped = false) (he : g.events = e :: rest) :
      Turned g client token .event ({ g with events := rest }.handleEvent client token account e)
  /-- The service has ended its events, and the client is told so. -/
  | lose {account : Account} (hp : g.phase = .serving account) (hs : g.session.stopped = false)
      (he : g.events = []) (hend : g.eventsEnded = true) :
      Turned g client token .event
        ((g.withSession (g.session.orUnchanged
          (g.session.status "connection to the messaging service closed"))).finish (.ok ()))
  | command {account : Account} {m : Message} {rest : List Message}
      (hp : g.phase = .serving account) (hs : g.session.stopped = false) (he : g.events = [])
      (hend : g.eventsEnded = false) (hq : g.session.queue = m :: rest) :
      Turned g client token .command
        ((g.withSession { g.session with queue := rest }).handleCommand client m)

/-- **The ways a turn can go.** -/
theorem turned {g g' : Gateway} {client : Client} {token : String} {t : Turn}
    (h : g.turn client token t = some g') : Turned g client token t g' := by
  -- what the session hands out tells how its queue stood
  have hqueue : ∀ {m s}, g.session.take = (.command m, s) →
      ∃ rest, g.session.queue = m :: rest ∧ s = { g.session with queue := rest } := by
    intro m s htake
    unfold Session.take at htake
    split at htake
    · next first rest hq =>
      obtain ⟨hm, rfl⟩ := Prod.mk.inj htake
      obtain rfl := Session.Taken.command.inj hm
      exact ⟨rest, hq, rfl⟩
    · have := (Prod.mk.inj htake).1
      split at this <;> simp at this
  have hnone : ∀ {s}, g.session.take = (.closed, s) → g.session.queue = [] := by
    intro s htake
    unfold Session.take at htake
    split at htake
    · simp at htake
    · next hq => exact hq
  -- the cases are those of `turn`: one for each phase and each turn that is possible in it
  unfold turn at h
  split at h
  case h_1 password hp =>
    split at h
    · simp at h
    · next hn => exact Option.some.inj h ▸ .logIn hp hn
  case h_2 hp =>
    obtain ⟨password, hs, rfl⟩ := Option.map_eq_some_iff.mp h
    exact .seePassword hp hs
  case h_3 password hp =>
    split at h
    · exact Option.some.inj h ▸ .abort (.inl ⟨password, hp⟩) (.inl rfl)
    · simp at h
  case h_4 password hp =>
    split at h
    · next m s htake =>
      obtain ⟨rest, hq, rfl⟩ := hqueue htake
      exact Option.some.inj h ▸ .ignore hp hq
    · next htake =>
      exact Option.some.inj h ▸ .abort (.inl ⟨password, hp⟩) (.inr ⟨rfl, hnone htake⟩)
    · simp at h
  case h_5 nick password hp =>
    -- the login is answered
    split at h
    · simp at h
    · next account ha => exact Option.some.inj h ▸ .accept hp ha
    · next fault ha => exact Option.some.inj h ▸ .refuse hp ha
  case h_6 nick password hp =>
    split at h
    · exact Option.some.inj h ▸ .abort (.inr ⟨nick, password, hp⟩) (.inl rfl)
    · simp at h
  case h_7 account line rest hp =>
    -- one more line of the greeting
    split at h
    · next s hw => exact Option.some.inj h ▸ .greet hp hw
    · next e hw => exact Option.some.inj h ▸ .unheard hp hw
  case h_8 account hp => exact Option.some.inj h ▸ .begin hp
  -- from here on the client is served: the stop goes first, then events, then commands
  case h_9 account hp =>
    split at h
    · next hs => exact Option.some.inj h ▸ .leave hp hs
    · simp at h
  case h_10 account hp =>
    split at h
    · simp at h
    · next hs =>
      rw [Bool.not_eq_true] at hs
      split at h
      · next e rest he => exact Option.some.inj h ▸ .event hp hs he
      · next he =>
        split at h
        · next hend => exact Option.some.inj h ▸ .lose hp hs he hend
        · simp at h
  case h_11 account hp =>
    split at h
    · simp at h
    · next hwait =>
      simp only [not_or, Bool.not_eq_true, not_not] at hwait
      obtain ⟨hs, he, hend⟩ := hwait
      split at h
      · next m s htake =>
        obtain ⟨rest, hq, rfl⟩ := hqueue htake
        exact Option.some.inj h ▸ .command hp hs he hend hq
      · simp at h
  case h_12 => simp at h

/-! ### The parts of a turn -/

/-- The login is called for. -/
def isLogin : Call → Bool
  | .login .. => true
  | _ => false

/-- A text is sent to a chat. -/
def isSend : Call → Bool
  | .send .. => true
  | _ => false

/-- Handling an event neither logs in nor sends anything. -/
theorem calls_handle {c : Circumstances} {s : Relay.State} {e : Event} {call : Call}
    (h : call ∈ (Relay.handle c s e).calls) : isLogin call = false ∧ isSend call = false := by
  rcases Relay.mem_calls_handle h with rfl | ⟨event, hash, rfl⟩ <;> exact ⟨rfl, rfl⟩

/-- What is asked of the service when the gateway acts on a command: a private message with a text
goes to the chat that its target finds. -/
def wanted (roster : Roster) (m : Message) : List Call :=
  if m.command = "PRIVMSG" then
    match m.params with
    | target :: text :: _ => (roster.byName? target).toList.map fun room => .send room.id text
    | _ => []
  else []

/-- The gateway after it has asked for what a command wants. -/
def asking (g : Gateway) (m : Message) : Gateway :=
  { g with calls := g.calls ++ wanted g.connection.relay.roster m }

/-- A command is acted on by asking for what it wants, and perhaps the client is told something. -/
theorem handleCommand_cases (g : Gateway) (client : Client) (m : Message) :
    g.handleCommand client m = g.asking m ∨
      ∃ line, g.handleCommand client m
        = (g.asking m).afterWrite ((g.asking m).session.write .clock line) := by
  -- a command that wants nothing leaves the gateway as it is, but for what the client is told
  have hnothing : wanted g.connection.relay.roster m = [] → g.asking m = g := by
    intro h
    rw [asking, h, List.append_nil]
  unfold handleCommand
  by_cases hm : m.command = "PRIVMSG"
  · rw [if_pos hm]
    unfold handlePrivateMessage
    split
    · next target text more hp =>
      split
      · next hroom =>
        rw [hnothing (by simp [wanted, hm, hp, hroom])]
        exact .inr ⟨_, rfl⟩
      · next room hroom =>
        have hsend : g.asking m = { g with calls := g.calls ++ [.send room.id text] } := by
          simp [asking, wanted, hm, hp, hroom]
        rw [hsend]
        simp only
        split
        · exact .inl rfl
        · exact .inr ⟨_, rfl⟩
    · -- without a target and a text nothing is wanted
      next hp =>
      have hshort : wanted g.connection.relay.roster m = [] := by
        unfold wanted
        rw [if_pos hm]
        split
        · next target text more hp' => exact absurd hp' (hp target text more)
        · rfl
      rw [hnothing hshort]
      exact .inr ⟨_, rfl⟩
  · rw [if_neg hm, hnothing (by simp [wanted, hm])]
    exact .inl rfl

theorem calls_afterWrite (g : Gateway) (attempt : Except WriteError Session) :
    (g.afterWrite attempt).calls = g.calls := by
  cases attempt <;> rfl

/-- **A command asks for just what it wants.** -/
theorem calls_handleCommand (g : Gateway) (client : Client) (m : Message) :
    (g.handleCommand client m).calls = g.calls ++ wanted g.connection.relay.roster m := by
  rcases g.handleCommand_cases client m with h | ⟨line, h⟩
  · rw [h]
    rfl
  · rw [h, calls_afterWrite]
    rfl

/-- The gateway serves on behind a command, unless the client could not be told of it. -/
theorem phase_handleCommand (g : Gateway) (client : Client) (m : Message) :
    (g.handleCommand client m).phase = g.phase ∨
      ∃ e, (g.handleCommand client m).phase = .finished (.error (.write e)) ∧
        (g.handleCommand client m).session.stopped = true := by
  rcases g.handleCommand_cases client m with h | ⟨line, h⟩
  · exact .inl (by rw [h]; rfl)
  · rw [h]
    unfold afterWrite
    split
    · exact .inl rfl
    · next e _ => exact .inr ⟨e, rfl, rfl⟩

theorem isSend_of_mem_wanted {roster : Roster} {m : Message} {call : Call}
    (h : call ∈ wanted roster m) : isLogin call = false ∧ isSend call = true := by
  unfold wanted at h
  split at h
  · split at h
    · obtain ⟨room, -, rfl⟩ := List.mem_map.mp h
      exact ⟨rfl, rfl⟩
    · simp at h
  · simp at h

/-- A move of the gateway's side while it goes on: it takes a command or writes a line. -/
def Own : Session.Move → Prop
  | .take => True
  | .write _ _ => True
  | _ => False

theorem exists_run_writeLines (s : Session) (lines : List Dated) :
    ∃ moves, (∀ move ∈ moves, Own move) ∧ Session.taken s moves = [] ∧
      Connection.writeLines s lines = s.run moves := by
  induction lines generalizing s with
  | nil => exact ⟨[], by simp, rfl, rfl⟩
  | cons line rest ih =>
    obtain ⟨moves, hown, htaken, hrun⟩ := ih (s.orUnchanged (s.write line.stamp line.line))
    refine ⟨.write line.stamp line.line :: moves, ?_, htaken, hrun⟩
    simpa [Own] using hown

/-- What becomes of a gateway while it relays an event. -/
structure Relayed (g g' : Gateway) : Prop where
  phase : g'.phase = g.phase
  eventsEnded : g'.eventsEnded = g.eventsEnded
  calls : ∃ more, g'.calls = g.calls ++ more ∧
    ∀ call ∈ more, isLogin call = false ∧ isSend call = false
  session : ∃ moves, (∀ move ∈ moves, Own move) ∧ Session.taken g.session moves = [] ∧
    g'.session = g.session.run moves

theorem Relayed.write {g g' : Gateway} (h : Relayed g g') (time : Time.Stamp) (line : String) :
    Relayed g (g'.withSession (g'.session.orUnchanged (g'.session.write time line))) := by
  obtain ⟨moves, hown, htaken, hrun⟩ := h.session
  refine ⟨h.phase, h.eventsEnded, h.calls, moves ++ [.write time line], ?_, ?_, ?_⟩
  · simp only [List.mem_append, List.mem_singleton]
    rintro move (hmem | rfl)
    · exact hown move hmem
    · trivial
  · rw [Session.taken_append, htaken]
    rfl
  · rw [Session.run_append, ← hrun]
    rfl

theorem relayed_handleEvent (g : Gateway) (client : Client) (token : String) (account : Account)
    (e : Event) : Relayed g (g.handleEvent client token account e) := by
  obtain ⟨moves, hown, htaken, hrun⟩ := exists_run_writeLines g.session
    (g.connection.handleEvent account g.provider client token e).2.lines
  have hcalls : ∀ call ∈ (g.connection.handleEvent account g.provider client token e).2.calls,
      isLogin call = false ∧ isSend call = false :=
    fun call hmem => calls_handle hmem
  -- waiting for a file changes neither the session nor what was asked for
  have hplain : ∀ waited : Bool,
      let g' : Gateway :=
        { g with
          connection := (g.connection.handleEvent account g.provider client token e).1
          calls := g.calls ++ (g.connection.handleEvent account g.provider client token e).2.calls }
      Relayed g (if waited then g'.elapse 0 else g') := by
    intro waited
    cases waited <;> exact ⟨rfl, rfl, ⟨_, rfl, hcalls⟩, moves, hown, htaken, hrun⟩
  unfold handleEvent
  simp only
  split
  · -- the client is told of a notification that cannot be shown
    exact (hplain _).write _ _
  · exact hplain _

/-! ### The session in a turn -/

@[simp] theorem phase_withSession (g : Gateway) (s : Session) : (g.withSession s).phase = g.phase :=
  rfl

theorem run_take {s : Session} {m : Message} {rest : List Message} (hq : s.queue = m :: rest) :
    s.run [.take] = { s with queue := rest } ∧ Session.taken s [.take] = [m] := by
  rw [Session.taken, Session.Move.taken_take, Session.run_cons, Session.Move.apply, Session.take,
    hq]
  exact ⟨rfl, rfl⟩

/-- The command that a turn takes from the queue. -/
def took (g : Gateway) : Turn → List Message
  | .command => g.session.queue.head?.toList
  | _ => []

/-- The command that a turn throws away, which is what the gateway does with all before the
login. -/
def ignored (g : Gateway) (t : Turn) : List Message :=
  match g.phase with
  | .login _ => took g t
  | _ => []

/-- The command that a turn acts on. -/
def obeyed (g : Gateway) (t : Turn) : List Message :=
  match g.phase with
  | .serving _ => took g t
  | _ => []

/-- The event that a turn handles. -/
def tended (g : Gateway) : Turn → List Event
  | .event => g.events.head?.toList
  | _ => []

/-- Serving is over. -/
def Finished (g : Gateway) : Prop :=
  ∃ result, g.phase = .finished result

/-- A session after some moves is that of a gateway that goes on, or that has finished with it. -/
def HandsOn (s : Session) (g : Gateway) : Prop :=
  (¬ g.Finished ∧ g.session = s) ∨ (g.Finished ∧ g.session = s.stop.abandonQueue)

theorem handsOn_finish (g : Gateway) (result : Except GatewayError Unit) :
    HandsOn g.session (g.finish result) :=
  .inr ⟨⟨result, rfl⟩, rfl⟩

theorem handsOn_afterWrite {g : Gateway} (hg : ¬ g.Finished) (time : Time.Stamp) (line : String) :
    HandsOn (g.session.orUnchanged (g.session.write time line))
      (g.afterWrite (g.session.write time line)) := by
  unfold Session.orUnchanged
  cases hw : g.session.write time line with
  | ok s => exact .inl ⟨hg, rfl⟩
  | error e => exact handsOn_finish g _

theorem handsOn_handleCommand {g : Gateway} (hg : ¬ g.Finished) (client : Client) (m : Message) :
    HandsOn g.session (g.handleCommand client m) ∨
      ∃ line, HandsOn (g.session.orUnchanged (g.session.write .clock line))
        (g.handleCommand client m) := by
  rcases g.handleCommand_cases client m with h | ⟨line, h⟩
  · exact .inl (h ▸ .inl ⟨hg, rfl⟩)
  · rw [h]
    exact .inr ⟨line, handsOn_afterWrite (g := g.asking m) hg .clock line⟩

/-- A turn moves the session: it takes its command and writes, and perhaps it is the last one. -/
def Moves (g : Gateway) (t : Turn) (g' : Gateway) : Prop :=
  ∃ moves, (∀ move ∈ moves, Own move) ∧ Session.taken g.session moves = took g t ∧
    HandsOn (g.session.run moves) g'

theorem Moves.quiet {g g' : Gateway} {t : Turn} (ht : took g t = []) (h : HandsOn g.session g') :
    Moves g t g' :=
  ⟨[], by simp, ht.symm, h⟩

theorem Moves.told {g g' : Gateway} {t : Turn} (ht : took g t = []) (time : Time.Stamp)
    (line : String) (h : HandsOn (g.session.orUnchanged (g.session.write time line)) g') :
    Moves g t g' :=
  ⟨[.write time line], by simp [Own], ht.symm, h⟩

theorem not_finished_of_phase {g : Gateway} {phase : Phase} (hp : g.phase = phase)
    (h : ∀ result, phase ≠ .finished result) : ¬ g.Finished := by
  rintro ⟨result, hr⟩
  exact h result (hp.symm.trans hr)

/-- **What a turn does to the session.** -/
theorem Turned.moves {g g' : Gateway} {client : Client} {token : String} {t : Turn}
    (h : Turned g client token t g') : Moves g t g' := by
  cases h with
  | logIn hp hn => exact .quiet rfl (.inl ⟨by simp [Finished], rfl⟩)
  | seePassword hp hs => exact .quiet rfl (.inl ⟨by simp [Finished], rfl⟩)
  | abort hp ht =>
    refine .quiet ?_ (handsOn_finish g _)
    rcases ht with rfl | ⟨rfl, hq⟩
    · rfl
    · simp [took, hq]
  | ignore hp hq =>
    obtain ⟨hrun, htaken⟩ := run_take hq
    refine ⟨[.take], by simp [Own], by simp [htaken, took, hq], ?_⟩
    rw [hrun]
    exact .inl ⟨not_finished_of_phase hp (by simp), rfl⟩
  | accept hp ha => exact .quiet rfl (.inl ⟨by simp [Finished], rfl⟩)
  | refuse hp ha => exact .told rfl _ _ (handsOn_finish _ _)
  | @greet account line rest s hp hw =>
    refine .told rfl .clock line (.inl ⟨by simp [Finished], ?_⟩)
    rw [show g.session.write .clock line = .ok s from hw]
    rfl
  | unheard hp hw => exact .quiet rfl (handsOn_finish g _)
  | begin hp => exact .quiet rfl (.inl ⟨by simp [Finished, beginServing], rfl⟩)
  | leave hp hs => exact .quiet rfl (handsOn_finish g _)
  | @event account e rest hp hs he =>
    -- the lines of an event are written one after the other
    have hrelayed := relayed_handleEvent { g with events := rest } client token account e
    obtain ⟨moves, hown, htaken, hrun⟩ := hrelayed.session
    have hphase := hrelayed.phase.trans hp
    exact ⟨moves, hown, htaken, .inl ⟨not_finished_of_phase hphase (by simp), hrun⟩⟩
  | lose hp hs he hend => exact .told rfl _ _ (handsOn_finish _ _)
  | @command account m rest hp hs he hend hq =>
    obtain ⟨hrun, htaken⟩ := run_take hq
    have hgoes := handsOn_handleCommand (g := g.withSession { g.session with queue := rest })
      (not_finished_of_phase hp (by simp)) client m
    -- the command is taken, and perhaps a line is written behind that
    rcases hgoes with hgoes | ⟨line, hgoes⟩
    · refine ⟨[.take], by simp [Own], by simp [htaken, took, hq], ?_⟩
      rw [hrun]
      exact hgoes
    · refine ⟨[.take] ++ [.write .clock line], by simp [Own], ?_, ?_⟩
      · rw [Session.taken_append, htaken, took, hq]
        rfl
      · rw [Session.run_append, hrun]
        exact hgoes

/-- What the client was told before a turn it was told after it. -/
theorem Turned.talk_prefix {g g' : Gateway} {client : Client} {token : String} {t : Turn}
    (h : Turned g client token t g') : g.session.talk <+: g'.session.talk := by
  obtain ⟨moves, -, -, hgoes⟩ := h.moves
  have hrun := Session.talk_prefix_run g.session moves
  rcases hgoes with ⟨-, hs⟩ | ⟨-, hs⟩
  · exact hs ▸ hrun
  · exact hs ▸ hrun

/-- Only the service ends its events. -/
theorem Turned.eventsEnded {g g' : Gateway} {client : Client} {token : String} {t : Turn}
    (h : Turned g client token t g') : g'.eventsEnded = g.eventsEnded := by
  cases h with
  | event => exact (relayed_handleEvent _ _ _ _ _).eventsEnded
  | @command account m rest =>
    rcases handleCommand_cases (g.withSession { g.session with queue := rest }) client m with
      h | ⟨line, h⟩
    · rw [h]
      rfl
    · rw [h]
      unfold afterWrite
      split <;> rfl
  | _ => rfl

end IrcGateway.Gateway
