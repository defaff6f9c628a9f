import IrcGateway.Proofs.Gateway.Turns
import IrcGateway.Proofs.Relay.Run
import IrcGateway.Proofs.Session.Registration

/-!
# Runs of a gateway

While a gateway serves a client, the client sends and leaves, the reader reads, the service delivers
events, time passes, the gateway may be told to stop, and the gateway itself takes its turns, under
answers of the service that may change. Each of these is an `Act`, and a run is any sequence of
them.

Along a run it is noted what the client has said, which commands and events the gateway has taken,
and what it did with them (`along`). An act is met in two ways. To the session it is a run of moves
(`exists_comesTo`), so that what holds along those holds here as well. To the gateway it is a turn
or something beside it (`happens`), and something beside it does not bring the gateway on.
-/

namespace IrcGateway.Gateway

open IrcGateway.Activity IrcGateway.Chat IrcGateway.Protocol IrcGateway.Relay IrcGateway.Service

/-- A gateway whose client has just connected. -/
def start (queueSize : Nat) (provider : Map.Provider) (keepsTimes : Bool) (store : Media.Store)
    (timeline : Timeline) : Gateway :=
  { connection := { session := .start queueSize, relay := .start {} store }
    provider, keepsTimes, timeline }

/-- What can happen to a gateway next. -/
inductive Act where
  /-- The client sends bytes. -/
  | receive (bytes : List UInt8)
  /-- The client ends its input. -/
  | endInput
  /-- The client's socket disappears. -/
  | dropClient
  /-- The reader acts, if it can. -/
  | read
  /-- The gateway is told to stop, which ends the reading at once (see `Session.read`). -/
  | cancel
  /-- The gateway takes a turn, if it is possible. -/
  | turn (client : Client) (token : String) (t : Turn)
  /-- The service delivers an event. -/
  | deliver (e : Event)
  /-- The service ends its events. -/
  | endEvents
  /-- Time passes, and the latest times are saved. -/
  | elapse (span : Nat)

namespace Act

/-- What an act does to the session by itself. -/
def move? : Act → Option Session.Move
  | receive bytes => some (.receive bytes)
  | endInput => some .endInput
  | dropClient => some .dropClient
  | read => some .read
  | cancel => some .stop
  | _ => none

/-- The gateway after an act. -/
def apply (g : Gateway) (act : Act) : Gateway :=
  match act with
  | turn client token t => (g.turn client token t).getD g
  | deliver e => g.deliverEvent e
  | endEvents => g.endEvents
  | elapse span => g.elapse span
  | act => g.withSession ((act.move?.map (Session.Move.apply g.session)).getD g.session)

/-- The bytes that reach the session. -/
def heard (g : Gateway) : Act → List UInt8
  | receive bytes => Session.Move.heard g.session (.receive bytes)
  | _ => []

/-- The command that the reader handles. -/
def said (g : Gateway) : Act → List Message
  | read => Session.Move.said g.session .read
  | _ => []

/-- What is noted of a turn, if the act is one and it is possible. -/
def ofTurn {α : Type} (note : Gateway → Turn → List α) (g : Gateway) : Act → List α
  | turn client token t => if (g.turn client token t).isSome then note g t else []
  | _ => []

end Act

/-- The gateway after a run. -/
def run (g : Gateway) (acts : List Act) : Gateway :=
  acts.foldl Act.apply g

/-- What is noted of each act along a run. -/
def along {α : Type} (note : Gateway → Act → List α) (g : Gateway) : List Act → List α
  | [] => []
  | act :: rest => note g act ++ along note (act.apply g) rest

@[simp] theorem run_nil (g : Gateway) : g.run [] = g := rfl

@[simp] theorem run_cons (g : Gateway) (act : Act) (rest : List Act) :
    g.run (act :: rest) = (act.apply g).run rest := rfl

theorem run_append (g : Gateway) (acts more : List Act) :
    g.run (acts ++ more) = (g.run acts).run more :=
  List.foldl_append

theorem along_append {α : Type} (note : Gateway → Act → List α) (g : Gateway)
    (acts more : List Act) :
    along note g (acts ++ more) = along note g acts ++ along note (g.run acts) more := by
  induction acts generalizing g with
  | nil => rfl
  | cons act rest ih => simp [along, ih]

/-- To deliver an event is at most to let it wait. -/
theorem exists_deliverEvent_eq (g : Gateway) (e : Event) :
    ∃ events, g.deliverEvent e = { g with events } := by
  unfold deliverEvent
  split
  · exact ⟨_, rfl⟩
  · split <;> exact ⟨_, rfl⟩

/-- What holds after a run and did not before comes about with one of its acts. -/
theorem exists_act_of_run {p : Gateway → Prop} {g : Gateway} {acts : List Act} (hbefore : ¬ p g)
    (hafter : p (g.run acts)) :
    ∃ before act after, acts = before ++ act :: after ∧ ¬ p (g.run before) ∧
      p (act.apply (g.run before)) := by
  induction acts generalizing g with
  | nil => exact absurd hafter hbefore
  | cons act rest ih =>
    by_cases hact : p (act.apply g)
    · exact ⟨[], act, rest, rfl, hbefore, hact⟩
    · obtain ⟨before, next, after, rfl, hrest⟩ := ih hact hafter
      exact ⟨act :: before, next, after, rfl, hrest⟩

/-! ### The session in an act -/

/-- Moves of the session that make up an act: the gateway goes on as it is, or it finishes. -/
inductive Goes (g : Gateway) (moves : List Session.Move) (g' : Gateway) : Prop where
  | on (hs : g'.session = g.session.run moves) (hf : g'.Finished ↔ g.Finished)
  | finishes (hs : g'.session = (g.session.run moves).stop.abandonQueue) (hf : g'.Finished)
      (hg : ¬ g.Finished)

theorem Turned.not_finished {g g' : Gateway} {client : Client} {token : String} {t : Turn}
    (h : Turned g client token t g') : ¬ g.Finished := by
  cases h with
  | abort hp ht =>
    obtain ⟨password, hp⟩ | ⟨nick, password, hp⟩ := hp <;>
      exact not_finished_of_phase hp (by simp)
  | _ => exact not_finished_of_phase ‹_› (by simp)

/-- The gateway's own moves bring nothing from the client. -/
theorem heard_said_of_own {s : Session} {moves : List Session.Move}
    (h : ∀ move ∈ moves, Own move) :
    Session.heard s moves = [] ∧ Session.said s moves = [] := by
  induction moves generalizing s with
  | nil => exact ⟨rfl, rfl⟩
  | cons move rest ih =>
    obtain ⟨hheard, hsaid⟩ := ih (s := move.apply s) fun m hm => h m (List.mem_cons_of_mem _ hm)
    have hmove := h move List.mem_cons_self
    rw [Session.heard, Session.said, hheard, hsaid]
    cases move with
    | take => exact ⟨rfl, rfl⟩
    | write => exact ⟨rfl, rfl⟩
    | _ => exact hmove.elim

/-- What an act comes to for the session. -/
structure ComesTo (g : Gateway) (act : Act) (moves : List Session.Move) : Prop where
  own : ∀ move ∈ moves, act.move? = some move ∨ Own move
  taken : Session.taken g.session moves = act.ofTurn took g
  heard : Session.heard g.session moves = act.heard g
  said : Session.said g.session moves = act.said g
  goes : Goes g moves (act.apply g)

theorem ComesTo.of_move {g : Gateway} {act : Act} (move : Session.Move)
    (hmove : act.move? = some move)
    (htaken : Session.Move.taken g.session move = act.ofTurn took g)
    (hheard : Session.Move.heard g.session move = act.heard g)
    (hsaid : Session.Move.said g.session move = act.said g)
    (happly : act.apply g = g.withSession (move.apply g.session)) : ComesTo g act [move] where
  own := by simp [hmove]
  taken := by rw [Session.taken, htaken, Session.taken, List.append_nil]
  heard := by rw [Session.heard, hheard, Session.heard, List.append_nil]
  said := by rw [Session.said, hsaid, Session.said, List.append_nil]
  goes := by
    rw [happly]
    exact .on rfl Iff.rfl

theorem ComesTo.of_nothing {g : Gateway} {act : Act} (htaken : act.ofTurn took g = [])
    (hheard : act.heard g = []) (hsaid : act.said g = [])
    (hsession : (act.apply g).session = g.session) (hphase : (act.apply g).phase = g.phase) :
    ComesTo g act [] where
  own := by simp
  taken := htaken.symm
  heard := hheard.symm
  said := hsaid.symm
  goes := .on hsession (by rw [Finished, Finished, hphase])

/-- **An act is a run of the session.** -/
theorem exists_comesTo (g : Gateway) (act : Act) : ∃ moves, ComesTo g act moves := by
  -- but for a turn of the gateway, an act is one move of the session or none
  cases act with
  | receive bytes => exact ⟨_, .of_move (.receive bytes) rfl rfl rfl rfl rfl⟩
  | endInput => exact ⟨_, .of_move .endInput rfl rfl rfl rfl rfl⟩
  | dropClient => exact ⟨_, .of_move .dropClient rfl rfl rfl rfl rfl⟩
  | read => exact ⟨_, .of_move .read rfl rfl rfl rfl rfl⟩
  | cancel => exact ⟨_, .of_move .stop rfl rfl rfl rfl rfl⟩
  | turn client token t =>
    cases hturn : g.turn client token t with
    | none =>
      exact ⟨[], .of_nothing (by simp [Act.ofTurn, hturn]) rfl rfl (by simp [Act.apply, hturn])
        (by simp [Act.apply, hturn])⟩
    | some g' =>
      -- a turn takes commands and writes lines, and reads nothing of what the client sends
      obtain ⟨moves, hown, htaken, hgoes⟩ := (turned hturn).moves
      obtain ⟨hheard, hsaid⟩ := heard_said_of_own (s := g.session) hown
      have hg := (turned hturn).not_finished
      have happly : Act.apply g (.turn client token t) = g' := by simp [Act.apply, hturn]
      refine ⟨moves, fun move hm => .inr (hown move hm), ?_, hheard, hsaid, ?_⟩
      · simpa [Act.ofTurn, hturn] using htaken
      · rw [happly]
        rcases hgoes with ⟨hf, hs⟩ | ⟨hf, hs⟩
        · exact .on hs ⟨fun h => absurd h hf, fun h => absurd h hg⟩
        · exact .finishes hs hf hg
  | deliver e =>
    obtain ⟨events, happly⟩ := exists_deliverEvent_eq g e
    exact ⟨[], .of_nothing rfl rfl rfl (by rw [Act.apply, happly]; rfl)
      (by rw [Act.apply, happly])⟩
  | endEvents => exact ⟨[], .of_nothing rfl rfl rfl rfl rfl⟩
  | elapse span => exact ⟨[], .of_nothing rfl rfl rfl rfl rfl⟩

/-! ### What the client has registered -/

theorem registered_apply {g : Gateway} {said : List Message}
    (h : Session.Registered said g.session) (act : Act) :
    Session.Registered (said ++ act.said g) (act.apply g).session := by
  obtain ⟨moves, hmoves⟩ := exists_comesTo g act
  have hrun := h.run moves
  rw [hmoves.said] at hrun
  cases hmoves.goes with
  | on hs => exact hs ▸ hrun
  | finishes hs => exact hs ▸ hrun.congr rfl rfl rfl rfl

/-- At every point of a run the session stands as the client's commands say. -/
theorem registered_run {g : Gateway} {said : List Message}
    (h : Session.Registered said g.session) (acts : List Act) :
    Session.Registered (said ++ along Act.said g acts) (g.run acts).session := by
  induction acts generalizing g said with
  | nil => simpa [along] using h
  | cons act rest ih =>
    rw [along, ← List.append_assoc, run_cons]
    exact ih (registered_apply h act)

/-- A password that is settled stays. -/
theorem password_apply {g : Gateway} {said : List Message}
    (h : Session.Registered said g.session) {password : String}
    (hp : g.session.password = some password) (act : Act) :
    (act.apply g).session.password = some password := by
  obtain ⟨moves, hmoves⟩ := exists_comesTo g act
  have hrun := (h.password_run (by simp [hp]) moves).trans hp
  cases hmoves.goes with
  | on hs => rw [hs, hrun]
  | finishes hs => exact hs ▸ hrun

/-! ### The gateway in an act -/

/-- What an act is to the gateway. -/
inductive Happens (g : Gateway) (act : Act) : Prop where
  /-- It takes a turn. -/
  | turn {client : Client} {token : String} {t : Turn} {g' : Gateway}
      (hact : act = .turn client token t) (happly : act.apply g = g')
      (ht : Turned g client token t g')
      (hnote : ∀ {α : Type} (note : Gateway → Turn → List α), act.ofTurn note g = note g t)
  /-- What others do, and a turn that is not possible, ask for nothing, tell the client nothing and
  do not bring the gateway on. -/
  | beside (hphase : (act.apply g).phase = g.phase) (hcalls : (act.apply g).calls = g.calls)
      (htalk : (act.apply g).session.talk = g.session.talk)
      (hstopped : g.session.stopped = true → (act.apply g).session.stopped = true)
      (hnote : ∀ {α : Type} (note : Gateway → Turn → List α), act.ofTurn note g = [])

theorem Happens.of_move {g : Gateway} {act : Act} (move : Session.Move)
    (hquiet : ∀ time line, move ≠ .write time line)
    (happly : act.apply g = g.withSession (move.apply g.session))
    (hnote : ∀ {α : Type} (note : Gateway → Turn → List α), act.ofTurn note g = []) :
    Happens g act := by
  refine .beside ?_ ?_ ?_ ?_ hnote <;> rw [happly]
  · rfl
  · rfl
  · exact Session.talk_move _ hquiet
  · exact fun hs => Session.stopped_move hs move

theorem happens (g : Gateway) (act : Act) : Happens g act := by
  -- only a turn that is possible is more than a move of the session or a change of what is awaited
  cases act with
  | receive bytes => exact .of_move (.receive bytes) (by simp) rfl fun _ => rfl
  | endInput => exact .of_move .endInput (by simp) rfl fun _ => rfl
  | dropClient => exact .of_move .dropClient (by simp) rfl fun _ => rfl
  | read => exact .of_move .read (by simp) rfl fun _ => rfl
  | cancel => exact .of_move .stop (by simp) rfl fun _ => rfl
  | turn client token t =>
    cases hturn : g.turn client token t with
    | none =>
      have happly : Act.apply g (.turn client token t) = g := by simp [Act.apply, hturn]
      exact .beside (by rw [happly]) (by rw [happly]) (by rw [happly]) (by rw [happly]; exact id)
        fun _ => by simp [Act.ofTurn, hturn]
    | some g' =>
      exact .turn rfl (by simp [Act.apply, hturn]) (turned hturn) fun _ => by
        simp [Act.ofTurn, hturn]
  | deliver e =>
    obtain ⟨events, happly⟩ := exists_deliverEvent_eq g e
    exact .beside (by rw [Act.apply, happly]) (by rw [Act.apply, happly])
      (by rw [Act.apply, happly]; rfl) (by rw [Act.apply, happly]; exact id) fun _ => rfl
  | endEvents => exact .beside rfl rfl rfl id fun _ => rfl
  | elapse span => exact .beside rfl rfl rfl id fun _ => rfl

/-! ### A client that comes in

Alice connects, the service lets her in, and an event of the group is delivered to her. -/

deriving instance DecidableEq for Phase

namespace Sample

/-- The service lets Alice in, whatever her password. -/
def client : Client :=
  { Relay.Sample.client with login := fun _ _ => some (.ok Relay.Sample.alice) }

def first : Gateway :=
  start 10 .openStreetMap false default {}

def say (text : String) : Act :=
  .receive (text.toList.map fun c => c.toNat.toUInt8)

def take (t : Turn) : Act :=
  .turn client "t" t

/-- Alice logs in, and the group is registered as an event of it comes. -/
def entering : List Act :=
  [say "PASS secret\r\nNICK alice\r\n", .read, .read, take .seePassword, take .logIn,
    take .hearAnswer] ++ List.replicate 6 (take .greet)
    ++ [.deliver (Relay.Sample.leave "n1" [Relay.Sample.bob]), take .event]

end Sample

end IrcGateway.Gateway
