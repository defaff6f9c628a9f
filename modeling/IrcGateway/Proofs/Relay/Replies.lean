import IrcGateway.Gateway
import IrcGateway.Proofs.Chat.Registration
import IrcGateway.Proofs.Relay.Run

/-!
# Whom a reply reaches

A client answers a message by writing to the nick it came from. What another person says in a direct
chat comes from the usable form of that person's name, and the chat has asked for the same name, but
it need not have got it: of several chats that ask for one name only the first does. So the reply
always finds a chat, and it finds the chat of the message exactly if the name was not taken when
that chat was registered (`reply_reaches_iff_first`). Who has the name has it for ever, and the
reply reaches the same chat however late it comes.
-/

namespace IrcGateway.Relay

open IrcGateway.Activity IrcGateway.Chat IrcGateway.Media IrcGateway.Protocol IrcGateway.Service

/-! ### Names in the order of registration -/

theorem inTurn_handle (c : Circumstances) (s : State) (e : Event) (hs : s.roster.InTurn) :
    (handle c s e).state.roster.InTurn := by
  rcases cards_handle c s e with hcards | ⟨members, -, -, hcards⟩
  · exact hs.of_cards_eq hcards
  · exact hs.concat rfl hcards

theorem inTurn_run {s : State} (hs : s.roster.InTurn) (steps : List Step) :
    (run s steps).roster.InTurn :=
  run_roster_induction inTurn_handle hs steps

/-! ### The nick that a message comes from -/

section Lines

variable {c : Circumstances} {s : State} {e : Event}

/-- A message has a line at least, also if it has no text. -/
theorem messageLines_ne_nil (render : Event → String) (nick : String) (roster : Roster)
    (room : Room) (e : Event) : messageLines render nick roster room e ≠ [] := by
  have htext : textLines (render e) ≠ [] := by
    unfold textLines
    split
    · simp
    · next hne => simpa using hne
  unfold messageLines textMessages
  simp [htext]

theorem lines_ne_nil_of_passes (hup : c.Up) (hp : passes c s e = true)
    (hsaid : e.isNotification = false) (hweb : e.isSentByMeFromWeb = false)
    (hmedia : e.media = none) : (handle c s e).lines ≠ [] := by
  obtain ⟨calls, roster, room, -, hhandle⟩ := handle_of_passes hp
  rw [hhandle]
  refine List.append_ne_nil_of_right_ne_nil _ ?_
  simp only [handleFirst, hweb, hsaid, Bool.false_eq_true, if_false, relayMessage, storeMedia,
    hmedia, deliver_of_up hup]
  exact messageLines_ne_nil _ _ _ _ _

/-- What a person says in a direct chat comes from the usable form of that person's name, and goes
to the client. -/
theorem exists_privmsg_of_mem_handle (hp : passes c s e = true) {room : Room}
    (hroom : (handle c s e).state.roster.byId? e.chat.id = some room)
    (hdirect : room.isGroup = false) (hsaid : e.isNotification = false)
    (hother : e.isSentByMe = false) {p : Contact} (hsender : e.sender = some p) {d : Dated}
    (hd : d ∈ (handle c s e).lines) :
    ∃ text, d = ⟨e.stamp, (Line.privmsg p.safeName c.nick text).text⟩ := by
  obtain ⟨calls, roster, found, h, hhandle⟩ := handle_of_passes hp
  have hfound : found.isGroup = false := by
    obtain ⟨change, hmarks, hafter⟩ := exists_marks_room h
    rw [hroom, Option.some.injEq] at hafter
    rw [← hmarks.keeps.isGroup, ← hafter, hdirect]
  -- a direct chat has no channel to be brought into
  have hnone : burst c found = [] := burst_eq_nil c (by simp [hfound])
  simp only [hhandle, hnone, List.nil_append] at hd
  rcases of_mem_handleFirst hd with ⟨hn, -⟩ | ⟨-, render, hd⟩
  · simp [hsaid] at hn
  · obtain ⟨mark, text, line, -, -, rfl⟩ := exists_privmsg_of_mem_messageLines hd
    refine ⟨mark ++ line, ?_⟩
    simp [speaker, target, hother, hsender, hfound]

end Lines

/-! ### Replies -/

/-- A private message goes to the chat that its target finds, whatever becomes of it there. -/
theorem calls_handleCommand {g : Gateway} {client : Client} {m : Message} {name text : String}
    {more : List String} {room : Room} (hcommand : m.command = "PRIVMSG")
    (hparams : m.params = name :: text :: more)
    (hroom : g.connection.relay.roster.byName? name = some room) :
    (g.handleCommand client m).calls = g.calls ++ [.send room.id text] := by
  rw [Gateway.handleCommand, if_pos hcommand, hparams, Gateway.handlePrivateMessage]
  simp only [hroom]
  split
  · rfl
  · unfold Gateway.afterWrite
    split <;> rfl

/-- **Whom a reply reaches.** Along any run, let a person say something in a direct chat whose title
has the same usable form as the person's name. The client is sent lines, and they come from that
form. From then on a private message to it goes to one chat, and that is the chat of the person
exactly if no chat registered before had the name. -/
theorem reply_reaches_iff_first (activity : Tracker) (store : Store) (steps : List Step)
    (c : Circumstances) (e : Event) (p : Contact) (room : Room)
    (hp : passes c (run (.start activity store) steps) e = true)
    (hroom : (handle c (run (.start activity store) steps) e).state.roster.byId? e.chat.id
      = some room)
    (hdirect : room.isGroup = false) (hsaid : e.isNotification = false)
    (hother : e.isSentByMe = false) (hsender : e.sender = some p)
    (hname : p.safeName = safeName room.name room.id.user) :
    let o := handle c (run (.start activity store) steps) e
    (∀ d ∈ o.lines, ∃ text, d = ⟨e.stamp, (Line.privmsg p.safeName c.nick text).text⟩) ∧
    (c.Up → e.isSentByMeFromWeb = false → e.media = none → o.lines ≠ []) ∧
    ∀ later : List Step, ∃ found,
      (run o.state later).roster.byName? p.safeName = some found ∧
      (found.id = e.chat.id ↔ (o.state.roster.before e.chat.id).isTaken p.safeName = false) ∧
      ∀ (g : Gateway) (client : Client) (m : Message) (text : String) (more : List String),
        g.connection.relay = run o.state later → m.command = "PRIVMSG" →
        m.params = p.safeName :: text :: more →
        (g.handleCommand client m).calls = g.calls ++ [.send found.id text] := by
  intro o
  refine ⟨fun d hd => exists_privmsg_of_mem_handle hp hroom hdirect hsaid hother hsender hd,
    fun hup hweb hmedia => lines_ne_nil_of_passes hup hp hsaid hweb hmedia, fun later => ?_⟩
  have hasked : room.asked = p.safeName := by
    rw [hname, Room.asked, Room.baseName, hdirect]
    exact String.empty_append
  have hd : o.state.roster.Distinct := distinct_handle c e (distinct_run_start activity store steps)
  have ht : o.state.roster.InTurn := inTurn_handle c _ e (inTurn_run Roster.InTurn.empty steps)
  obtain ⟨now, hnow, hiff⟩ := ht.byName?_asked hd hroom
  rw [hasked] at hnow hiff
  -- the room that has the name now keeps it
  obtain ⟨found, hfound, hcard⟩ := (extends_run o.state later).byName? hnow
  have hid : found.id = now.id := (Room.card_eq_iff.mp hcard).1
  refine ⟨found, hfound, hid ▸ hiff, ?_⟩
  intro g client m text more hrelay hcommand hparams
  exact calls_handleCommand hcommand hparams (hrelay ▸ hfound)

section Sample

/-- The direct chat with somebody called Bob. -/
def Sample.bobOf (user : String) : Service.Chat :=
  ⟨⟨user, "c.us"⟩, "Bob", false⟩

/-- The other person says something in a direct chat. -/
def Sample.say (id : String) (chat : Service.Chat) (body : String) : Event :=
  { id, chat, timestamp := 0, sender := some { id := chat.id, name := chat.name }, body }

/-- Bob wrote first. Whatever happens after the second message, also if another Bob writes, the
reply to it reaches him. -/
theorem reply_reaches_first_bob :
    let bob := Sample.bobOf "31611111111"
    let steps := [Step.deliver Sample.plain (Sample.say "m1" bob "hello")]
    let e := Sample.say "m2" bob "are you there?"
    let o := handle Sample.plain (run (.start {} default) steps) e
    (passes Sample.plain (run (.start {} default) steps) e = true ∧
      o.lines.map (·.line) = [":Bob PRIVMSG alice :are you there?"]) ∧
    ∀ later : List Step, ∃ found,
      (run o.state later).roster.byName? "Bob" = some found ∧ found.id = bob.id := by
  intro bob steps e o
  have hp : passes Sample.plain (run (.start {} default) steps) e = true := by decide +kernel
  have hroom : (o.state.roster.byId? bob.id).isSome = true := by decide +kernel
  have hcard : (o.state.roster.byId? bob.id).map (fun room => (room.isGroup, room.name, room.id))
      = some (false, "Bob", bob.id) := by decide +kernel
  refine ⟨⟨hp, by decide +kernel⟩, fun later => ?_⟩
  obtain ⟨room, hroom⟩ := Option.isSome_iff_exists.mp hroom
  rw [hroom, Option.map_some, Option.some.injEq, Prod.mk.injEq, Prod.mk.injEq] at hcard
  obtain ⟨hdirect, hname, hid⟩ := hcard
  -- Bob speaks under the name that his chat was registered with
  have hnames : ({ id := bob.id, name := bob.name } : Contact).safeName
      = safeName room.name room.id.user := by
    rw [hname, hid]
    decide +kernel
  obtain ⟨-, -, hreply⟩ := reply_reaches_iff_first {} default steps Sample.plain e
    { id := bob.id, name := bob.name } room hp hroom hdirect rfl rfl rfl hnames
  obtain ⟨found, hfound, hiff, -⟩ := hreply later
  have hsafe : ({ id := bob.id, name := bob.name } : Contact).safeName = "Bob" := by decide +kernel
  rw [hsafe] at hfound hiff
  exact ⟨found, hfound, hiff.mpr (by decide +kernel)⟩

/-- Of two people called Bob the second is registered under a number, but what he says comes from
the nick of the first, and so a reply to him reaches the first. -/
theorem reply_to_second_bob_reaches_first :
    let first := Sample.bobOf "31611111111"
    let second := Sample.bobOf "31622222222"
    let before := run (.start {} default) [.deliver Sample.plain (Sample.say "m1" first "hello")]
    let o := handle Sample.plain before (Sample.say "m2" second "are you there?")
    let g : Gateway := { connection := { session := .start 1, relay := o.state } }
    o.lines.map (·.line) = [":Bob PRIVMSG alice :are you there?"] ∧
      (o.state.roster.byId? second.id).map (·.identifier) = some "Bob_2" ∧
      (o.state.roster.byName? "Bob").map (·.id) ≠ some second.id ∧
      (g.handleCommand Sample.client { command := "PRIVMSG", params := ["Bob", "yes"] }).calls
        = [.send first.id "yes"] := by
  decide +kernel

end Sample

end IrcGateway.Relay
