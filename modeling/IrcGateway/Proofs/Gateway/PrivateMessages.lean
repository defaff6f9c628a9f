import IrcGateway.Proofs.Gateway.Sending

/-!
# What becomes of a private message

A private message that the gateway takes from the queue has one of three fates. It lacks a target or
a text; no room has the name of its target; or its text is sent to the one room that has.
`Fate.Fits` says which, over the rooms that there are when the message is taken. As no two rooms
share a name, there is just one fate that fits (`fits_iff`), whatever chats were registered between
two messages.

The fate says everything: which call is made and which line the client is told
(`tells_handlePrivateMessage`). Two things hold of all runs beside that. Nothing but a private
message that finds its room makes the gateway send (`sends_apply`). And the rooms stay distinct,
because events alone change the roster (`roster_apply`).
-/

namespace IrcGateway.Gateway

open IrcGateway.Activity IrcGateway.Chat IrcGateway.Protocol IrcGateway.Relay IrcGateway.Service
open IrcGateway.Text (lower sameName_iff)

/-! ### Fates -/

/-- What becomes of a private message. -/
inductive Fate where
  /-- It lacks a target or a text. -/
  | incomplete
  /-- No room has the name of its target. -/
  | unknown (target : String)
  /-- Its text is sent to a room. -/
  | sent (room : Room) (target text : String)
  deriving DecidableEq, Repr

namespace Fate

/-- Which fate the parameters of a private message have among the rooms of a roster. -/
inductive Fits (roster : Roster) : List String → Fate → Prop where
  | incomplete {params : List String} (h : params.length < 2) : Fits roster params incomplete
  | unknown {target text : String} {more : List String}
      (h : ∀ room ∈ roster.rooms, lower room.identifier ≠ lower target) :
      Fits roster (target :: text :: more) (unknown target)
  | sent {room : Room} {target text : String} {more : List String} (hr : room ∈ roster.rooms)
      (hn : lower room.identifier = lower target) :
      Fits roster (target :: text :: more) (sent room target text)

/-- The fate that the gateway finds. -/
def find (roster : Roster) : List String → Fate
  | target :: text :: _ =>
    match roster.byName? target with
    | none => unknown target
    | some room => sent room target text
  | _ => incomplete

/-- What the service is asked for. -/
def calls : Fate → List Call
  | sent room _ text => [.send room.id text]
  | _ => []

/-- What the client is told, where `fault` says why the text could not be sent, if it could not. -/
def notice (nick : String) (fault : Option Fault) : Fate → Option String
  | incomplete => some (Line.needMoreParams nick "PRIVMSG").text
  | unknown target => some (Line.noSuchNick nick target).text
  | sent _ target _ =>
    fault.map fun fault =>
      (Line.privmsg statusNick nick
        ("failed to send message to " ++ target ++ ": " ++ fault.message)).text

/-- **There is just one fate that fits**, and it is what the gateway finds. -/
theorem fits_iff {roster : Roster} (hd : roster.Distinct) {params : List String} {fate : Fate} :
    Fits roster params fate ↔ fate = find roster params := by
  constructor
  -- whatever fits is found, and what is found fits; a room is found by its name alone
  · intro h
    cases h with
    | @incomplete params h =>
      -- two parameters would be enough
      match params with
      | [] | [_] => rfl
    | @unknown target text more h =>
      have hnone : roster.byName? target = none := by
        refine List.find?_eq_none.mpr fun room hr hsame => ?_
        exact h room hr (sameName_iff.mp hsame)
      rw [find, hnone]
    | @sent room target text more hr hn =>
      rw [find, (hd.byName?_eq_some_iff).mpr ⟨hr, sameName_iff.mpr hn⟩]
  · rintro rfl
    match params with
    | [] => exact .incomplete (by simp)
    | [_] => exact .incomplete (by simp)
    | target :: text :: more =>
      rw [find]
      cases hroom : roster.byName? target with
      | none =>
        refine .unknown fun room hr hn => ?_
        exact List.find?_eq_none.mp hroom room hr (sameName_iff.mpr hn)
      | some room =>
        obtain ⟨hr, hn⟩ := (hd.byName?_eq_some_iff).mp hroom
        exact .sent hr (sameName_iff.mp hn)

end Fate

/-- A private message wants what its fate asks for. -/
theorem wanted_privmsg (roster : Roster) {m : Message} (h : m.command = "PRIVMSG") :
    wanted roster m = (Fate.find roster m.params).calls := by
  unfold wanted
  rw [if_pos h]
  match m.params with
  | [] | [_] => rfl
  | target :: text :: more =>
    simp only [Fate.find]
    cases roster.byName? target <;> rfl

/-! ### What the client is told -/

/-- The client is told one line or none, as a whole gateway sees it. -/
inductive Tells (g : Gateway) : Option String → Gateway → Prop where
  | nothing : Tells g none g
  /-- The line is written, and nothing else changes. -/
  | line {line : String} (h : g.session.writeFault = none) :
      Tells g (some line)
        (g.withSession
          { g.session with sent := g.session.sent ++ [g.session.tagged .clock line] })
  /-- The line cannot be written, and the gateway ends. -/
  | failed {line : String} {e : WriteError} (h : g.session.writeFault = some e) :
      Tells g (some line) (g.finish (.error (.write e)))

theorem tells_afterWrite (g : Gateway) (line : String) :
    Tells g (some line) (g.afterWrite (g.session.write .clock line)) := by
  cases h : g.session.writeFault with
  | none =>
    rw [Session.write_of_up h]
    exact .line h
  | some e =>
    rw [Session.write_of_fault h]
    exact .failed h

/-- **A private message has the fate that is found for it.** -/
theorem tells_handlePrivateMessage (g : Gateway) (client : Client) (params : List String) :
    let fate := Fate.find g.connection.relay.roster params
    Tells { g with calls := g.calls ++ fate.calls } (fate.notice g.session.nick client.sendFault)
      (g.handlePrivateMessage client params) := by
  -- where nothing is asked for, the calls are as they were
  have hquiet : g = { g with calls := g.calls ++ [] } := by rw [List.append_nil]
  unfold handlePrivateMessage
  split
  · next target text more =>
    simp only [Fate.find]
    cases roster : g.connection.relay.roster.byName? target with
    | none =>
      simp only [Fate.calls, Fate.notice]
      rw [← hquiet]
      exact tells_afterWrite g _
    | some room =>
      -- the message is asked to be sent, and the client is told only if that fails
      cases hfault : client.sendFault with
      | none => exact .nothing
      | some fault => exact tells_afterWrite { g with calls := g.calls ++ [.send room.id text] } _
  · next hshort =>
    have hfate : Fate.find g.connection.relay.roster params = .incomplete := by
      unfold Fate.find
      split
      · exact absurd rfl (hshort _ _ _)
      · rfl
    simp only [hfate, Fate.calls, Fate.notice]
    rw [← hquiet]
    exact tells_afterWrite g _

/-- What is known of the chats stays as it is. -/
structure Kept (g g' : Gateway) : Prop where
  roster : g'.connection.relay.roster = g.connection.relay.roster
  times : g'.connection.relay.activity.times = g.connection.relay.activity.times
  store : g'.connection.relay.store = g.connection.relay.store

theorem Tells.kept {g g' : Gateway} {line : Option String} (h : Tells g line g') : Kept g g' := by
  cases h with
  | nothing => exact ⟨rfl, rfl, rfl⟩
  | line => exact ⟨rfl, rfl, rfl⟩
  | failed =>
    -- the saver learns that the times are given up, and they stay as they are
    exact ⟨rfl, rfl, rfl⟩

/-! ### Runs -/

/-- Events alone change the roster. -/
theorem roster_apply (g : Gateway) (act : Act) :
    (act.apply g).connection.relay.roster = g.connection.relay.roster ∨
      ∃ c e, (act.apply g).connection.relay.roster
        = (Relay.handle c g.connection.relay e).state.roster := by
  cases act with
  | turn client token t =>
    cases hturn : g.turn client token t with
    | none => exact .inl (by simp [Act.apply, hturn])
    | some g' =>
      have happly : Act.apply g (.turn client token t) = g' := by simp [Act.apply, hturn]
      rw [happly]
      cases turned hturn with
      | @event account e rest =>
        refine .inr ⟨Connection.circumstances g.session account g.provider client token, e, ?_⟩
        unfold handleEvent
        simp only
        -- neither the files nor the notices of an event touch the roster
        split <;> split <;> rfl
      | @command account m rest =>
        rcases handleCommand_cases (g.withSession { g.session with queue := rest }) client m with
          h | ⟨line, h⟩
        · exact .inl (by rw [h]; rfl)
        · refine .inl ?_
          rw [h]
          exact (tells_afterWrite _ line).kept.roster
      | _ => exact .inl rfl
  | deliver e =>
    obtain ⟨events, happly⟩ := exists_deliverEvent_eq g e
    exact .inl (by rw [Act.apply, happly])
  | _ => exact .inl rfl

/-- The rooms stay distinct along every run. -/
theorem distinct_run {g : Gateway} (hd : g.connection.relay.roster.Distinct) (acts : List Act) :
    (g.run acts).connection.relay.roster.Distinct := by
  -- what an event leaves distinct is all that an act can change
  induction acts generalizing g with
  | nil => exact hd
  | cons act rest ih =>
    rw [run_cons]
    refine ih ?_
    rcases g.roster_apply act with hsame | ⟨c, e, hevent⟩
    · rwa [hsame]
    · rw [hevent]
      exact distinct_handle c e hd

/-- What a gateway that serves its client does with a command, and when. -/
theorem Turned.command_cases {g g' : Gateway} {client : Client} {token : String} {account : Account}
    (h : Turned g client token .command g') (hp : g.phase = .serving account) :
    (g.session.stopped = false ∧ g.events = [] ∧ g.eventsEnded = false) ∧
      ∃ m rest, g.session.queue = m :: rest ∧
        g' = (g.withSession { g.session with queue := rest }).handleCommand client m := by
  cases h with
  -- two of the three ways to take a command are those of a gateway that is not logged in yet
  | abort hearly => rcases hearly with ⟨_, hlogin⟩ | ⟨_, _, hlogin⟩ <;> simp [hp] at hlogin
  | ignore hlogin => simp [hp] at hlogin
  | @command _ m rest _ hs he hend hq => exact ⟨⟨hs, he, hend⟩, m, rest, hq, rfl⟩

/-- When a gateway that serves its client takes a command. -/
theorem isSome_turn_command {g : Gateway} {account : Account} (hp : g.phase = .serving account)
    (client : Client) (token : String) :
    (g.turn client token .command).isSome = true ↔
      g.session.stopped = false ∧ g.events = [] ∧ g.eventsEnded = false ∧
        g.session.queue ≠ [] := by
  constructor
  · intro h
    obtain ⟨g', hg'⟩ := Option.isSome_iff_exists.mp h
    obtain ⟨⟨hs, he, hend⟩, m, rest, hq, -⟩ := (turned hg').command_cases hp
    exact ⟨hs, he, hend, by simp [hq]⟩
  · rintro ⟨hs, he, hend, hq⟩
    obtain ⟨m, rest, hqueue⟩ := List.exists_cons_of_ne_nil hq
    simp [turn, hp, hs, he, hend, Session.take, hqueue]

/-- A turn is asked to send something only if it takes a private message that finds its room. -/
theorem asked_cases (g : Gateway) (t : Turn) :
    asked g t = [] ∨ ∃ account m rest room target text, t = .command ∧
      g.phase = .serving account ∧ g.session.queue = m :: rest ∧ m.command = "PRIVMSG" ∧
      Fate.find g.connection.relay.roster m.params = .sent room target text := by
  by_cases hasked : asked g t = []
  · exact .inl hasked
  -- the turn acts on a command, so it serves and takes the first of the queue
  have hobeyed : obeyed g t ≠ [] := fun h => hasked (by rw [asked, h, List.flatMap_nil])
  unfold obeyed at hobeyed
  split at hobeyed
  · next account hp =>
    unfold took at hobeyed
    split at hobeyed
    · cases hq : g.session.queue with
      | nil => simp [hq] at hobeyed
      | cons m rest =>
        have hm : asked g .command = wanted g.connection.relay.roster m := by
          simp [asked, obeyed, hp, took, hq]
        rw [hm] at hasked
        by_cases hcommand : m.command = "PRIVMSG"
        · rw [wanted_privmsg _ hcommand] at hasked
          cases hfate : Fate.find g.connection.relay.roster m.params with
          | sent room target text =>
            exact .inr ⟨account, m, rest, room, target, text, rfl, hp, rfl, hcommand, hfate⟩
          | _ => simp [hfate, Fate.calls] at hasked
        · simp [wanted, hcommand] at hasked
    · simp at hobeyed
  · simp at hobeyed

/-- **What sends.** An act asks the service to send something only if it is the turn that takes a
private message which finds its room, and then it asks for that alone. -/
theorem sends_apply {g : Gateway} (hd : g.connection.relay.roster.Distinct) (act : Act) :
    (act.apply g).calls.filter isSend = g.calls.filter isSend ∨
      ∃ client token account m rest room target text, act = .turn client token .command ∧
        g.phase = .serving account ∧ g.session.queue = m :: rest ∧ m.command = "PRIVMSG" ∧
        Fate.Fits g.connection.relay.roster m.params (.sent room target text) ∧
        (act.apply g).calls = g.calls ++ [.send room.id text] := by
  cases happens g act with
  | beside hphase hcalls => exact .inl (by rw [hcalls])
  | @turn client token t g' hact happly ht =>
    rw [happly]
    rcases asked_cases g t with hnothing | ⟨account, m, rest, room, target, text, rfl, hp, hq, hm,
      hfate⟩
    · exact .inl (by rw [ht.sends, hnothing, List.append_nil])
    · have hfits := (Fate.fits_iff hd).mpr hfate.symm
      refine .inr ⟨client, token, account, m, rest, room, target, text, hact, hp, hq, hm, hfits, ?_⟩
      -- the command that is taken is the one that the roster was asked about
      obtain ⟨-, first, others, hq', rfl⟩ := ht.command_cases hp
      obtain ⟨rfl, rfl⟩ := List.cons.inj (hq'.symm.trans hq)
      have hwanted : wanted g.connection.relay.roster first = [.send room.id text] := by
        rw [wanted_privmsg _ hm, hfate]
        rfl
      exact (calls_handleCommand _ client first).trans (congrArg (g.calls ++ ·) hwanted)

/-! ### All private messages -/

/-- **Private messages are relayed faithfully.** Along every run of a gateway, whatever events and
commands come in whatever order:

* what was sent is what the private messages wanted, in the order in which they were taken;
* no act makes the gateway send anything but the turn that takes a private message from the queue
  which finds its room, and that turn sends its text alone;
* while the gateway serves its client it takes a command as soon as the session has not stopped, no
  event waits and there is a command. It is then the oldest one. If it is no private message,
  nothing else happens. If it is one, there is just one fate that fits: what that fate asks for is
  called for, and the client is told what it says, or the gateway ends because that line cannot be
  written. The rooms, what they hold, the times and the files stay as they are. -/
theorem private_messages_are_relayed (queueSize : Nat) (provider : Map.Provider) (keepsTimes : Bool)
    (store : Media.Store) (timeline : Timeline) (acts : List Act) :
    let first := start queueSize provider keepsTimes store timeline
    (first.run acts).calls.filter isSend = along (Act.ofTurn asked) first acts ∧
    ∀ pre act post, acts = pre ++ act :: post →
      let g := first.run pre
      let roster := g.connection.relay.roster
      ((act.apply g).calls.filter isSend = g.calls.filter isSend ∨
        ∃ client token account m rest room target text, act = .turn client token .command ∧
          g.phase = .serving account ∧ g.session.queue = m :: rest ∧ m.command = "PRIVMSG" ∧
          Fate.Fits roster m.params (.sent room target text) ∧
          (act.apply g).calls = g.calls ++ [.send room.id text]) ∧
      ∀ client token account, act = .turn client token .command → g.phase = .serving account →
        ((g.turn client token .command).isSome = true ↔
          g.session.stopped = false ∧ g.events = [] ∧ g.eventsEnded = false ∧
            g.session.queue ≠ []) ∧
        ∀ g', g.turn client token .command = some g' →
          ∃ m rest, g.session.queue = m :: rest ∧ Kept g g' ∧
            let taken := g.withSession { g.session with queue := rest }
            (m.command ≠ "PRIVMSG" → g' = taken) ∧
            (m.command = "PRIVMSG" → ∃ fate, Fate.Fits roster m.params fate ∧
              (∀ other, Fate.Fits roster m.params other → other = fate) ∧
              Tells { taken with calls := g.calls ++ fate.calls }
                (fate.notice g.session.nick client.sendFault) g') := by
  intro first
  refine ⟨sends_run first acts, ?_⟩
  rintro pre act post - g roster
  have hd : roster.Distinct := distinct_run Roster.distinct_empty pre
  refine ⟨sends_apply hd act, ?_⟩
  rintro client token account - hp
  refine ⟨isSome_turn_command hp client token, fun g' hturn => ?_⟩
  obtain ⟨-, m, rest, hq, rfl⟩ := (turned hturn).command_cases hp
  refine ⟨m, rest, hq, ?_⟩
  by_cases hm : m.command = "PRIVMSG"
  · -- the rooms are those that there were when the message was taken
    have htells := tells_handlePrivateMessage
      (g.withSession { g.session with queue := rest }) client m.params
    rw [← show handleCommand _ client m = _ from if_pos hm] at htells
    have hkept := htells.kept
    refine ⟨⟨hkept.roster, hkept.times, hkept.store⟩, fun hne => absurd hm hne, fun _ => ?_⟩
    refine ⟨Fate.find roster m.params, (Fate.fits_iff hd).mpr rfl, ?_, htells⟩
    exact fun other hother => (Fate.fits_iff hd).mp hother
  · have hignored : (g.withSession { g.session with queue := rest }).handleCommand client m
        = g.withSession { g.session with queue := rest } := if_neg hm
    rw [hignored]
    exact ⟨⟨rfl, rfl, rfl⟩, fun _ => rfl, fun hc => absurd hc hm⟩

namespace Sample

/-- Alice writes to the group in other letters, and then to Carol: the first text is sent, and of
the second she is told that there is no Carol. -/
theorem one_of_two_is_sent :
    let pre := entering ++ [say "PRIVMSG #FAMILY :hi  all\r\nPRIVMSG carol :hi\r\n", .read, .read,
      .read, .read, take .command]
    let g := first.run pre
    let acts := pre ++ [take .command]
    (g.phase = .serving Relay.Sample.alice ∧ (g.turn client "t" .command).isSome = true ∧
      g.session.queue = [{ command := "PRIVMSG", params := ["carol", "hi"] }]) ∧
    (first.run acts).calls.filter isSend = [.send Relay.Sample.family.id "hi  all"] ∧
    (∃! fate, Fate.Fits g.connection.relay.roster ["carol", "hi"] fate) ∧
    (first.run acts).session.sent.getLast?.map (·.line)
      = some ":whapp-irc 401 alice carol :No such nick/channel" := by
  intro pre g acts
  obtain ⟨hp, hsome, hqueue⟩ : g.phase = .serving Relay.Sample.alice ∧
      (g.turn client "t" .command).isSome = true ∧
      g.session.queue = [{ command := "PRIVMSG", params := ["carol", "hi"] }] := by decide +kernel
  have hasked : along (Act.ofTurn asked) first acts
      = [.send Relay.Sample.family.id "hi  all"] := by decide +kernel
  obtain ⟨hsends, hacts⟩ := private_messages_are_relayed 10 .openStreetMap false default {} acts
  obtain ⟨-, hturn⟩ := hacts pre (take .command) [] rfl
  obtain ⟨g', hg'⟩ := Option.isSome_iff_exists.mp hsome
  obtain ⟨m, rest, hq, -, -, hfate⟩ := (hturn client "t" Relay.Sample.alice rfl hp).2 g' hg'
  obtain ⟨rfl, -⟩ := List.cons.inj (hq.symm.trans hqueue)
  obtain ⟨fate, hfits, honly, -⟩ := hfate rfl
  exact ⟨⟨hp, hsome, hqueue⟩, hsends.trans hasked, ⟨fate, hfits, honly⟩, by decide +kernel⟩

end Sample

end IrcGateway.Gateway
