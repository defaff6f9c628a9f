import IrcGateway.Proofs.Chat.OneLine
import IrcGateway.Proofs.Protocol.Hearing
import IrcGateway.Proofs.Relay.Run
import IrcGateway.Proofs.Session.Nick

/-!
# One line for one write

Whatever a relay writes should reach the client as one line, or else people of the service could
write lines of the protocol. What is said is cut into lines, names are made usable, and the client's
own nick was read from a line. Two kinds of text are passed on as they are. One is the user part of
an identifier, which stands in for a name without usable characters and for people without a name
(`Named` says that these hold no line feed). The other is the name of a group, as the topic of its
channel.

Given the first, the second is the only way in: a line with a line feed in it is the topic of a
group (`oneLine_or_topic`), and every group's topic is written (`topicLine_mem_output`).
-/

namespace IrcGateway.Relay

open IrcGateway.Chat IrcGateway.Protocol IrcGateway.Service IrcGateway.Text

/-- Everybody that an event names has a name of one line. -/
structure Named (c : Circumstances) (e : Event) : Prop where
  chat : Nameable e.chat.name e.chat.id.user
  sender : ∀ p, e.sender = some p → Nameable p.displayName p.id.user
  members : ∀ members, c.client.members e.chat = .ok members →
    ∀ p ∈ members, Nameable p.contact.displayName p.contact.id.user
  /-- People that are not in the chat go by the user part of their identifier. -/
  people : ∀ id, e.origin = some id ∨ actor? e = some id ∨ id ∈ e.recipientIds → OneLine id.user

/-- The line that tells the client the topic of a channel. -/
def topicLine (nick : String) (room : Room) : Dated :=
  ⟨.clock, (Line.topic nick room.identifier room.name).text⟩

/-- The line is the topic of a registered group whose name has a line feed. -/
def MultilineTopic (roster : Roster) (d : Dated) : Prop :=
  ∃ nick, ∃ card ∈ roster.cards,
    card.isGroup = true ∧ ¬ OneLine card.name ∧ d = topicLine nick card

/-! ### The lines of an event -/

section Lines

variable {c : Circumstances} {roster : Roster} {room : Room} {e : Event}

section People

variable (hroster : roster.Legible) (hmembers : ∀ p ∈ room.members, OneLine p.safeName)

include hroster hmembers

theorem oneLine_personName {id : ContactId} (hid : OneLine id.user) :
    OneLine (personName roster room id) := by
  unfold personName
  split
  · next p hp => exact hmembers p (List.mem_of_find?_eq_some hp)
  · split
    · next direct hdirect =>
      split
      · exact hid
      · exact (hroster.of_byId? hdirect).1
    · exact hid

theorem oneLine_speaker (hnick : OneLine c.nick) (hroom : OneLine room.identifier)
    (he : Named c e) : OneLine (speaker c.nick roster room e) := by
  unfold speaker
  split
  · exact hnick
  · split
    · next sender hsender => exact Contact.oneLine_safeName (he.sender sender hsender)
    · next id _ horigin => exact oneLine_personName hroster hmembers (he.people id (.inl horigin))
    · exact hroom

theorem oneLine_author (hnick : OneLine c.nick) (he : Named c e) :
    OneLine (author c.nick c.account roster room e) := by
  unfold author
  split
  · next id hactor =>
    split
    · exact hnick
    · exact oneLine_personName hroster hmembers (he.people id (.inr (.inl hactor)))
  · decide

end People

/-- What is said has lines of its own. -/
theorem oneLine_of_mem_messageLines {render : Event → String} {nick : String}
    (hsender : OneLine (speaker nick roster room e)) (htarget : OneLine (target nick room e))
    {d : Dated} (h : d ∈ messageLines render nick roster room e) : OneLine d.line := by
  obtain ⟨mark, text, line, hmark, hline, rfl⟩ := exists_privmsg_of_mem_messageLines h
  have hmark : OneLine mark := by rcases hmark with rfl | rfl <;> decide
  simp [Line.oneLine_text_iff, Line.parts, hsender, htarget, hmark, oneLine_of_mem_textLines hline]

/-- The news of a notification names people. -/
theorem oneLine_of_mem_news (hnick : OneLine c.nick) (hroster : roster.Legible)
    (hroom : OneLine room.identifier ∧ ∀ p ∈ room.members, OneLine p.safeName) (he : Named c e)
    {n : News} (h : n ∈ news c.nick c.account roster room e) {d : Dated} (hd : n.line = some d) :
    OneLine d.line := by
  obtain ⟨id, hid, rfl⟩ := List.mem_map.mp h
  have hauthor := oneLine_author hroster hroom.2 hnick he
  -- the client goes by its nick, everybody else by a name
  have hname : OneLine (if id = c.account.id then c.nick else personName roster room id) := by
    split
    · exact hnick
    · exact oneLine_personName hroster hroom.2 (he.people id (.inr (.inr hid)))
  have hmissed : OneLine missedCall := by decide
  obtain ⟨line, hline, rfl⟩ := Option.map_eq_some_iff.mp hd
  rw [Line.oneLine_text_iff]
  -- a line of each kind is made of the names above, the channel and a fixed text
  cases hchange : Change.ofSubtype e.subtype with
  | add =>
    rw [hchange] at hline
    simp only [Option.ite_none_left_eq_some, Option.some.injEq] at hline
    obtain ⟨-, rfl⟩ := hline
    simp [Line.parts, hname, hroom.1]
  | leave =>
    rw [hchange] at hline
    obtain rfl := Option.some.inj hline
    simp [Line.parts, hname, hroom.1]
  | remove =>
    rw [hchange] at hline
    obtain rfl := Option.some.inj hline
    simp [Line.parts, hname, hauthor, hroom.1]
  | miss =>
    rw [hchange] at hline
    obtain rfl := Option.some.inj hline
    simp [Line.parts, hauthor, hmissed, hroom.1]
  | create => simp [hchange] at hline
  | unknown subtype => simp [hchange] at hline

/-- Of the burst that brings the client into a channel only the topic may hold a line feed. -/
theorem oneLine_or_topic_joinLines {nick : String} {account : Account} (hnick : OneLine nick)
    (hroom : OneLine room.identifier ∧ ∀ p ∈ room.members, OneLine p.safeName) {d : Dated}
    (h : d ∈ joinLines nick account room) :
    OneLine d.line ∨ (¬ OneLine room.name ∧ d = topicLine nick room) := by
  have hnicks : ∀ p ∈ memberNicks nick account room, OneLine p := by
    intro p hp
    unfold memberNicks at hp
    rcases List.mem_append.mp hp with hp | hp
    · split at hp
      · rwa [List.mem_singleton.mp hp]
      · simp at hp
    · obtain ⟨member, hmember, rfl⟩ := List.mem_map.mp hp
      rw [oneLine_append]
      constructor
      · split <;> decide
      · split
        · exact hnick
        · exact hroom.2 member hmember
  simp only [joinLines, List.map_cons, List.map_nil, List.mem_cons, List.not_mem_nil,
    or_false] at h
  rcases h with rfl | rfl | rfl | rfl
  · simp [Line.oneLine_text_iff, Line.parts, hnick, hroom.1]
  · -- the topic is the one line with a part that nobody has cleaned
    by_cases hname : OneLine room.name
    · simp [Line.oneLine_text_iff, Line.parts, hnick, hroom.1, hname]
    · exact .inr ⟨hname, rfl⟩
  · refine .inl ?_
    simpa [Line.oneLine_text_iff, Line.parts, hnick, hroom.1] using hnicks
  · simp [Line.oneLine_text_iff, Line.parts, hnick, hroom.1]

theorem oneLine_of_mem_handleFirst {k : Nat} {s : State} (hnick : OneLine c.nick)
    (hs : s.roster.Legible)
    (hroom : OneLine room.identifier ∧ ∀ p ∈ room.members, OneLine p.safeName) (he : Named c e)
    {d : Dated} (h : d ∈ (handleFirst c k s room e).lines) : OneLine d.line := by
  have hroster : (s.roster.update room.id fun r => r.see e.id).Legible :=
    hs.update (Room.keeps_see e.id) room.id
  have htarget : OneLine (target c.nick room e) := by
    unfold target
    split
    · exact hroom.1
    · exact hnick
  rcases of_mem_handleFirst h with ⟨-, n, hn, hd⟩ | ⟨-, render, hd⟩
  · exact oneLine_of_mem_news hnick hroster hroom he hn hd
  · exact oneLine_of_mem_messageLines (oneLine_speaker hroster hroom.2 hnick hroom.1 he) htarget hd

end Lines

/-! ### What is registered is legible -/

section Events

variable {c : Circumstances} {s : State} {e : Event}

theorem legible_handle (hs : s.roster.Legible) (he : Named c e) :
    (handle c s e).state.roster.Legible := by
  rcases cards_handle c s e with hcards | ⟨members, -, hmembers, hcards⟩
  · exact hs.of_cards_eq hcards
  · intro card hcard
    rw [hcards] at hcard
    rcases List.mem_append.mp hcard with hcard | hcard
    · exact hs card hcard
    · obtain rfl := List.mem_singleton.mp hcard
      exact ⟨Roster.oneLine_freeName (oneLine_baseName he.chat) _,
        fun p hp => Participant.oneLine_safeName (he.members members hmembers p hp)⟩

theorem Registered.cards_eq {calls : List Call} {roster : Roster} {room : Room}
    (h : Registered c s e calls roster room) :
    (handle c s e).state.roster.cards = roster.cards := by
  obtain ⟨change, hmarks, hroster⟩ := exists_marks h
  rw [hroster, Roster.cards_update hmarks.keeps]

/-! ### The topic is the only way in -/

theorem oneLine_or_topic_handle (hnick : OneLine c.nick) (hs : s.roster.Legible)
    (he : Named c e) {d : Dated} (h : d ∈ (handle c s e).lines) :
    OneLine d.line ∨ MultilineTopic (handle c s e).state.roster d := by
  have hlegible : ∀ {calls roster room}, Registered c s e calls roster room → roster.Legible :=
    fun hreg => (legible_handle hs he).of_cards_eq hreg.cards_eq.symm
  have hburst : ∀ {calls roster room}, Registered c s e calls roster room → d ∈ burst c room →
      OneLine d.line ∨ MultilineTopic (handle c s e).state.roster d := by
    intro calls roster room hreg hd
    unfold burst at hd
    split at hd
    · -- the room of the burst is there afterwards, with the name it had
      next hout =>
      rw [Bool.and_eq_true] at hout
      have hcard : room.card ∈ (handle c s e).state.roster.cards := by
        rw [hreg.cards_eq]
        exact List.mem_map_of_mem (Roster.mem_of_byId? hreg.room)
      refine (oneLine_or_topic_joinLines hnick ((hlegible hreg).of_byId? hreg.room) hd).imp_right ?_
      rintro ⟨hname, htopic⟩
      exact ⟨c.nick, room.card, hcard, hout.1, hname, htopic⟩
    · simp at hd
  -- on each way through there is the burst, and what the event says only on the last
  suffices ∀ o, Handled c s e o → d ∈ o.lines →
      OneLine d.line ∨ MultilineTopic (handle c s e).state.roster d from this _ (handled c s e) h
  intro o ho hd
  cases ho with
  | internal hk => simp at hd
  | unanswered hk hnew hm => simp at hd
  | @unjoined calls roster room lines error hreg hdeliver =>
    have hwritten := written_deliver c.writeFault 0 (burst c room)
    rw [hdeliver] at hwritten
    exact hburst hreg (hwritten.subset hd)
  | repeated hreg _ _ => exact hburst hreg hd
  | @first calls roster room o hreg _ _ ho =>
    rcases List.mem_append.mp hd with hd | hd
    · exact hburst hreg hd
    · rw [ho] at hd
      exact .inl (oneLine_of_mem_handleFirst hnick
        ((hlegible hreg).update Room.keeps_enter e.chat.id) ((hlegible hreg).of_byId? hreg.room)
        he hd)

theorem mem_lines_of_mem_burst (hup : c.Up) {calls : List Call} {roster : Roster} {room : Room}
    (h : Registered c s e calls roster room) {d : Dated} (hd : d ∈ burst c room) :
    d ∈ (handle c s e).lines := by
  rw [handle_of_registered h]
  cases hs : room.hasSeen e.id with
  | true =>
    rw [handleIn_of_seen (deliver_of_up hup 0 _) hs]
    exact hd
  | false =>
    rw [handleIn_of_new (deliver_of_up hup 0 _) hs]
    exact List.mem_append_left _ hd

/-- An event that registers a group tells its topic. -/
theorem topicLine_mem_handle (hup : c.Up) {card : Room}
    (h : card ∈ (handle c s e).state.roster.cards) (hg : card.isGroup = true) :
    card ∈ s.roster.cards ∨ topicLine c.nick card ∈ (handle c s e).lines := by
  rcases handle_cases c s e with ⟨-, hstate⟩ | ⟨calls, roster, room, change, hreg, -, -⟩
  · exact .inl (hstate ▸ h)
  rw [hreg.cards_eq] at h
  rcases hreg.cases with ⟨-, -, rfl⟩ | ⟨hnew, -, hjoined, -, members, -, hroster⟩
  · exact .inl h
  · have hroom := hreg.room
    rw [hroster, Roster.byId?_insert, hnew, Option.getD_none,
      if_pos (show e.chat.id = (Room.ofChat e.chat members).id from rfl),
      Option.some.injEq] at hroom
    have hinsert := @Roster.insert_of_new s.roster (Room.ofChat e.chat members) hnew
    rw [hroster, hinsert, Roster.cards, List.map_append] at h
    rcases List.mem_append.mp h with h | h
    · exact .inl h
    · -- it is the room that was just made, and the client is not yet in its channel
      obtain rfl : card = room.card := by rw [List.mem_singleton.mp h, ← hroom]
      have hgroup : room.isGroup = true := hg
      refine .inr (mem_lines_of_mem_burst hup hreg ?_)
      rw [burst_of_out c hgroup hjoined]
      exact List.mem_cons_of_mem _ List.mem_cons_self

end Events

/-! ### Runs -/

/-- Along a run only topics of groups hold line feeds. -/
theorem oneLine_or_topic {s : State} (hs : s.roster.Legible) {steps : List Step}
    (hsteps : ∀ c e, Step.deliver c e ∈ steps → OneLine c.nick ∧ Named c e) {d : Dated}
    (h : d ∈ output s steps) : OneLine d.line ∨ MultilineTopic (run s steps).roster d := by
  induction steps generalizing s with
  | nil => simp [output] at h
  | cons step rest ih =>
    have hrest : ∀ c e, Step.deliver c e ∈ rest → OneLine c.nick ∧ Named c e :=
      fun c e hmem => hsteps c e (List.mem_cons_of_mem _ hmem)
    rw [run_cons]
    rcases List.mem_append.mp h with h | h
    · cases step with
      | outside store saver => simp [Step.outcome] at h
      | deliver c e =>
        obtain ⟨hnick, he⟩ := hsteps c e List.mem_cons_self
        -- what is registered by then stays registered
        refine (oneLine_or_topic_handle hnick hs he h).imp_right ?_
        rintro ⟨nick, card, hcard, htopic⟩
        exact ⟨nick, card, (extends_run _ rest).subset hcard, htopic⟩
    · refine ih ?_ hrest h
      cases step with
      | outside store saver => exact hs
      | deliver c e => exact legible_handle hs (hsteps c e List.mem_cons_self).2

/-- If every line can be written, the topic of each group is told. -/
theorem topicLine_mem_output {s : State} {steps : List Step} (hup : ∀ step ∈ steps, step.Up)
    {card : Room} (h : card ∈ (run s steps).roster.cards) (hg : card.isGroup = true) :
    card ∈ s.roster.cards ∨ ∃ nick, topicLine nick card ∈ output s steps := by
  induction steps generalizing s with
  | nil => exact .inl h
  | cons step rest ih =>
    have hstep := hup step List.mem_cons_self
    rw [run_cons] at h
    rcases ih (fun step hmem => hup step (List.mem_cons_of_mem _ hmem)) h with hbefore | ⟨nick, hd⟩
    · -- the group was there before the rest of the run: did this step register it?
      cases step with
      | outside store saver => exact .inl hbefore
      | deliver c e =>
        refine (topicLine_mem_handle hstep hbefore hg).imp_right fun hd => ?_
        exact ⟨c.nick, List.mem_append_left _ hd⟩
    · exact .inr ⟨nick, List.mem_append_right _ hd⟩

/-- A line without line feed reaches the client as one line, whatever it is tagged with. -/
theorem wireLines_tagged {d : Dated} (h : OneLine d.line) (s : Session) {now : String}
    (hnow : OneLine now) :
    wireLines ((s.tagged d.stamp d.line).wire now)
      = [((s.tagged d.stamp d.line).text now).toList] := by
  refine wireLines_eq_singleton ?_
  change OneLine ((s.tagged d.stamp d.line).text now)
  unfold Session.tagged Sent.text
  split
  · next stamp hstamp =>
    have htext : OneLine (stamp.text now) := by
      cases stamp with
      | clock => exact hnow
      | «at» ms => exact oneLine_momentText ms
    simp only [oneLine_append, htext, h, and_true]
    decide
  · exact h

/-- A nick that some client goes by. -/
def IsNick (nick : String) : Prop :=
  ∃ queueSize moves, nick = (Session.run (.start queueSize) moves).nick

/-- **One line for one write.** Let events be delivered to a relay whose client goes by any nick,
and let everybody whom they name have a name of one line. Then each line written reaches the client
as one line, but for the topic of a group whose name has a line feed. If every line can be written,
such a topic is written for each such group. -/
theorem one_line_but_topics (activity : Activity.Tracker) (store : Media.Store)
    (steps : List Step) (hsteps : ∀ c e, .deliver c e ∈ steps → IsNick c.nick ∧ Named c e) :
    let first := State.start activity store
    let last := run first steps
    (∀ d ∈ output first steps, MultilineTopic last.roster d ∨
      (OneLine d.line ∧ ∀ (s : Session) (now : String), OneLine now →
        wireLines ((s.tagged d.stamp d.line).wire now)
          = [((s.tagged d.stamp d.line).text now).toList])) ∧
    ((∀ step ∈ steps, step.Up) → ((∀ d ∈ output first steps, OneLine d.line) ↔
      ∀ card ∈ last.roster.cards, card.isGroup = true → OneLine card.name)) := by
  intro first last
  have hlegible : first.roster.Legible := by simp [first, State.start, Roster.Legible, Roster.cards]
  have hnicks : ∀ c e, Step.deliver c e ∈ steps → OneLine c.nick ∧ Named c e := by
    intro c e hmem
    obtain ⟨⟨queueSize, moves, hnick⟩, he⟩ := hsteps c e hmem
    exact ⟨hnick ▸ Session.oneLine_nick_run queueSize moves, he⟩
  refine ⟨fun d hd => ?_, fun hup => ⟨fun hall card hcard hg => ?_, fun hnames d hd => ?_⟩⟩
  · rcases oneLine_or_topic hlegible hnicks hd with hone | htopic
    · exact .inr ⟨hone, fun s now hnow => wireLines_tagged hone s hnow⟩
    · exact .inl htopic
  · -- the topic of a registered group was written when the client was brought into its channel
    rcases topicLine_mem_output hup hcard hg with hbefore | ⟨nick, htopic⟩
    · simp [first, State.start, Roster.cards] at hbefore
    · have hparts := (Line.oneLine_text_iff _).mp (hall _ htopic)
      exact hparts card.name (by simp [Line.parts])
  · refine (oneLine_or_topic hlegible hnicks hd).resolve_right ?_
    rintro ⟨nick, card, hcard, hg, hname, -⟩
    exact hname (hnames card hcard hg)

theorem isNick_alice : IsNick "alice" :=
  ⟨1, [.receive ("NICK alice\r\n".toList.map fun c => c.toNat.toUInt8), .read], by decide +kernel⟩

/-- Neither Bob's name nor what he says can break out of a line. -/
theorem hello_of_bob_stays_in_line :
    let bob : Contact := { id := Sample.bob, name := "Bob\n:status" }
    let e : Event :=
      { id := "m1", chat := Sample.family, timestamp := 0, sender := some bob
        body := "hello\n:status PRIVMSG alice :log in again" }
    let steps := [Step.deliver Sample.plain e]
    (∀ c e, .deliver c e ∈ steps → IsNick c.nick ∧ Named c e) ∧
      (output (.start {} default) steps).map (·.line) =
        [":alice JOIN #Family", ":whapp-irc 332 alice #Family Family",
          ":whapp-irc 353 alice = #Family alice",
          ":whapp-irc 366 alice #Family :End of /NAMES list", ":Bob_status PRIVMSG #Family hello",
          ":Bob_status PRIVMSG #Family ::status PRIVMSG alice :log in again"] ∧
      ∀ d ∈ output (.start {} default) steps, OneLine d.line := by
  intro bob e steps
  have hsteps : ∀ c e, .deliver c e ∈ steps → IsNick c.nick ∧ Named c e := by
    intro c e' hmem
    obtain ⟨rfl, rfl⟩ := Step.deliver.inj (List.mem_singleton.mp hmem)
    -- chat, sender, members and people have names of one line
    refine ⟨isNick_alice, by decide +kernel, ?_, ?_, ?_⟩
    · rintro p hp
      obtain rfl := Option.some.inj hp
      decide +kernel
    · intro members hmembers
      obtain rfl := Except.ok.inj hmembers
      simp
    · rintro id (horigin | hactor | hrecipient)
      · simp [e] at horigin
      · obtain rfl := Option.some.inj hactor
        decide +kernel
      · simp [e] at hrecipient
  have hup : ∀ step ∈ steps, step.Up := by
    intro step hmem
    rw [List.mem_singleton.mp hmem]
    exact Sample.plain_up
  have hnames : (run (.start {} default) steps).roster.cards.map (·.name) = ["Family"] := by
    decide +kernel
  refine ⟨hsteps, by decide +kernel, ?_⟩
  obtain ⟨-, hiff⟩ := one_line_but_topics {} default steps hsteps
  refine (hiff hup).mpr fun card hcard _ => ?_
  have hname : card.name ∈ ["Family"] := hnames ▸ List.mem_map_of_mem hcard
  rw [List.mem_singleton.mp hname]
  decide

/-- A group whose name has a line feed in it speaks to Alice as the gateway, and so does one that
has no name but an identifier with a line feed. -/
theorem family_speaks_as_status :
    let titled : Service.Chat :=
      ⟨⟨"1", "g.us"⟩, "Family\n:status PRIVMSG alice :log in again", true⟩
    let nameless : Service.Chat := ⟨⟨"1\n:status PRIVMSG alice :log in again", "g.us"⟩, "...", true⟩
    let lines := fun chat : Service.Chat =>
      output (.start {} default) [.deliver Sample.plain { id := "m1", chat, timestamp := 0 }]
    ¬ (∀ d ∈ lines titled, OneLine d.line) ∧ ¬ ∀ d ∈ lines nameless, OneLine d.line := by
  decide +kernel

end IrcGateway.Relay
