import IrcGateway.Gateway
import IrcGateway.Proofs.Chat.Lines
import IrcGateway.Proofs.Protocol.Hearing
import IrcGateway.Proofs.Relay.Drafts

/-!
# What is said arrives

A message becomes drafts, these become lines, these are tagged and written to the client, and the
client cuts what it receives into lines and reads them. What comes out at the end are the lines of
the text that the message is shown as (`saidLines`), each as a private message of one and the same
person to one and the same target, behind the lines of what the message quotes (`saidTexts`), and
behind the join burst where there is one.

On the way a line of the text gets a mark before it if it is quoted, and one before that if a client
would not read it as one parameter. Neither hides anything of the line from a reader
(`lastRead_marked`), since no line of a text is without a character that counts.
-/

namespace IrcGateway.Relay

open IrcGateway.Chat IrcGateway.Media IrcGateway.Protocol IrcGateway.Service IrcGateway.Text
open IrcGateway.Time

/-- A word that can stand in a line. -/
structure IsName (p : String) : Prop extends IsWord p where
  oneLine : OneLine p

/-! ### A text, line by line -/

/-- The texts of the messages in which an event is said; `text` is what an event is shown as. -/
def saidTexts (text : Event → String) (e : Event) : List String :=
  (match e.quoted with
    | some q => (saidLines (text q)).map (quoteMark ++ ·)
    | none => [])
    ++ saidLines (text e)

/-- A line of a text is read as the last parameter, with the mark before it and without the carriage
returns at its end. -/
theorem lastRead_marked {mark line text : String} (hmark : mark = quoteMark ∨ mark = "")
    (h : line ∈ textLines text) :
    lastRead (mark ++ line) = [mark ++ String.ofList (dropLineEnd line.toList)] := by
  rcases hmark with rfl | rfl
  · -- with a mark there is always something left to read
    have hdrop :
        dropLineEnd (quoteMark ++ line).toList = '>' :: ' ' :: dropLineEnd line.toList := by
      have hchars : (quoteMark ++ line).toList = ['>'] ++ ' ' :: line.toList := by
        simp [quoteMark]
      rw [hchars, dropLineEnd_append rfl]
      rfl
    have hofList : String.ofList ('>' :: ' ' :: dropLineEnd line.toList)
        = quoteMark ++ String.ofList (dropLineEnd line.toList) := by
      rw [← String.toList_inj]
      simp [quoteMark]
    rw [lastRead, hdrop, if_neg fun hnone => List.cons_ne_nil _ _ hnone.2, hofList]
  · -- and without one, as blank lines are not said
    rw [String.empty_append, String.empty_append]
    rcases dropLineEnd_ne_nil_of_mem_textLines h with rfl | hne
    · decide
    · rw [lastRead, if_neg fun hnone => hne hnone.2]

/-- **What is read of a text** that is relayed line by line. -/
theorem map_parse_textDrafts {stamp : Stamp} {sender target mark : String}
    (hsender : IsName sender) (htarget : IsName target) (hmark : mark = quoteMark ∨ mark = "")
    (text : String) :
    (textDrafts stamp sender target text mark).map (fun d => Message.parse d.line.text) =
      (saidLines text).map fun line =>
        .ok (Line.spoken sender "PRIVMSG" [target, mark ++ line]) := by
  rw [← map_textLines, List.map_map, textDrafts, List.map_map]
  refine List.map_congr_left fun line hline => ?_
  simp only [Function.comp_apply]
  rw [Line.parse_privmsg hsender.space htarget.toIsWord, lastRead_marked hmark hline]

/-- What is read of a message, with what it quotes. -/
theorem map_parse_speechDrafts {c : Circumstances} {store : Store} {roster : Roster} {room : Room}
    {e : Event} (hsender : IsName (speaker c.nick roster room e))
    (htarget : IsName (target c.nick room e)) :
    (speechDrafts c store roster room e).map (fun d => Message.parse d.line.text) =
      (saidTexts (shown c room store) e).map fun text =>
        .ok (Line.spoken (speaker c.nick roster room e) "PRIVMSG"
          [target c.nick room e, text]) := by
  unfold speechDrafts saidTexts
  simp only
  rw [List.map_append, List.map_append, map_parse_textDrafts hsender htarget (.inr rfl)]
  cases e.quoted with
  | none => simp
  | some q =>
    simp only [map_parse_textDrafts hsender htarget (.inl rfl), List.map_map, Function.comp_def]
    simp

/-- Lines that a session takes are all that it changes. -/
theorem writeLines_of_up {s : Session} (h : s.writeFault = none) (lines : List Dated) :
    Connection.writeLines s lines =
      { s with sent := s.sent ++ lines.map fun d => s.tagged d.stamp d.line } := by
  induction lines generalizing s with
  | nil => simp [Connection.writeLines]
  | cons line rest ih =>
    have hwrite : s.orUnchanged (s.write line.stamp line.line)
        = { s with sent := s.sent ++ [s.tagged line.stamp line.line] } := by
      rw [Session.write_of_up h, Session.orUnchanged]
    rw [Connection.writeLines, List.foldl_cons, hwrite]
    have hrest := @ih { s with sent := s.sent ++ [s.tagged line.stamp line.line] } h
    refine hrest.trans ?_
    simp [Session.tagged]

/-! ### What becomes of a message -/

section

variable {c : Circumstances} {s : State} {e : Event}

/-- A message whose file is to be had is relayed without an error, if every line can be written. -/
theorem result_of_relays (hup : c.Up) (hrelays : relays c s e = true)
    (hfetch : ∀ error, fetch? c s e ≠ some (.error error)) : (handle c s e).result = .ok () := by
  have hfetching := fetching hrelays
  have hstored : (storeMedia c s.store e).result = .ok () := by
    generalize fetch? c s e = result at hfetch hfetching
    generalize storeMedia c s.store e = storing at hfetching ⊢
    cases hfetching with
    | idle hfound => rfl
    | failed hmedia hmiss => exact absurd rfl (hfetch _)
    | stored hmedia hmiss hstem => rfl
  rw [relays, Bool.and_eq_true] at hrelays
  obtain ⟨calls, roster, room, hreg, hhandle⟩ := handle_of_passes hrelays.1
  rw [hhandle, handleFirst_of_said _ _ _ _ hrelays.2]
  unfold relayMessage
  simp only [hstored, deliver_of_up hup]
  rfl

/-- The lines of a message are its drafts, if every line can be written. -/
theorem lines_of_relays_of_up (hup : c.Up) (hrelays : relays c s e = true)
    (hfetch : ∀ error, fetch? c s e ≠ some (.error error)) :
    ∃ room, RoomFor c s e room ∧ (handle c s e).lines =
      (joinDrafts c room ++ speechDrafts c (handle c s e).state.store (handle c s e).state.roster
        room e).map Draft.dated := by
  have hresult := result_of_relays hup hrelays hfetch
  rw [relays, Bool.and_eq_true, Bool.and_eq_true, Bool.not_eq_true', Bool.not_eq_true'] at hrelays
  obtain ⟨hpasses, hweb, hsaid⟩ := hrelays
  obtain ⟨calls, roster, room, hreg, -, hnew⟩ := passes_iff.mp hpasses
  rw [← hreg.hasSeen_room] at hnew
  refine ⟨room, hreg.roomFor, ?_⟩
  rw [(writes_handle hreg).lines_eq hresult, drafts_of_new hnew, ownDrafts_of_said hweb hsaid]

end

/-! ### What is heard -/

/-- Drafts of one line each are heard one by one. -/
theorem received_drafts {ds : List Draft} (h : ∀ d ∈ ds, OneLine d.line.text) (s : Session)
    (clock : Int) :
    received (momentText clock) (ds.map fun d => s.tagged d.stamp d.line.text) =
      ds.map fun d =>
        (Message.parse d.line.text).map (.withTags (dateTags s d.stamp (momentText clock))) := by
  induction ds with
  | nil => rfl
  | cons d rest ih =>
    rw [List.map_cons, received_cons, received_tagged (h d List.mem_cons_self),
      ih fun d' hd' => h d' (List.mem_cons_of_mem _ hd')]
    rfl

/-- The join burst is heard as the four lines that it is, if the names in it are names. -/
theorem received_joinDrafts {c : Circumstances} {room : Room} (s : Session) (clock : Int)
    (hnick : IsName c.nick) (hroom : room.isGroup = true → IsName room.identifier)
    (htitle : OneLine room.name) (hmembers : ∀ p ∈ room.members, OneLine p.safeName) :
    (received (momentText clock)
        ((joinDrafts c room).map fun d => s.tagged d.stamp d.line.text)).map
          (Except.map (·.command)) =
      if room.isGroup && !room.joined then ["JOIN", "332", "353", "366"].map .ok else [] := by
  cases hout : room.isGroup && !room.joined with
  | false =>
    rw [joinDrafts, hout]
    rfl
  | true =>
    have hchannel : IsName room.identifier := hroom (Bool.and_eq_true .. ▸ hout).1
    have hserver : ' ' ∉ serverName.toList := by decide
    have hequals : IsWord "=" := ⟨by decide, by decide, by decide⟩
    -- a line that is one line is heard as one
    have hone : ∀ d ∈ joinDrafts c room, OneLine d.line.text := by
      intro d hd
      have hline : d.dated ∈ joinLines c.nick c.account room := by
        have := List.mem_map_of_mem (f := Draft.dated) hd
        rwa [map_joinDrafts, burst, if_pos hout] at this
      refine (oneLine_or_topic_joinLines hnick.oneLine ⟨hchannel.oneLine, hmembers⟩
        hline).resolve_right fun htopic => htopic.1 htitle
    have hcommands : (joinDrafts c room).map
        (fun d => (Message.parse d.line.text).map (·.command)) =
          ["JOIN", "332", "353", "366"].map .ok := by
      have hjoin := @command_parse_spoken c.nick "JOIN" [room.identifier] hnick.space (by decide)
        (by decide) (by simp) (List.cons_ne_nil _ _)
      have htopic := @command_parse_spoken serverName "332" [c.nick, room.identifier, room.name]
        hserver (by decide) (by decide) (by simp [hnick.toIsWord, hchannel.toIsWord])
        (List.cons_ne_nil _ _)
      have hnames := @command_parse_spoken serverName "353" [c.nick, "=", room.identifier,
          " ".intercalate (memberNicks c.nick c.account room)] hserver (by decide) (by decide)
        (by simp [hnick.toIsWord, hchannel.toIsWord, hequals]) (List.cons_ne_nil _ _)
      have hend := @command_parse_spoken serverName "366" [c.nick, room.identifier,
          "End of /NAMES list"] hserver (by decide) (by decide)
        (by simp [hnick.toIsWord, hchannel.toIsWord]) (List.cons_ne_nil _ _)
      rw [joinDrafts, if_pos hout]
      simp only [List.map_cons, List.map_nil, List.cons.injEq, and_true]
      exact ⟨hjoin, htopic, hnames, hend⟩
    rw [received_drafts hone, List.map_map, if_pos rfl, ← hcommands]
    refine List.map_congr_left fun d _ => ?_
    -- tags do not matter to the command
    cases hparse : Message.parse d.line.text <;> simp [hparse, Except.map, Message.withTags]

/-- The texts of a message are heard in their order, from its sender and with its date. -/
theorem received_speechDrafts {c : Circumstances} {store : Store} {roster : Roster} {room : Room}
    {e : Event} (s : Session) (clock : Int) (hsender : IsName (speaker c.nick roster room e))
    (htarget : IsName (target c.nick room e)) :
    received (momentText clock)
        ((speechDrafts c store roster room e).map fun d => s.tagged d.stamp d.line.text) =
      (saidTexts (shown c room store) e).map fun text =>
        .ok { tags := dateTags s e.stamp (momentText clock)
              source := some (speaker c.nick roster room e)
              command := "PRIVMSG"
              params := [target c.nick room e, text] } := by
  have hone : ∀ d ∈ speechDrafts c store roster room e, OneLine d.line.text := by
    intro d hd
    have hline : d.dated ∈ messageLines (shown c room store) c.nick roster room e :=
      map_speechDrafts c store roster room e ▸ List.mem_map_of_mem hd
    exact oneLine_of_mem_messageLines hsender.oneLine htarget.oneLine hline
  have hstamp : ∀ d ∈ speechDrafts c store roster room e, d.stamp = e.stamp := by
    intro d hd
    -- also what is quoted has the date of the message that quotes it
    have htext : ∀ {text mark}, d ∈ textDrafts e.stamp (speaker c.nick roster room e)
        (target c.nick room e) text mark → d.stamp = e.stamp := by
      intro text mark hd
      obtain ⟨line, -, rfl⟩ := List.mem_map.mp hd
      rfl
    unfold speechDrafts at hd
    rcases List.mem_append.mp hd with hd | hd
    · split at hd
      · exact htext hd
      · simp at hd
    · exact htext hd
  have hparse := congrArg
    (List.map (Except.map (Message.withTags (dateTags s e.stamp (momentText clock)))))
    (@map_parse_speechDrafts c store roster room e hsender htarget)
  rw [List.map_map, List.map_map] at hparse
  rw [received_drafts hone, List.map_congr_left fun d hd => by rw [hstamp d hd]]
  exact hparse

/-- **What is said arrives**, complete and in order. Let a client's session be up, and let a message
be relayed to it whose file, if it has one, is to be had. Then all lines are written: the join burst
if the message is of a group and the client is not in its channel, what is quoted, and what is said.

If its sender and its target go by names, the client hears behind the burst one private message for
each line of what is quoted and of what is said, in order, all from the sender to the target and
with the date of the message. The burst it hears as four lines, if also the client and the members
of the group go by names and the title of the group is one line. -/
theorem speech_arrives (k : Connection) (account : Account) (provider : Map.Provider)
    (client : Client) (token : String) (e : Event) (clock : Int) :
    let c := Connection.circumstances k.session account provider client token
    let k' := (k.handleEvent account provider client token e).1
    let o := (k.handleEvent account provider client token e).2
    k.session.writeFault = none → relays c k.relay e = true →
    (∀ error, fetch? c k.relay e ≠ some (.error error)) →
    ∃ room, RoomFor c k.relay e room ∧
      let now := momentText clock
      let sender := speaker c.nick o.state.roster room e
      let target := target c.nick room e
      let text := shown c room o.state.store
      let enters := room.isGroup && !room.joined
      let joining := if enters then joinLines c.nick account room else []
      let quoted := match e.quoted with
        | some q => textMessages e.stamp sender target (text q) quoteMark
        | none => []
      let sent := fun lines : List Dated => lines.map fun d => k.session.tagged d.stamp d.line
      o.result = .ok () ∧
      o.lines = joining ++ quoted ++ textMessages e.stamp sender target (text e) "" ∧
      k'.session.sent = k.session.sent ++ sent o.lines ∧
      (IsName sender → IsName target →
        received now (sent o.lines) = received now (sent joining) ++
          (saidTexts text e).map fun said =>
            .ok { tags := dateTags k.session e.stamp now, source := some sender
                  command := "PRIVMSG", params := [target, said] }) ∧
      (IsName c.nick → IsName target → OneLine room.name →
        (∀ p ∈ room.members, OneLine p.safeName) →
        (received now (sent joining)).map (Except.map (·.command)) =
          if enters then ["JOIN", "332", "353", "366"].map .ok else []) := by
  intro c k' o hup hrelays hfetch
  have hc : c.Up := fun _ => hup
  obtain ⟨room, hroom, hlines⟩ := lines_of_relays_of_up hc hrelays hfetch
  refine ⟨room, hroom, ?_⟩
  intro now sender target' text enters joining quoted sent
  have hjoining : (joinDrafts c room).map Draft.dated = joining := map_joinDrafts c room
  have hsent : ∀ ds : List Draft,
      sent (ds.map Draft.dated) = ds.map fun d => k.session.tagged d.stamp d.line.text :=
    fun _ => List.map_map
  refine ⟨result_of_relays hc hrelays hfetch, ?_, ?_, ?_, ?_⟩
  · -- the lines as drafts, of which the burst and the texts are known
    refine hlines.trans ?_
    rw [List.map_append, hjoining, map_speechDrafts, List.append_assoc]
    rfl
  · -- a session that is up writes all that it is given
    exact congrArg Session.sent (writeLines_of_up hup o.lines)
  · -- what is heard is cut at the seam between the burst and the texts
    intro hsender htarget
    have hheard := @received_speechDrafts c o.state.store o.state.roster room e k.session clock
      hsender htarget
    have hlines' : o.lines = joining ++
        (speechDrafts c o.state.store o.state.roster room e).map Draft.dated := by
      rw [← hjoining, ← List.map_append]
      exact hlines
    have hsplit : sent o.lines = sent joining ++
        sent ((speechDrafts c o.state.store o.state.roster room e).map Draft.dated) := by
      rw [hlines']
      exact List.map_append
    rw [hsplit, received_append, hsent, hheard]
  · -- only for a group is there a burst, and then the target is the channel
    intro hnick htarget htitle hmembers
    have hchannel : room.isGroup = true → IsName room.identifier := by
      intro hg
      have htarget' := htarget
      simp only [target', target, hg, Bool.true_or, if_true] at htarget'
      exact htarget'
    rw [← hjoining, hsent]
    exact received_joinDrafts k.session clock hnick hchannel htitle hmembers

namespace Sample

/-- Alice, who asked for dates. -/
def connection : Connection where
  session := { Session.start 1 with nick := "alice", capabilities := { tokens := [serverTime] } }
  relay := .start {} default

/-- Bob answers in lines that are easily lost or misread. -/
def answer : Event where
  id := "m2"
  chat := family
  sender := some { id := bob, name := "Bob" }
  timestamp := 1520132767
  body := ":here\r\r\n\n \t\r\nand  there \r"
  quoted := some { id := "m1", chat := family, timestamp := 0, body := "\n:-) \r\nwhere?" }

end Sample

theorem answer_of_bob_arrives :
    let k := Sample.connection
    let c := Connection.circumstances k.session Sample.alice .openStreetMap Sample.client "t"
    let k' := (k.handleEvent Sample.alice .openStreetMap Sample.client "t" Sample.answer).1
    k.session.writeFault = none ∧ relays c k.relay Sample.answer = true ∧
      (∀ error, fetch? c k.relay Sample.answer ≠ some (.error error)) ∧
      IsName "alice" ∧ IsName "Bob" ∧ IsName "#Family" ∧
      ∃ joining, joining.map (Except.map (·.command)) = ["JOIN", "332", "353", "366"].map .ok ∧
        received (momentText 0) k'.session.sent = joining ++
          ["> :-) ", "> where?", ":here", "and  there "].map fun said =>
            .ok { tags := [timeTag "2018-03-04T03:06:07.000Z"], source := some "Bob"
                  command := "PRIVMSG", params := ["#Family", said] } := by
  intro k c k'
  have halice : IsName "alice" := ⟨⟨by decide, by decide, by decide⟩, by decide⟩
  have hbob : IsName "Bob" := ⟨⟨by decide, by decide, by decide⟩, by decide⟩
  have hfamily : IsName "#Family" := ⟨⟨by decide, by decide, by decide⟩, by decide⟩
  have hup : k.session.writeFault = none := rfl
  have hrelays : relays c k.relay Sample.answer = true := by decide +kernel
  have hfetch : ∀ error, fetch? c k.relay Sample.answer ≠ some (.error error) := by
    have hnone : fetch? c k.relay Sample.answer = none := by decide +kernel
    simp [hnone]
  refine ⟨hup, hrelays, hfetch, halice, hbob, hfamily, ?_⟩
  obtain ⟨room, hroom, -, -, hsent, hheard, hjoining⟩ := speech_arrives k Sample.alice
    .openStreetMap Sample.client "t" Sample.answer 0 hup hrelays hfetch
  have hnew : k.relay.roster.byId? Sample.answer.chat.id = none := rfl
  -- the group is new, and nobody else is known to be in it
  cases hroom with
  | known hk h => exact absurd (hnew.symm.trans h) nofun
  | @new members hk h hm =>
    obtain rfl : [] = members := Except.ok.inj hm
    -- what the general theorem leaves open: the channel, the texts, the date and the sender
    have hchannel : k.relay.roster.freeName (Room.baseName Sample.answer.chat) = "#Family" := by
      decide +kernel
    have htexts : saidTexts (shown c
        { Room.ofChat Sample.answer.chat [] with identifier := "#Family" }
        (k.handleEvent Sample.alice .openStreetMap Sample.client "t" Sample.answer).2.state.store)
        Sample.answer = ["> :-) ", "> where?", ":here", "and  there "] := by decide +kernel
    have hdate : dateTags k.session Sample.answer.stamp (momentText 0)
        = [timeTag "2018-03-04T03:06:07.000Z"] := by decide +kernel
    have hsafe : Contact.safeName { id := Sample.bob, name := "Bob" } = "Bob" := by decide +kernel
    have hsender : ∀ roster room, speaker c.nick roster room Sample.answer = "Bob" :=
      fun _ _ => hsafe
    rw [hchannel, hsender] at hheard
    rw [hchannel] at hjoining
    refine ⟨_, hjoining halice hfamily (by decide) (by simp [Room.ofChat]), ?_⟩
    rw [hsent]
    refine (hheard hbob hfamily).trans ?_
    rw [hdate, htexts]
    rfl

end IrcGateway.Relay
