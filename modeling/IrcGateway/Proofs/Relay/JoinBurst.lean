import IrcGateway.Proofs.Chat.Identifiers
import IrcGateway.Proofs.Protocol.Capabilities
import IrcGateway.Proofs.Protocol.Hearing
import IrcGateway.Proofs.Relay.Drafts
import IrcGateway.Proofs.Relay.Replies

/-!
# Who is in a channel

A client that is brought into a channel is told its members in one line, as words: operators behind
an at sign, the client under its own nick. The names of the others are in usable form, in which
there is neither white space nor an at sign, so that every word stands for one member and the mark
for its rank (`standsFor_word`). All words come back from the line, also a single one, which stands
there without a colon before it.

The channel is called by a word as well: by the one that its chat asked for, or by that and a number
(`RoomFor.exists_word`). So the four lines of the burst name the same channel, in whatever form the
topic is written that one of them ends with (`burst_is_faithful`).
-/

namespace IrcGateway.Service

open IrcGateway.Text

theorem IsUsable.isToken {name : String} (h : IsUsable name) : IsToken name :=
  ⟨h.ne_empty, h.not_blank⟩

theorem IsUsable.head?_ne {name : String} (h : IsUsable name) {c : Char}
    (hc : isReserved c = true) : name.toList.head? ≠ some c := by
  intro hhead
  simpa [hc] using h.not_reserved c (List.mem_of_head? hhead)

end IrcGateway.Service

namespace IrcGateway.Relay

open IrcGateway.Activity IrcGateway.Chat IrcGateway.Media IrcGateway.Protocol IrcGateway.Service
open IrcGateway.Text IrcGateway.Time

/-! ### The members -/

/-- A word of the list stands for a member. -/
structure StandsFor (nick : String) (account : Account) (p : Participant) (word : String) :
    Prop where
  /-- Operators are marked. -/
  mark : word.toList.head? = some '@' ↔ p.isAdmin = true
  /-- Behind the mark is the name of the member; the client goes by its nick. -/
  name : (if word.toList.head? = some '@' then String.ofList word.toList.tail else word)
    = if p.id = account.id then nick else p.safeName

section Words

variable {nick : String} {account : Account}

theorem isUsable_memberName {p : Participant} (hp : IsUsable p.contact.id.user) :
    IsUsable p.safeName := by
  rw [Participant.safeName, Contact.safeName]
  exact isUsable_safeName _ hp

/-- The word by which a member is listed. -/
def memberWord (nick : String) (account : Account) (p : Participant) : String :=
  (if p.isAdmin then "@" else "") ++ (if p.id = account.id then nick else p.safeName)

/-- The client itself, where the service does not list it. -/
def ownWord (nick : String) (account : Account) (room : Room) : List String :=
  if (room.member? account.id).isNone then [nick] else []

theorem memberNicks_eq (nick : String) (account : Account) (room : Room) :
    memberNicks nick account room
      = ownWord nick account room ++ room.members.map (memberWord nick account) := rfl

theorem isToken_memberWord (hnick : IsToken nick) {p : Participant}
    (hp : IsUsable p.contact.id.user) : IsToken (memberWord nick account p) := by
  have hname : IsToken (if p.id = account.id then nick else p.safeName) := by
    split
    · exact hnick
    · exact (isUsable_memberName hp).isToken
  have hmark : IsToken "@" := by decide
  unfold memberWord
  split
  · exact hmark.append hname
  · rwa [String.empty_append]

/-- **A word stands for its member.** No name begins with the mark. -/
theorem standsFor_word (hat : nick.toList.head? ≠ some '@') {p : Participant}
    (hp : IsUsable p.contact.id.user) : StandsFor nick account p (memberWord nick account p) := by
  have hname : (if p.id = account.id then nick else p.safeName).toList.head? ≠ some '@' := by
    split
    · exact hat
    · exact (isUsable_memberName hp).head?_ne rfl
  unfold memberWord
  cases hadmin : p.isAdmin with
  | true => exact ⟨by simp [hadmin], by simp⟩
  | false => exact ⟨by simp [hadmin, hname], by simp [hname]⟩

theorem isToken_of_mem_memberNicks (hnick : IsToken nick) {room : Room}
    (hmembers : ∀ p ∈ room.members, IsUsable p.contact.id.user) :
    ∀ word ∈ memberNicks nick account room, IsToken word := by
  intro word hword
  rw [memberNicks_eq] at hword
  rcases List.mem_append.mp hword with hown | hmember
  · unfold ownWord at hown
    split at hown
    · rwa [List.mem_singleton.mp hown]
    · simp at hown
  · obtain ⟨p, hp, rfl⟩ := List.mem_map.mp hmember
    exact isToken_memberWord hnick (hmembers p hp)

/-- Somebody is listed in any case. -/
theorem memberNicks_ne_nil (nick : String) (account : Account) (room : Room) :
    memberNicks nick account room ≠ [] := by
  rw [memberNicks_eq, ownWord]
  cases hmember : room.member? account.id with
  | none => simp
  | some p =>
    have hp : p ∈ room.members := List.mem_of_find?_eq_some hmember
    simp [List.ne_nil_of_mem hp]

/-- The client stands for one word: its own, or that of the one member that it is. -/
theorem length_ownWord_add (nick : String) (account : Account) {room : Room}
    (hids : (room.members.map (·.id)).Nodup) :
    (ownWord nick account room).length
      + (room.members.filter fun p => p.id == account.id).length = 1 := by
  -- the client is among the members once or not at all
  have hcount : (room.members.filter fun p => p.id == account.id).length
      = (room.members.map (·.id)).count account.id := by
    rw [List.count, List.countP_map, List.countP_eq_length_filter]
    rfl
  rw [hcount, hids.count, ownWord]
  cases hmember : room.member? account.id with
  | none =>
    have hnone : account.id ∉ room.members.map (·.id) := by
      simpa [Room.member?] using hmember
    simp [hnone]
  | some p =>
    have hmem : account.id ∈ room.members.map (·.id) := by
      refine List.mem_map.mpr ⟨p, List.mem_of_find?_eq_some hmember, ?_⟩
      simpa using List.find?_some hmember
    simp [hmem]

end Words

/-! ### The channel -/

section Channel

variable {c : Circumstances} {s : State} {e : Event} {room : Room}

/-- A room in which an event is handled is called by a word. -/
theorem RoomFor.exists_word (h : RoomFor c s e room) (hs : s.roster.InTurn)
    (huser : IsUsable room.id.user) :
    ∃ word, IsUsable word ∧ room.identifier = Room.mark room.isGroup ++ word := by
  cases h with
  | known hk hknown =>
    rw [hs.identifier_eq hknown]
    exact Roster.exists_freeName_append _ _ (isUsable_safeName room.name huser)
  | new hk hnew hm =>
    exact Roster.exists_freeName_append _ _ (isUsable_safeName e.chat.name huser)

/-- What brings the client into a channel is written before anything else. -/
theorem burst_prefix_lines (h : RoomFor c s e room) (hup : c.Up) :
    burst c room <+: (handle c s e).lines := by
  obtain ⟨calls, roster, hreg⟩ := h.registered
  have hall : deliver c.writeFault 0 (burst c room) = (burst c room, none) :=
    deliver_of_up hup 0 _
  rw [handle_of_registered hreg]
  cases hseen : room.hasSeen e.id with
  | true => simp [handleIn_of_seen hall hseen]
  | false => simp [handleIn_of_new hall hseen]

end Channel

/-! ### The burst -/

/-- What somebody says, of whom the last parameter alone may be more than a word. -/
theorem parse_spoken {person command : String} (hperson : ' ' ∉ person.toList) (hne : command ≠ "")
    (hcommand : (command.toList.all fun c => c.isUpper || c.isDigit) = true) {words : List String}
    (hwords : ∀ p ∈ words, IsWord p) (last : String) :
    Message.parse (Line.spoken person command (words ++ [last])).format
      = .ok (Line.spoken person command (words ++ lastRead last)) := by
  have hreadable : (Line.spoken person command (words ++ [last])).Readable :=
    readable_spoken hperson hne hcommand (by rwa [List.dropLast_concat])
  exact parse_format_of_params hreadable rfl

/-- The four lines of the burst, as they are read. The topic ends with what is read of the title. -/
theorem map_parse_joinLines {nick : String} (hnick : IsToken nick)
    (hcolon : nick.toList.head? ≠ some ':') {account : Account} {room : Room}
    (hchannel : IsToken room.identifier) (hhash : room.identifier.toList.head? ≠ some ':')
    (hmembers : ∀ p ∈ room.members, IsUsable p.contact.id.user) :
    (joinLines nick account room).map (fun d => Message.parse d.line) =
      [.ok (Line.spoken nick "JOIN" [room.identifier]),
        .ok (Line.numeric "332" ([nick, room.identifier] ++ lastRead room.name)),
        .ok (Line.numeric "353" [nick, "=", room.identifier,
          " ".intercalate (memberNicks nick account room)]),
        .ok (Line.numeric "366" [nick, room.identifier, "End of /NAMES list"])] := by
  have hserver : ' ' ∉ serverName.toList := by decide
  have hnick' : IsWord nick := isWord_of_isToken hnick hcolon
  have hchannel' : IsWord room.identifier := isWord_of_isToken hchannel hhash
  have hequals : IsWord "=" := ⟨by decide, by decide, by decide⟩
  -- JOIN ends in one word, and the list of names is read as its words
  have hone : lastRead room.identifier = [room.identifier] := by
    simpa using lastRead_spaced (List.forall_mem_singleton.mpr hchannel)
  have hlist : lastRead (" ".intercalate (memberNicks nick account room)) = _ :=
    lastRead_spaced (isToken_of_mem_memberNicks hnick hmembers)
  have hjoin := @parse_spoken nick "JOIN" hnick'.space (by decide) (by decide) [] (by simp)
    room.identifier
  have htopic := @parse_spoken serverName "332" hserver (by decide) (by decide)
    [nick, room.identifier] (by simp [hnick', hchannel']) room.name
  have hnames := @parse_spoken serverName "353" hserver (by decide) (by decide)
    [nick, "=", room.identifier] (by simp [hnick', hchannel', hequals])
    (" ".intercalate (memberNicks nick account room))
  have hend := @parse_spoken serverName "366" hserver (by decide) (by decide)
    [nick, room.identifier] (by simp [hnick', hchannel']) "End of /NAMES list"
  rw [hone] at hjoin
  rw [hlist] at hnames
  simp only [joinLines, List.map_cons, List.map_nil, List.cons.injEq, and_true]
  exact ⟨hjoin, htopic, hnames, hend⟩

/-- **The join burst is faithful.** At any point of a run, let an event be handled in the room of a
group, whose members have different identifiers and, like the chat, a usable user part. If the
client is not in the channel, it is first of all sent the burst. A client whose nick is a word reads
it as JOIN, the topic, the members and their end, of the same channel, which is a word behind a
number sign. Cut at its spaces, the list of members has one word for each of them, in order, behind
that of the client, if it is none of them. A word is marked exactly for an operator, and without the
mark is the member's name, or for the client its nick. There is one word for the client. -/
theorem burst_is_faithful (activity : Tracker) (store : Store) (steps : List Step)
    (c : Circumstances) (e : Event) (room : Room)
    (hroom : RoomFor c (run (.start activity store) steps) e room) (hgroup : room.isGroup = true)
    (hids : (room.members.map (·.id)).Nodup) (huser : IsUsable room.id.user)
    (hmembers : ∀ p ∈ room.members, IsUsable p.contact.id.user) (hnick : IsToken c.nick)
    (hcolon : c.nick.toList.head? ≠ some ':') (hat : c.nick.toList.head? ≠ some '@') :
    (c.Up → room.joined = false → joinLines c.nick c.account room <+:
      (handle c (run (.start activity store) steps) e).lines) ∧
    (∃ word, IsUsable word ∧ room.identifier = "#" ++ word) ∧
    ∃ title list,
      (joinLines c.nick c.account room).map (fun d => Message.parse d.line) =
        [.ok (Line.spoken c.nick "JOIN" [room.identifier]),
          .ok (Line.numeric "332" ([c.nick, room.identifier] ++ title)),
          .ok (Line.numeric "353" [c.nick, "=", room.identifier, list]),
          .ok (Line.numeric "366" [c.nick, room.identifier, "End of /NAMES list"])] ∧
      ∃ own words, (pieces (· == ' ') list.toList).map String.ofList = own ++ words ∧
        own = (if (room.member? c.account.id).isNone then [c.nick] else []) ∧
        List.Forall₂ (StandsFor c.nick c.account) room.members words ∧
        own.length + (room.members.filter fun p => p.id == c.account.id).length = 1 := by
  have hturn : (run (.start activity store) steps).roster.InTurn :=
    inTurn_run Roster.InTurn.empty steps
  obtain ⟨word, hword, hidentifier⟩ := hroom.exists_word hturn huser
  rw [hgroup, Room.mark, if_pos rfl] at hidentifier
  -- the channel is a word behind its mark
  have hmark : IsToken "#" := by decide
  have hchannel : IsToken room.identifier := hidentifier ▸ hmark.append hword.isToken
  have hhash : room.identifier.toList.head? ≠ some ':' := by
    simp [hidentifier]
  refine ⟨?first, ⟨word, hword, hidentifier⟩, _, _,
    map_parse_joinLines hnick hcolon hchannel hhash hmembers,
    ownWord c.nick c.account room, room.members.map (memberWord c.nick c.account), ?cut, rfl,
    ?stands, length_ownWord_add c.nick c.account hids⟩
  case first =>
    intro hup hout
    rw [← burst_of_out c hgroup hout]
    exact burst_prefix_lines hroom hup
  case cut =>
    -- a space stands between two words only
    have hbare : ∀ w ∈ memberNicks c.nick c.account room, ∀ ch ∈ w.toList, (ch == ' ') = false := by
      intro w hw ch hch
      have hspace := (isToken_of_mem_memberNicks hnick hmembers w hw).space
      exact beq_eq_false_iff_ne.mpr fun heq => hspace (heq ▸ hch)
    rw [pieces_spaced rfl (memberNicks_ne_nil _ _ _) hbare, map_ofList_toList, memberNicks_eq]
  case stands =>
    rw [List.forall₂_map_right_iff, List.forall₂_same]
    exact fun p hp => standsFor_word hat (hmembers p hp)

/-- Alice is brought into the channel of her family, of which Bob is in charge. The line lists the
two of them. -/
theorem family_is_listed :
    let bob : Participant :=
      { id := Sample.bob, contact := { id := Sample.bob, name := "Bob Jones" }, isAdmin := true }
    let own : Participant := { id := Sample.alice.id, contact := { id := Sample.alice.id } }
    let client := { Sample.client with members := fun _ => .ok [bob, own] }
    let c := { Sample.plain with client }
    let e : Event := { id := "m1", chat := Sample.family, timestamp := 0, body := "hello" }
    let lines := (handle c (.start {} default) e).lines
    lines.map (·.line) = [":alice JOIN #Family", ":whapp-irc 332 alice #Family Family",
        ":whapp-irc 353 alice = #Family :@Bob_Jones alice",
        ":whapp-irc 366 alice #Family :End of /NAMES list", ":#Family PRIVMSG #Family hello"] ∧
      ∃ list words,
        .ok (Line.numeric "353" ["alice", "=", "#Family", list])
          ∈ lines.map (fun d => Message.parse d.line) ∧
        (pieces (· == ' ') list.toList).map String.ofList = words ∧
        List.Forall₂ (StandsFor "alice" Sample.alice) [bob, own] words := by
  intro bob own client c e lines
  have hroom := @RoomFor.new c (.start {} default) e [bob, own] (by decide) rfl rfl
  have hmembers : ∀ p ∈ [bob, own], IsUsable p.contact.id.user := by decide
  obtain ⟨hwritten, -, title, list, hparse, before, words, hcut, hbefore, hstands, -⟩ :=
    burst_is_faithful {} default [] c e _ hroom rfl (by decide) (by decide) hmembers
      (show IsToken "alice" by decide) (by decide) (by decide)
  have hchannel : (State.start {} default).roster.freeName (Room.baseName e.chat) = "#Family" := by
    decide +kernel
  have hlisted : before = [] := hbefore
  refine ⟨by decide +kernel, list, words, ?_, ?_, hstands⟩
  · -- the line is the third of the burst
    refine ((hwritten Sample.plain_up rfl).map _).subset ?_
    rw [hparse]
    simp only [hchannel]
    exact List.mem_cons_of_mem _ (List.mem_cons_of_mem _ List.mem_cons_self)
  · rw [hcut, hlisted, List.nil_append]

end IrcGateway.Relay
