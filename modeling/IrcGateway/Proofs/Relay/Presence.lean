import IrcGateway.Proofs.Relay.Notes

/-!
# Whether the client is in a channel

A room remembers whether the client was told that it is in the channel. That is a summary of what
was written: the client is in the channel if a join burst was written, and no news of its own
leaving since (`InChannel`). While lines can be written, summary and history agree after every event
(`Mirrors.joined`), and from that follows what a client may rely on:

* between two join bursts of a channel it is told that it left;
* only groups have channels;
* nothing is written in a channel where it is not, but what follows the news of its own leaving in
  the same notification;
* it is brought in by a `JOIN` of its nick, and nothing else that is written is one.

The flag is set before an event is handled and cleared while its news is given out, so one event can
do both. The step from one event to the next (`mirrors_handle`) therefore goes in two: the burst
brings the client into the channel of a group (`inChannel_burstNotes`), and what the event itself
says can only take it out (`leaves_ownNotes_iff`).
-/

namespace IrcGateway.Relay

open IrcGateway.Activity IrcGateway.Chat IrcGateway.Media IrcGateway.Protocol IrcGateway.Service

/-! ### Being in a channel, by what was written -/

/-- A join burst was written for the chat, and no news of the client's own leaving since. -/
def InChannel (chat : ContactId) (h : List Note) : Prop :=
  ∃ before n after, h = before ++ n :: after ∧ n.Enters chat ∧ ∀ m ∈ after, ¬ m.Leaves chat

/-- A join burst is written for the chat only while the client is not in its channel. -/
def EntersOnce (chat : ContactId) (h : List Note) : Prop :=
  ∀ before n after, h = before ++ n :: after → n.Enters chat → ¬ InChannel chat before

section

variable {chat : ContactId} {h more : List Note} {n : Note}

/-- A note stands either in the first or in the second of two histories. -/
theorem append_eq_append_cons {before after : List Note} (heq : h ++ more = before ++ n :: after) :
    (∃ rest, h = before ++ n :: rest ∧ after = rest ++ more) ∨
      ∃ first, before = h ++ first ∧ more = first ++ n :: after := by
  rcases List.append_eq_append_iff.mp heq with ⟨first, hb, hm⟩ | ⟨rest, hh, hr⟩
  · exact .inr ⟨first, hb, hm⟩
  · -- the cut is not behind the note: it is either right before it or further ahead
    rcases List.cons_eq_append_iff.mp hr with ⟨rfl, hmore⟩ | ⟨rest', rfl, hafter⟩
    · exact .inr ⟨[], by simpa using hh.symm, by simpa using hmore⟩
    · exact .inl ⟨rest', hh, hafter⟩

theorem not_inChannel_nil (chat : ContactId) : ¬ InChannel chat [] := by
  rintro ⟨before, n, after, heq, -, -⟩
  simp at heq

theorem inChannel_concat (hn : n.Enters chat) : InChannel chat (h ++ [n]) :=
  ⟨h, n, [], rfl, hn, by simp⟩

/-- Without a further join burst the client stays where it is, unless it is told that it left. -/
theorem inChannel_append (hno : ∀ n ∈ more, ¬ n.Enters chat) :
    InChannel chat (h ++ more) ↔ InChannel chat h ∧ ∀ m ∈ more, ¬ m.Leaves chat := by
  constructor
  · rintro ⟨before, n, after, heq, hn, hafter⟩
    rcases append_eq_append_cons heq with ⟨rest, hh, rfl⟩ | ⟨first, -, hmore⟩
    · have hboth := List.forall_mem_append.mp hafter
      exact ⟨⟨before, n, rest, hh, hn, hboth.1⟩, hboth.2⟩
    · -- the last burst would be one of the further notes
      exact absurd hn (hno n (hmore ▸ List.mem_append_right _ List.mem_cons_self))
  · rintro ⟨⟨before, n, after, rfl, hn, hafter⟩, hmore⟩
    exact ⟨before, n, after ++ more, by simp, hn, List.forall_mem_append.mpr ⟨hafter, hmore⟩⟩

theorem EntersOnce.append (hh : EntersOnce chat h) (hno : ∀ n ∈ more, ¬ n.Enters chat) :
    EntersOnce chat (h ++ more) := by
  intro before n after heq hn
  rcases append_eq_append_cons heq with ⟨rest, hb, -⟩ | ⟨first, -, hmore⟩
  · exact hh before n rest hb hn
  · exact absurd hn (hno n (hmore ▸ List.mem_append_right _ List.mem_cons_self))

theorem EntersOnce.concat (hh : EntersOnce chat h) (hout : ¬ InChannel chat h) :
    EntersOnce chat (h ++ [n]) := by
  intro before m after heq hm
  rcases append_eq_append_cons heq with ⟨rest, hb, -⟩ | ⟨first, rfl, hfirst⟩
  · exact hh before m rest hb hm
  · obtain ⟨rfl, -⟩ := List.singleton_eq_append_iff.mp hfirst |>.resolve_right (by simp)
    simpa using hout

/-- Between two join bursts the client is told that it left. -/
theorem EntersOnce.exists_leaves (hh : EntersOnce chat h) {before between after : List Note}
    {n n' : Note} (heq : h = before ++ n :: between ++ n' :: after) (hn : n.Enters chat)
    (hn' : n'.Enters chat) : ∃ m ∈ between, m.Leaves chat := by
  by_contra hc
  -- else the first burst would still hold when the second is written
  have hnone : ∀ m ∈ between, ¬ m.Leaves chat := fun m hm hl => hc ⟨m, hm, hl⟩
  exact hh (before ++ n :: between) n' after heq hn' ⟨before, n, between, rfl, hn, hnone⟩

end

/-! ### What an event does to it -/

variable {c : Circumstances} {s : State} {e : Event}

/-- The news of a notification tells the client of its own leaving if the change removes it. -/
theorem leaves_newsNotes_iff (roster : Roster) (room : Room) :
    (∃ n ∈ newsNotes c roster room e, n.about.leaves = true) ↔
      (Change.ofSubtype e.subtype).removes = true ∧ c.account.id ∈ e.recipientIds := by
  constructor
  · rintro ⟨n, hmem, hl⟩
    obtain ⟨person, hp, hmap⟩ := List.mem_filterMap.mp hmem
    obtain ⟨line, -, rfl⟩ := Option.map_eq_some_iff.mp hmap
    rw [About.leaves, Bool.and_eq_true, decide_eq_true_eq] at hl
    obtain ⟨rfl, hremoves⟩ := hl
    exact ⟨hremoves, hp⟩
  · rintro ⟨hremoves, hp⟩
    -- of one who is removed there is always a line
    have hline : ∃ line, (newsOf c.nick c.account roster room e (Change.ofSubtype e.subtype)
        c.account.id).line = some line := by
      cases hchange : Change.ofSubtype e.subtype with
      | leave => exact ⟨_, rfl⟩
      | remove => exact ⟨_, rfl⟩
      | create => simp [hchange, Change.removes] at hremoves
      | add => simp [hchange, Change.removes] at hremoves
      | miss => simp [hchange, Change.removes] at hremoves
      | unknown subtype => simp [hchange, Change.removes] at hremoves
    obtain ⟨line, hl⟩ := hline
    refine ⟨_, List.mem_filterMap.mpr ⟨c.account.id, hp, Option.map_eq_some_iff.mpr
      ⟨line, hl, rfl⟩⟩, ?_⟩
    simp [About.leaves, hremoves]

/-- An event itself tells the client of its own leaving exactly if it is a first delivery of such
news. -/
theorem leaves_ownNotes_iff (s : State) (room : Room) :
    (∃ n ∈ ownNotes c s room e, n.about.leaves = true) ↔
      room.hasSeen e.id = false ∧ takesOut c.account e = true := by
  unfold ownNotes
  cases hs : room.hasSeen e.id with
  | true => simp
  | false =>
    rw [if_neg Bool.false_ne_true]
    unfold firstNotes
    cases hn : e.isNotification with
    | false => simp [takesOut, hn, About.leaves]
    | true =>
      rw [if_pos rfl]
      -- of notifications those are told of that are of a known kind and not the client's own
      cases hweb : e.isSentByMeFromWeb with
      | true => simp [takesOut, hweb]
      | false =>
        cases hf : NotificationFamily.ofKind? e.kind with
        | none => simp [takesOut, hf]
        | some family =>
          rw [Bool.false_or, if_neg (by simp), leaves_newsNotes_iff]
          simp [takesOut, hn, hweb, hf]

/-- The join burst brings the client into the channel of a group, and where there is none it was
there before. -/
theorem inChannel_burstNotes {h : List Note} {room : Room}
    (hroom : room.joined = true ↔ InChannel room.id h) :
    InChannel room.id (h ++ burstNotes c room) ↔ (room.joined || room.isGroup) = true := by
  unfold burstNotes
  split
  · next hout =>
    rw [Bool.and_eq_true] at hout
    simp only [hout.1, Bool.or_true, iff_true]
    exact inChannel_concat ⟨rfl, rfl⟩
  · next hin =>
    rw [List.append_nil, ← hroom]
    cases hg : room.isGroup with
    | false => simp
    | true => simpa [hg] using hin

/-- What the roster remembers of the client's channels is what was written, and the join bursts that
were written are for groups, one for each time the client comes in. -/
structure Mirrors (h : List Note) (r : Roster) : Prop where
  joined : ∀ chat, (r.byId? chat).any (·.joined) = true ↔ InChannel chat h
  group : ∀ chat, ∀ n ∈ h, n.Enters chat → (r.byId? chat).any (·.isGroup) = true
  once : ∀ chat, EntersOnce chat h

theorem mirrors_empty : Mirrors [] {} where
  joined chat := by simp [not_inChannel_nil]
  group chat n hn := by simp at hn
  once chat before n after heq := by simp at heq

/-- The room in which an event is handled remembers what was written in it. -/
theorem Mirrors.joined_room {h : List Note} (hm : Mirrors h s.roster) {calls : List Call}
    {roster : Roster} {room : Room} (hreg : Registered c s e calls roster room) :
    room.joined = true ↔ InChannel room.id h := by
  have hid : room.id = e.chat.id := Roster.id_of_byId? hreg.room
  have hchat := hm.joined e.chat.id
  rw [hid, ← hchat]
  rcases hreg.cases with ⟨hr, -, -⟩ | ⟨hr, -, hj, -⟩
  · rw [hr, Option.any_some]
  · rw [hr, hj, Option.any_none]

/-- Once a chat is a group it stays one. -/
theorem any_isGroup_of_extends {r r' : Roster} (hext : Roster.Extends r r') {chat : ContactId}
    (hg : (r.byId? chat).any (·.isGroup) = true) : (r'.byId? chat).any (·.isGroup) = true := by
  obtain ⟨room, hr, hgroup⟩ := Option.any_eq_true _ _ |>.mp hg
  obtain ⟨room', hr', hcard⟩ := hext.byId? hr
  rw [hr', Option.any_some, (Room.card_eq_iff.mp hcard).2.2.2.1, hgroup]

/-- What an event itself writes never brings the client into a channel. -/
theorem not_enters_of_mem_ownNotes {room : Room} {n : Note} (h : n ∈ ownNotes c s room e)
    (chat : ContactId) : ¬ n.Enters chat :=
  fun hn => (of_mem_ownNotes h).2 hn.2

/-- What is written for an event concerns no other chat. -/
theorem inChannel_append_notes_of_ne {h : List Note} {chat : ContactId} (hne : chat ≠ e.chat.id) :
    InChannel chat (h ++ notes c s e) ↔ InChannel chat h := by
  have hother : ∀ n ∈ notes c s e, n.chat ≠ chat := by
    intro n hn heq
    exact hne (heq ▸ chat_of_mem_notes hn)
  rw [inChannel_append fun n hn hen => hother n hn hen.1]
  exact and_iff_left fun n hn hl => hother n hn hl.1

/-- The room of an event remembers whether the client is in the channel after it. -/
theorem Mirrors.joined_handle {h : List Note} (hup : c.Up) (hm : Mirrors h s.roster)
    {calls : List Call} {roster : Roster} {room : Room}
    (hreg : Registered c s e calls roster room) :
    ((handle c s e).state.roster.byId? e.chat.id).any (·.joined) = true ↔
      InChannel e.chat.id (h ++ notes c s e) := by
  obtain ⟨change, hmarks, hafter⟩ := exists_marks_room hreg
  have hid : room.id = e.chat.id := Roster.id_of_byId? hreg.room
  -- what the event itself writes takes the client out exactly when its mark does
  have hleaves := leaves_ownNotes_iff (c := c) (e := e)
    { s with roster := roster.update e.chat.id Room.enter } room
  have hstays : (∀ m ∈ ownNotes c { s with roster := roster.update e.chat.id Room.enter } room e,
      ¬ m.Leaves room.id) ↔ (!(!room.hasSeen e.id && takesOut c.account e)) = true := by
    rw [Bool.not_eq_true', ← Bool.not_eq_true, Bool.and_eq_true, Bool.not_eq_true', ← hleaves]
    constructor
    · rintro hno ⟨m, hmem, hl⟩
      exact hno m hmem ⟨(of_mem_ownNotes hmem).1.chat_eq, hl⟩
    · intro hno m hmem hl
      exact hno ⟨m, hmem, hl.2⟩
  rw [hafter, Option.any_some, hmarks.joined hup, Bool.and_eq_true, notes_of_registered hreg,
    ← List.append_assoc, ← hid, inChannel_append fun n hn => not_enters_of_mem_ownNotes hn _,
    inChannel_burstNotes (hm.joined_room hreg), hid]
  exact and_congr_right fun _ => (hid ▸ hstays).symm

/-- Only the channels of groups are entered. -/
theorem Mirrors.group_handle {h : List Note} (hm : Mirrors h s.roster) {chat : ContactId} {n : Note}
    (hmem : n ∈ h ++ notes c s e) (hn : n.Enters chat) :
    ((handle c s e).state.roster.byId? chat).any (·.isGroup) = true := by
  rcases List.mem_append.mp hmem with hold | hnew
  · exact any_isGroup_of_extends (extends_handle c s e) (hm.group chat n hold hn)
  · obtain ⟨calls, roster, room, hreg⟩ := exists_registered_of_mem_notes hnew
    obtain ⟨change, hmarks, hafter⟩ := exists_marks_room hreg
    have hchat : chat = e.chat.id := hn.1 ▸ chat_of_mem_notes hnew
    have hgroup : room.isGroup = true := ((of_mem_notes hreg hnew).lines_of_entering hn.2).1
    rw [hchat, hafter, Option.any_some, hmarks.keeps.isGroup, hgroup]

/-- The client is brought into a channel only where it is not. -/
theorem Mirrors.once_handle {h : List Note} (hm : Mirrors h s.roster) (chat : ContactId) :
    EntersOnce chat (h ++ notes c s e) := by
  by_cases hin : ∃ n ∈ notes c s e, n.Enters chat
  · obtain ⟨n, hmem, hn⟩ := hin
    obtain ⟨calls, roster, room, hreg⟩ := exists_registered_of_mem_notes hmem
    have hid : room.id = chat := by
      rw [Roster.id_of_byId? hreg.room, ← chat_of_mem_notes hmem, hn.1]
    have hroom := hm.joined_room hreg
    rw [notes_of_registered hreg, ← List.append_assoc]
    -- only the burst enters, and it is there only where the flag, and so the history, says out
    refine EntersOnce.append ?_ fun m hm' => not_enters_of_mem_ownNotes hm' chat
    unfold burstNotes
    split
    · next hout =>
      rw [Bool.and_eq_true, Bool.not_eq_true'] at hout
      refine (hm.once chat).concat fun hc => ?_
      rw [← hid, ← hroom, hout.2] at hc
      simp at hc
    · rw [List.append_nil]
      exact hm.once chat
  · exact (hm.once chat).append fun n hn hen => hin ⟨n, hn, hen⟩

/-- **Every event keeps what is remembered of the channels in line with what was written.** -/
theorem mirrors_handle {h : List Note} (hup : c.Up) (hm : Mirrors h s.roster) (e : Event) :
    Mirrors (h ++ notes c s e) (handle c s e).state.roster where
  joined chat := by
    by_cases hc : chat = e.chat.id
    · subst hc
      rcases handle_cases c s e with ⟨hnot, hstate⟩ | ⟨calls, roster, room, -, hreg, -, -⟩
      · rw [notes_of_not_registered hnot, List.append_nil, hstate]
        exact hm.joined _
      · exact hm.joined_handle hup hreg
    · rw [byId?_handle_of_ne hc, inChannel_append_notes_of_ne hc]
      exact hm.joined chat
  group _ _ hmem hn := hm.group_handle hmem hn
  once chat := hm.once_handle chat

/-! ### Along a run -/

theorem mirrors_run {h : List Note} {s : State} {steps : List Step}
    (hup : ∀ step ∈ steps, step.Up) (hm : Mirrors h s.roster) :
    Mirrors (h ++ history s steps) (run s steps).roster := by
  induction steps generalizing h s with
  | nil =>
    rw [history, List.append_nil]
    exact hm
  | cons step rest ih =>
    have hrest : ∀ step ∈ rest, step.Up := fun step hmem => hup step (List.mem_cons_of_mem _ hmem)
    rw [history, ← List.append_assoc, run_cons]
    refine ih hrest ?_
    cases step with
    | deliver c e => exact mirrors_handle (hup (.deliver c e) List.mem_cons_self) hm e
    | outside store saver =>
      rw [Step.notes, List.append_nil]
      exact hm

/-- What an event itself writes in the channel of a group, it writes while the client is there, or
after the news of its leaving that the event brings. -/
theorem Mirrors.inChannel_or_left {h : List Note} (hm : Mirrors h s.roster) {calls : List Call}
    {roster : Roster} {room : Room} (hreg : Registered c s e calls roster room)
    (hg : room.isGroup = true) {before after : List Note} {n : Note}
    (heq : notes c s e = before ++ n :: after) (hn : n.about ≠ .entering) :
    InChannel e.chat.id (h ++ before) ∨ ∃ m ∈ before, m.Leaves e.chat.id := by
  have hid : room.id = e.chat.id := Roster.id_of_byId? hreg.room
  rw [notes_of_registered hreg] at heq
  rcases append_eq_append_cons heq with ⟨rest, hburst, -⟩ | ⟨first, rfl, hown⟩
  · -- a join burst is about nothing but entering
    have hmem : n ∈ burstNotes c room := hburst ▸ List.mem_append_right _ List.mem_cons_self
    exact absurd (of_mem_burstNotes (e := e) hmem roster).2 hn
  · -- behind the burst the client is in the channel, until the event says otherwise
    by_cases hl : ∃ m ∈ first, m.Leaves e.chat.id
    · obtain ⟨m, hmem, hleaves⟩ := hl
      exact .inr ⟨m, List.mem_append_right _ hmem, hleaves⟩
    · have hburst : InChannel e.chat.id (h ++ burstNotes c room) := by
        rw [← hid, inChannel_burstNotes (hm.joined_room hreg), hg, Bool.or_true]
      have hfirst : ∀ m ∈ first, ¬ m.Enters e.chat.id := fun m hmem =>
        not_enters_of_mem_ownNotes (hown ▸ List.mem_append_left _ hmem) _
      rw [← List.append_assoc, inChannel_append hfirst]
      exact .inl ⟨hburst, fun m hmem hleaves => hl ⟨m, hmem, hleaves⟩⟩

/-- A chat without a channel is never joined, and no join burst is written for it. -/
theorem Mirrors.direct {h : List Note} {r : Roster} (hm : Mirrors h r) {chat : ContactId}
    {room : Room} (hr : r.byId? chat = some room) (hg : room.isGroup = false) :
    room.joined = false ∧ ∀ n ∈ h, ¬ n.Enters chat := by
  have hnone : ∀ n ∈ h, ¬ n.Enters chat := by
    intro n hmem hn
    have hgroup := hm.group chat n hmem hn
    rw [hr, Option.any_some, hg] at hgroup
    simp at hgroup
  refine ⟨?_, hnone⟩
  by_contra hj
  -- being joined would need a join burst
  have hin := hm.joined chat
  rw [hr, Option.any_some] at hin
  obtain ⟨before, n, after, rfl, hn, -⟩ := hin.mp (by simpa using hj)
  exact hnone n (List.mem_append_right _ List.mem_cons_self) hn

/-- **Presence.** Along every run of a relay in which lines can be written, the following holds of
the history of what is written and of the state at its end.

* Between two join bursts of a chat the client is told that it left.
* The client counts as being in a channel exactly if a join burst was written, and no news of its
  own leaving since.
* A direct chat is never joined, and has no join burst.
* What is written for an event of a group is its join burst, or is written while the client is in
  the channel, or follows the news of the client's own leaving in the same event.

To come into a channel is to be written a `JOIN` of the client's nick with the topic and the names
that belong to it, and nothing else that is written is a `JOIN` of the client: it is a `PRIVMSG`, or
the `JOIN` of another person that a notification names, or a `PART` or `KICK`. That the client left
is a `PART` or `KICK` of its nick, in a notification that names it, and any other `PART` or `KICK`
is of another person. -/
theorem channel_presence (activity : Tracker) (store : Store) (steps : List Step)
    (hup : ∀ step ∈ steps, step.Up) :
    let s₀ := State.start activity store
    let s := run s₀ steps
    let h := history s₀ steps
    output s₀ steps = h.flatMap Note.lines ∧
    (∀ chat before n between n' after, h = before ++ n :: between ++ n' :: after →
      n.Enters chat → n'.Enters chat → ∃ m ∈ between, m.Leaves chat) ∧
    (∀ chat, (s.roster.byId? chat).any (·.joined) = true ↔ InChannel chat h) ∧
    (∀ chat room, s.roster.byId? chat = some room → room.isGroup = false →
      room.joined = false ∧ ∀ n ∈ h, ¬ n.Enters chat) ∧
    ∀ pre c e post, steps = pre ++ .deliver c e :: post →
      let s₁ := run s₀ pre
      h = history s₀ pre ++ (notes c s₁ e ++ history (handle c s₁ e).state post) ∧
      ∀ before n after, notes c s₁ e = before ++ n :: after →
        ∃ calls roster room, Registered c s₁ e calls roster room ∧ n.Of c e roster room ∧
          n.about ≠ .news .add true ∧
          (n.about = .entering → room.isGroup = true ∧ n.lines.map (·.line) =
            [(Line.spoken c.nick "JOIN" [room.identifier]).format,
              (Line.numeric "332" [c.nick, room.identifier, room.name]).format,
              (Line.numeric "353" [c.nick, "=", room.identifier,
                " ".intercalate (memberNicks c.nick c.account room)]).format,
              (Line.numeric "366" [c.nick, room.identifier, "End of /NAMES list"]).format]) ∧
          (n.about ≠ .entering → ∃ line : Message, n.lines = [⟨e.stamp, line.format⟩] ∧
            ((n.about.leaves = false ∧
                ∃ sender target said, line = Line.spoken sender "PRIVMSG" [target, said]) ∨
              e.isNotification = true ∧ ∃ person ∈ e.recipientIds,
                (person ≠ c.account.id ∧ n.about.leaves = false ∧
                  line = Line.spoken (personName roster room person) "JOIN" [room.identifier]) ∨
                (n.about.leaves = true ↔ person = c.account.id) ∧
                  (line = Line.spoken (nickOf c roster room person) "PART" [room.identifier] ∨
                    line = Line.spoken (author c.nick c.account roster room e) "KICK"
                      [room.identifier, nickOf c roster room person]))) ∧
          (n.about.leaves = true → e.isNotification = true ∧ c.account.id ∈ e.recipientIds ∧
            (Change.ofSubtype e.subtype = .leave ∧
                n.lines = [⟨e.stamp, (Line.spoken c.nick "PART" [room.identifier]).format⟩] ∨
              Change.ofSubtype e.subtype = .remove ∧
                n.lines = [⟨e.stamp, (Line.spoken (author c.nick c.account roster room e) "KICK"
                  [room.identifier, c.nick]).format⟩])) ∧
          (n.about ≠ .entering → room.isGroup = true →
            InChannel e.chat.id (history s₀ pre ++ before) ∨
              ∃ m ∈ before, m.Leaves e.chat.id) := by
  intro s₀ s h
  have hm : Mirrors h s.roster := mirrors_run (h := []) hup mirrors_empty
  refine ⟨output_eq hup, ?_, hm.joined, fun chat room => hm.direct, ?_⟩
  · -- two join bursts of one chat
    intro chat before n between n' after heq hn hn'
    exact (hm.once chat).exists_leaves heq hn hn'
  · -- one note of one event
    rintro pre c e post rfl s₁
    have hpre : ∀ step ∈ pre, step.Up := fun step hmem => hup step (List.mem_append_left _ hmem)
    have hm₁ : Mirrors (history s₀ pre) s₁.roster := mirrors_run (h := []) hpre mirrors_empty
    refine ⟨history_append s₀ pre _, ?_⟩
    intro before n after heq
    have hmem : n ∈ notes c s₁ e := heq ▸ List.mem_append_right _ List.mem_cons_self
    obtain ⟨calls, roster, room, hreg⟩ := exists_registered_of_mem_notes hmem
    have hof := of_mem_notes hreg hmem
    exact ⟨calls, roster, room, hreg, hof, hof.not_added, hof.lines_of_entering,
      hof.line_of_ne_entering, hof.lines_of_leaves,
      fun hn hg => hm₁.inChannel_or_left hreg hg heq hn⟩

/-- Of the news that Alice and then Bob have left a group that is new to her, Alice is told in six
lines. Four bring her into its channel, the fifth takes her out again, and the line of Bob's leaving
follows that of her own. -/
theorem not_inChannel_of_alice_leaving :
    let steps := [Step.deliver Sample.plain (Sample.leave "n1" [Sample.alice.id, Sample.bob])]
    let h := history (.start {} default) steps
    (∀ step ∈ steps, step.Up) ∧
      h.map (fun n => (n.about, n.lines.map (·.line))) =
        [(.entering,
            [":alice JOIN #Family", ":whapp-irc 332 alice #Family Family",
              ":whapp-irc 353 alice = #Family alice",
              ":whapp-irc 366 alice #Family :End of /NAMES list"]),
          (.news .leave true, [":alice PART #Family"]),
          (.news .leave false, [":31611111111 PART #Family"])] ∧
      ¬ InChannel Sample.family.id h := by
  intro steps h
  have hup : ∀ step ∈ steps, step.Up := by
    intro step hmem
    obtain rfl := List.mem_singleton.mp hmem
    exact Sample.plain_up
  have hjoined : ((run (.start {} default) steps).roster.byId? Sample.family.id).any (·.joined)
      = false := by decide +kernel
  refine ⟨hup, by decide +kernel, fun hin => ?_⟩
  have hc := ((channel_presence {} default steps hup).2.2.1 Sample.family.id).mpr hin
  rw [hjoined] at hc
  simp at hc

end IrcGateway.Relay
