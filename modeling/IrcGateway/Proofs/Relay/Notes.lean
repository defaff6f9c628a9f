import IrcGateway.Proofs.Relay.Drafts

/-!
# What the lines of a run are about

A relay writes lines, and nothing in a line says why it was written. `notes` keeps the lines of an
event together with what they are about: the join burst, a line of what was said, a line of what a
notification says of one person. `history` does so for a run.

That this is a reading of the lines that are written, and no other, is in two results:

* `lines_handle`, `output_eq`: without what they are about, the notes are the lines;
* `of_mem_notes`: each note is about what its lines say. `Note.Of` lists what a note can be about,
  each with the messages that its lines are written out for, and tells the client's own coming and
  going from that of others.
-/

namespace IrcGateway.Relay

open IrcGateway.Activity IrcGateway.Chat IrcGateway.Media IrcGateway.Protocol IrcGateway.Service

/-- What lines written in a chat are about. -/
inductive About where
  /-- The client is brought into the channel. -/
  | entering
  /-- Something is said. -/
  | text
  /-- A notification brings news of a person, who may be the client itself. -/
  | news (change : Change) (own : Bool)
  deriving DecidableEq, Repr

/-- Whether the client is told that it is no longer in the channel. -/
def About.leaves : About → Bool
  | news change own => own && change.removes
  | _ => false

/-- Lines of a chat that were written together. -/
structure Note where
  chat : ContactId
  about : About
  lines : List Dated
  deriving DecidableEq, Repr

namespace Note

/-- The client is told that it is now in the channel of the chat. -/
def Enters (chat : ContactId) (n : Note) : Prop :=
  n.chat = chat ∧ n.about = .entering

/-- The client is told that it is no longer in the channel of the chat. -/
def Leaves (chat : ContactId) (n : Note) : Prop :=
  n.chat = chat ∧ n.about.leaves = true

/-- A line in which a person is the source of a command. -/
def spokenLine (e : Event) (person command : String) (params : List String) : Dated :=
  ⟨e.stamp, (Line.spoken person command params).format⟩

/-- What a note holds that is written for an event, for each thing that a note can be about. -/
inductive Of (c : Circumstances) (e : Event) (roster : Roster) (room : Room) : Note → Prop where
  /-- The client comes into the channel of a group, and is told its topic and who is there. -/
  | entering (hg : room.isGroup = true) :
      Of c e roster room ⟨room.id, .entering,
        [⟨.clock, (Line.spoken c.nick "JOIN" [room.identifier]).format⟩,
          ⟨.clock, (Line.numeric "332" [c.nick, room.identifier, room.name]).format⟩,
          ⟨.clock, (Line.numeric "353" [c.nick, "=", room.identifier,
            " ".intercalate (memberNicks c.nick c.account room)]).format⟩,
          ⟨.clock, (Line.numeric "366" [c.nick, room.identifier, "End of /NAMES list"]).format⟩]⟩
  /-- Somebody says something. -/
  | text (hn : e.isNotification = false) (sender target said : String) :
      Of c e roster room ⟨room.id, .text, [spokenLine e sender "PRIVMSG" [target, said]]⟩
  /-- Somebody else is added. -/
  | comes {person : ContactId} (hn : e.isNotification = true) (hp : person ∈ e.recipientIds)
      (hchange : Change.ofSubtype e.subtype = .add) (hother : person ≠ c.account.id) :
      Of c e roster room ⟨room.id, .news .add false,
        [spokenLine e (personName roster room person) "JOIN" [room.identifier]]⟩
  /-- Somebody leaves, who may be the client. -/
  | goes {person : ContactId} (hn : e.isNotification = true) (hp : person ∈ e.recipientIds)
      (hchange : Change.ofSubtype e.subtype = .leave) :
      Of c e roster room ⟨room.id, .news .leave (person = c.account.id),
        [spokenLine e (nickOf c roster room person) "PART" [room.identifier]]⟩
  /-- Somebody is removed, who may be the client. -/
  | kicked {person : ContactId} (hn : e.isNotification = true) (hp : person ∈ e.recipientIds)
      (hchange : Change.ofSubtype e.subtype = .remove) :
      Of c e roster room ⟨room.id, .news .remove (person = c.account.id),
        [spokenLine e (author c.nick c.account roster room e) "KICK"
          [room.identifier, nickOf c roster room person]]⟩
  /-- A call was missed. -/
  | missed {person : ContactId} (hn : e.isNotification = true) (hp : person ∈ e.recipientIds)
      (hchange : Change.ofSubtype e.subtype = .miss) :
      Of c e roster room ⟨room.id, .news .miss (person = c.account.id),
        [spokenLine e (author c.nick c.account roster room e) "PRIVMSG"
          [room.identifier, missedCall]]⟩

variable {c : Circumstances} {e : Event} {roster : Roster} {room : Room} {n : Note}

theorem Of.chat_eq (h : n.Of c e roster room) : n.chat = room.id := by
  cases h <;> rfl

/-- Notes depend on the roster only in what chats were registered with. -/
theorem Of.congr {roster' : Roster} (h : n.Of c e roster room)
    (hcards : roster.cards = roster'.cards) : n.Of c e roster' room := by
  -- all names in a note are looked up among the cards
  have hname : personName roster room = personName roster' room :=
    funext (personName_congr hcards room)
  have hnick : nickOf c roster room = nickOf c roster' room := by
    funext id
    rw [nickOf, nickOf, hname]
  have hauthor : author c.nick c.account roster room e =
      author c.nick c.account roster' room e := by
    simp only [author, hname]
  cases h with
  | entering hg => exact .entering hg
  | text hn sender target said => exact .text hn sender target said
  | comes hn hp hchange hother => exact hname ▸ .comes hn hp hchange hother
  | goes hn hp hchange => exact hnick ▸ .goes hn hp hchange
  | kicked hn hp hchange => exact hauthor ▸ hnick ▸ .kicked hn hp hchange
  | missed hn hp hchange => exact hauthor ▸ .missed hn hp hchange

/-- Nothing is said of the client when it is added. -/
theorem Of.not_added (h : n.Of c e roster room) : n.about ≠ .news .add true := by
  cases h <;> simp

/-- The client comes into the channel of a group with the four lines for that. -/
theorem Of.lines_of_entering (h : n.Of c e roster room) (habout : n.about = .entering) :
    room.isGroup = true ∧ n.lines.map (·.line) =
      [(Line.spoken c.nick "JOIN" [room.identifier]).format,
        (Line.numeric "332" [c.nick, room.identifier, room.name]).format,
        (Line.numeric "353" [c.nick, "=", room.identifier,
          " ".intercalate (memberNicks c.nick c.account room)]).format,
        (Line.numeric "366" [c.nick, room.identifier, "End of /NAMES list"]).format] := by
  cases h with
  | entering hg => exact ⟨hg, rfl⟩
  | _ => simp at habout

/-- Apart from the join burst a note is one line: something said, or of a person whom a notification
names that it comes, which is never the client, or that it goes. -/
theorem Of.line_of_ne_entering (h : n.Of c e roster room) (habout : n.about ≠ .entering) :
    ∃ line : Message, n.lines = [⟨e.stamp, line.format⟩] ∧
      ((n.about.leaves = false ∧
          ∃ sender target said, line = Line.spoken sender "PRIVMSG" [target, said]) ∨
        e.isNotification = true ∧ ∃ person ∈ e.recipientIds,
          (person ≠ c.account.id ∧ n.about.leaves = false ∧
            line = Line.spoken (personName roster room person) "JOIN" [room.identifier]) ∨
          (n.about.leaves = true ↔ person = c.account.id) ∧
            (line = Line.spoken (nickOf c roster room person) "PART" [room.identifier] ∨
              line = Line.spoken (author c.nick c.account roster room e) "KICK"
                [room.identifier, nickOf c roster room person])) := by
  cases h with
  | entering hg => exact absurd rfl habout
  | text hn sender target said =>
    exact ⟨_, rfl, .inl ⟨rfl, sender, target, said, rfl⟩⟩
  | @comes person hn hp hchange hother =>
    exact ⟨_, rfl, .inr ⟨hn, person, hp, .inl ⟨hother, rfl, rfl⟩⟩⟩
  | @goes person hn hp hchange =>
    exact ⟨_, rfl, .inr ⟨hn, person, hp, .inr ⟨by simp [About.leaves, Change.removes], .inl rfl⟩⟩⟩
  | @kicked person hn hp hchange =>
    exact ⟨_, rfl, .inr ⟨hn, person, hp, .inr ⟨by simp [About.leaves, Change.removes], .inr rfl⟩⟩⟩
  | missed hn hp hchange =>
    exact ⟨_, rfl, .inl ⟨by simp [About.leaves, Change.removes], _, _, _, rfl⟩⟩

/-- The client is told that it left when a notification names it, with the line for that. -/
theorem Of.lines_of_leaves (h : n.Of c e roster room) (hl : n.about.leaves = true) :
    e.isNotification = true ∧ c.account.id ∈ e.recipientIds ∧
      (Change.ofSubtype e.subtype = .leave ∧
          n.lines = [⟨e.stamp, (Line.spoken c.nick "PART" [room.identifier]).format⟩] ∨
        Change.ofSubtype e.subtype = .remove ∧
          n.lines = [⟨e.stamp, (Line.spoken (author c.nick c.account roster room e) "KICK"
            [room.identifier, c.nick]).format⟩]) := by
  cases h with
  | @goes person hn hp hchange =>
    simp only [About.leaves, Change.removes, Bool.and_true, decide_eq_true_eq] at hl
    subst hl
    exact ⟨hn, hp, .inl ⟨hchange, by rw [nickOf, if_pos rfl]; rfl⟩⟩
  | @kicked person hn hp hchange =>
    simp only [About.leaves, Change.removes, Bool.and_true, decide_eq_true_eq] at hl
    subst hl
    exact ⟨hn, hp, .inr ⟨hchange, by rw [nickOf, if_pos rfl]; rfl⟩⟩
  | _ => simp [About.leaves, Change.removes] at hl

end Note

/-! ### The notes of an event -/

/-- The join burst, where the client has to be brought into the channel. -/
def burstNotes (c : Circumstances) (room : Room) : List Note :=
  if room.isGroup && !room.joined then
    [⟨room.id, .entering, joinLines c.nick c.account room⟩]
  else []

/-- The news of a notification, one note for each person of whom there is a line. -/
def newsNotes (c : Circumstances) (roster : Roster) (room : Room) (e : Event) : List Note :=
  let change := Change.ofSubtype e.subtype
  e.recipientIds.filterMap fun person =>
    (newsOf c.nick c.account roster room e change person).line.map fun line =>
      ⟨room.id, .news change (person = c.account.id), [line]⟩

/-- The notes of an event that is handled first. -/
def firstNotes (c : Circumstances) (k : Nat) (s : State) (room : Room) (e : Event) : List Note :=
  if e.isNotification then
    if e.isSentByMeFromWeb || (NotificationFamily.ofKind? e.kind).isNone then []
    else newsNotes c (s.roster.update room.id fun r => r.see e.id) room e
  else (handleFirst c k s room e).lines.map fun line => ⟨room.id, .text, [line]⟩

/-- The notes of an event itself, in the state in which the client is in the channel. -/
def ownNotes (c : Circumstances) (s : State) (room : Room) (e : Event) : List Note :=
  if room.hasSeen e.id then [] else firstNotes c (burst c room).length s room e

/-- What is written for an event. -/
def notes (c : Circumstances) (s : State) (e : Event) : List Note :=
  if e.kind = internalKind then []
  else
    match (register c s.roster e.chat).2 with
    | .error _ => []
    | .ok roster =>
      match roster.byId? e.chat.id with
      | none => []
      | some room =>
        burstNotes c room
          ++ ownNotes c { s with roster := roster.update e.chat.id Room.enter } room e

variable {c : Circumstances} {s : State} {e : Event}

theorem notes_of_registered {calls : List Call} {roster : Roster} {room : Room}
    (h : Registered c s e calls roster room) :
    notes c s e = burstNotes c room
      ++ ownNotes c { s with roster := roster.update e.chat.id Room.enter } room e := by
  unfold notes
  rw [if_neg h.kind, h.register]
  simp only [h.room]

theorem notes_of_not_registered (h : e.kind = internalKind ∨ Unanswered c s e) :
    notes c s e = [] := by
  unfold notes
  split
  · rfl
  · next hk =>
    obtain ⟨hnew, fault, hm⟩ := h.resolve_left hk
    rw [register_of_fault hnew hm]

/-- What is written for an event belongs to its chat, once it is registered. -/
theorem exists_registered_of_mem_notes {n : Note} (h : n ∈ notes c s e) :
    ∃ calls roster room, Registered c s e calls roster room := by
  by_cases hk : e.kind = internalKind
  · rw [notes_of_not_registered (.inl hk)] at h
    simp at h
  rcases registered_or_unanswered c s hk with hreg | hu
  · exact hreg
  · rw [notes_of_not_registered (.inr hu)] at h
    simp at h

/-! ### Notes say what their lines say -/

theorem of_mem_burstNotes {room : Room} {n : Note} (h : n ∈ burstNotes c room) (roster : Roster) :
    n.Of c e roster room ∧ n.about = .entering := by
  unfold burstNotes at h
  split at h
  · next hout =>
    rw [Bool.and_eq_true] at hout
    obtain rfl := List.mem_singleton.mp h
    exact ⟨.entering hout.1, rfl⟩
  · simp at h

theorem of_mem_newsNotes {roster : Roster} {room : Room} {n : Note}
    (hn : e.isNotification = true) (h : n ∈ newsNotes c roster room e) :
    n.Of c e roster room ∧ n.about ≠ .entering := by
  obtain ⟨person, hp, hmap⟩ := List.mem_filterMap.mp h
  obtain ⟨line, hl, rfl⟩ := Option.map_eq_some_iff.mp hmap
  refine ⟨?_, by simp⟩
  -- of each change there is one kind of line, and of two there is none
  cases hchange : Change.ofSubtype e.subtype with
  | add =>
    by_cases hown : person = c.account.id
    · simp [newsOf, hchange, hown] at hl
    · simp only [newsOf, hchange, if_neg hown, Option.map_some, Option.some.injEq] at hl
      subst hl
      rw [decide_eq_false hown]
      exact .comes hn hp hchange hown
  | leave =>
    rw [hchange] at hl
    exact Option.some.inj hl ▸ .goes hn hp hchange
  | remove =>
    rw [hchange] at hl
    exact Option.some.inj hl ▸ .kicked hn hp hchange
  | miss =>
    rw [hchange] at hl
    exact Option.some.inj hl ▸ .missed hn hp hchange
  | create => simp [newsOf, hchange] at hl
  | unknown subtype => simp [newsOf, hchange] at hl

theorem of_mem_firstNotes {k : Nat} {room : Room} {n : Note} (h : n ∈ firstNotes c k s room e) :
    n.Of c e s.roster room ∧ n.about ≠ .entering := by
  unfold firstNotes at h
  split at h
  · next hn =>
    split at h
    · simp at h
    · obtain ⟨hof, habout⟩ := of_mem_newsNotes hn h
      exact ⟨hof.congr (Roster.cards_update (Room.keeps_see e.id) _ _), habout⟩
  · next hn =>
    obtain ⟨line, hline, rfl⟩ := List.mem_map.mp h
    rcases of_mem_handleFirst hline with ⟨hnot, -⟩ | ⟨hsaid, render, hmem⟩
    · exact absurd hnot hn
    · -- a line of a message is a private message with a line of a text
      obtain ⟨mark, text, said, -, -, rfl⟩ := exists_privmsg_of_mem_messageLines hmem
      exact ⟨.text hsaid _ _ _, by simp⟩

theorem of_mem_ownNotes {room : Room} {n : Note} (h : n ∈ ownNotes c s room e) :
    n.Of c e s.roster room ∧ n.about ≠ .entering := by
  unfold ownNotes at h
  split at h
  · simp at h
  · exact of_mem_firstNotes h

theorem of_mem_notes {calls : List Call} {roster : Roster} {room : Room}
    (hreg : Registered c s e calls roster room) {n : Note} (h : n ∈ notes c s e) :
    n.Of c e roster room := by
  rw [notes_of_registered hreg] at h
  rcases List.mem_append.mp h with hburst | hown
  · exact (of_mem_burstNotes hburst roster).1
  · exact (of_mem_ownNotes hown).1.congr (Roster.cards_update Room.keeps_enter _ _)

/-- An event writes in its own chat. -/
theorem chat_of_mem_notes {n : Note} (h : n ∈ notes c s e) : n.chat = e.chat.id := by
  obtain ⟨calls, roster, room, hreg⟩ := exists_registered_of_mem_notes h
  rw [(of_mem_notes hreg h).chat_eq, Roster.id_of_byId? hreg.room]

/-! ### Notes are the lines -/

theorem lines_burstNotes (c : Circumstances) (room : Room) :
    (burstNotes c room).flatMap Note.lines = burst c room := by
  unfold burstNotes burst
  split <;> simp

theorem lines_newsNotes (c : Circumstances) (roster : Roster) (room : Room) (e : Event) :
    (newsNotes c roster room e).flatMap Note.lines =
      (news c.nick c.account roster room e).filterMap (·.line) := by
  unfold newsNotes news
  simp only
  -- person by person: where there is no line there is no note either
  induction e.recipientIds with
  | nil => rfl
  | cons person rest ih =>
    rw [List.map_cons]
    cases hl : (newsOf c.nick c.account roster room e (Change.ofSubtype e.subtype) person).line with
    | none =>
      rw [List.filterMap_cons_none (by rw [hl]; rfl), List.filterMap_cons_none hl]
      exact ih
    | some line =>
      rw [List.filterMap_cons_some (by rw [hl]; rfl), List.filterMap_cons_some hl,
        List.flatMap_cons, ih]
      rfl

theorem lines_firstNotes (hup : c.Up) (k : Nat) (s : State) (room : Room) (e : Event) :
    (firstNotes c k s room e).flatMap Note.lines = (handleFirst c k s room e).lines := by
  unfold firstNotes
  split
  · next hn =>
    unfold handleFirst
    simp only
    cases hweb : e.isSentByMeFromWeb with
    | true => simp
    | false =>
      rw [Bool.false_or, if_neg Bool.false_ne_true, if_pos hn]
      unfold relayNotification
      cases hf : NotificationFamily.ofKind? e.kind with
      | none => rfl
      | some family =>
        rw [if_neg (by simp), lines_newsNotes]
        simp only [deliverNews_of_up hup]
  · -- of what is said each line is a note
    simp [List.flatMap_map]

/-- **The notes of an event are its lines.** -/
theorem lines_handle (hup : c.Up) (s : State) (e : Event) :
    (handle c s e).lines = (notes c s e).flatMap Note.lines := by
  by_cases hk : e.kind = internalKind
  · rw [handle_of_internal hk, notes_of_not_registered (.inl hk)]
    rfl
  rcases registered_or_unanswered c s hk with ⟨calls, roster, room, h⟩ | hu
  · have hid : room.id = e.chat.id := Roster.id_of_byId? h.room
    rw [handle_of_registered h, notes_of_registered h, List.flatMap_append, lines_burstNotes]
    unfold ownNotes
    cases hs : room.hasSeen e.id with
    | true =>
      -- the burst is written again, and nothing behind it
      rw [handleIn_of_seen (deliver_of_up hup 0 _) hs]
      simp
    | false =>
      rw [handleIn_of_new (deliver_of_up hup 0 _) hs, if_neg (by simp), lines_firstNotes hup, hid]
  · obtain ⟨fault, -, heq⟩ := handle_of_unanswered hk hu
    rw [heq, notes_of_not_registered (.inr hu)]
    rfl

/-! ### Runs -/

/-- What is written in a step. -/
def Step.notes (s : State) : Step → List Note
  | deliver c e => Relay.notes c s e
  | outside _ _ => []

/-- What is written along a run. -/
def history (s : State) : List Step → List Note
  | [] => []
  | step :: rest => step.notes s ++ history (step.outcome s).state rest

theorem history_append (s : State) (steps more : List Step) :
    history s (steps ++ more) = history s steps ++ history (run s steps) more := by
  induction steps generalizing s with
  | nil => rfl
  | cons step rest ih => simp [history, ih]

/-- **The history of a run is what it writes.** -/
theorem output_eq {s : State} {steps : List Step} (hup : ∀ step ∈ steps, step.Up) :
    output s steps = (history s steps).flatMap Note.lines := by
  induction steps generalizing s with
  | nil => rfl
  | cons step rest ih =>
    have hstep : (step.outcome s).lines = (step.notes s).flatMap Note.lines := by
      cases step with
      | outside store saver => rfl
      | deliver c e => exact lines_handle (hup (.deliver c e) List.mem_cons_self) s e
    rw [output, history, List.flatMap_append, hstep,
      ih fun step hmem => hup step (List.mem_cons_of_mem _ hmem)]

end IrcGateway.Relay
