import IrcGateway.Proofs.Relay.Files
import IrcGateway.Proofs.Relay.OneLine

/-!
# What an event is to write

The lines of a relay are texts, from which nobody can tell for sure what they were meant to say. The
drafts of an event (`drafts`) are its lines before they become texts: the join burst, and then what
is said or what a notification tells of its recipients. What is written are the drafts, up to the
first line that cannot be written, and all of them if the event is handled without an error
(`writes_handle`).

They are made for the room of the event's chat, be it registered or new (`RoomFor`).
-/

namespace IrcGateway.Relay

open IrcGateway.Activity IrcGateway.Chat IrcGateway.Media IrcGateway.Protocol IrcGateway.Service
open IrcGateway.Time

/-! ### The room of an event -/

/-- The room in which an event is handled: the one its chat has, or else the one that is made for it
with the members that the service tells. -/
inductive RoomFor (c : Circumstances) (s : State) (e : Event) : Room → Prop where
  | known {room : Room} (hk : e.kind ≠ internalKind) (h : s.roster.byId? e.chat.id = some room) :
      RoomFor c s e room
  | new {members : List Participant} (hk : e.kind ≠ internalKind)
      (h : s.roster.byId? e.chat.id = none) (hm : c.client.members e.chat = .ok members) :
      RoomFor c s e { Room.ofChat e.chat members with
        identifier := s.roster.freeName (Room.baseName e.chat) }

section

variable {c : Circumstances} {s : State} {e : Event} {room : Room}

theorem RoomFor.registered (h : RoomFor c s e room) :
    ∃ calls roster, Registered c s e calls roster room := by
  cases h with
  | known hk h => exact ⟨_, _, hk, register_of_known h, h⟩
  | new hk h hm =>
    refine ⟨_, _, hk, register_of_members h hm, ?_⟩
    rw [Roster.byId?_insert, if_pos (show e.chat.id = (Room.ofChat e.chat _).id from rfl), h]
    rfl

theorem Registered.roomFor {calls : List Call} {roster : Roster}
    (h : Registered c s e calls roster room) : RoomFor c s e room := by
  cases hr : s.roster.byId? e.chat.id with
  | some known =>
    obtain ⟨hsame, -⟩ | ⟨hnew, -⟩ := h.cases
    · exact .known h.kind hsame
    · simp [hr] at hnew
  | none =>
    obtain ⟨hsame, -⟩ | ⟨-, -, -, -, members, hm, hroster⟩ := h.cases
    · simp [hr] at hsame
    · have hroom := h.room
      rw [hroster, Roster.byId?_insert,
        if_pos (show e.chat.id = (Room.ofChat e.chat _).id from rfl), hr] at hroom
      obtain rfl := Option.some.inj hroom
      exact .new h.kind hr hm

end

/-! ### Drafts -/

/-- A line that is to be written, with its stamp. -/
structure Draft where
  stamp : Stamp
  line : Line
  deriving DecidableEq, Repr

def Draft.dated (d : Draft) : Dated :=
  ⟨d.stamp, d.line.text⟩

/-- The join burst, where the client has to be brought into the channel. -/
def joinDrafts (c : Circumstances) (room : Room) : List Draft :=
  if room.isGroup && !room.joined then
    [.join c.nick room.identifier, .topic c.nick room.identifier room.name,
      .names c.nick room.identifier (memberNicks c.nick c.account room),
      .endOfNames c.nick room.identifier].map (⟨.clock, ·⟩)
  else []

/-- A text as private messages. -/
def textDrafts (stamp : Stamp) (sender target text mark : String) : List Draft :=
  (textLines text).map fun line => ⟨stamp, .privmsg sender target (mark ++ line)⟩

/-- What is said, with what it quotes. -/
def speechDrafts (c : Circumstances) (store : Store) (roster : Roster) (room : Room) (e : Event) :
    List Draft :=
  let sender := speaker c.nick roster room e
  let target := target c.nick room e
  (match e.quoted with
    | some q => textDrafts e.stamp sender target (shown c room store q) quoteMark
    | none => [])
    ++ textDrafts e.stamp sender target (shown c room store e) ""

/-- The nick that a person goes by: the client goes by its own. -/
def nickOf (c : Circumstances) (roster : Roster) (room : Room) (id : ContactId) : String :=
  if id = c.account.id then c.nick else personName roster room id

/-- What a change says of its recipients, of one after the other: those who come JOIN, those who go
PART or are KICKed, and of a missed call they are told. Of the coming of the client itself nothing
is said. -/
def recipientLines (own : ContactId) (name : ContactId → String) (author target : String)
    (recipients : List ContactId) : Change → List Line
  | .add => (recipients.filter (· ≠ own)).map fun id => .join (name id) target
  | .leave => recipients.map fun id => .part (name id) target
  | .remove => recipients.map fun id => .kick author target (name id)
  | .miss => recipients.map fun _ => .privmsg author target missedCall
  | .create => []
  | .unknown _ => []

/-- The lines of a notification. -/
def newsDrafts (c : Circumstances) (roster : Roster) (room : Room) (e : Event) : List Draft :=
  (recipientLines c.account.id (nickOf c roster room) (author c.nick c.account roster room e)
    room.identifier e.recipientIds (Change.ofSubtype e.subtype)).map (⟨e.stamp, ·⟩)

/-- What an event writes of its own, if it was not handled before. -/
def ownDrafts (c : Circumstances) (store : Store) (roster : Roster) (room : Room) (e : Event) :
    List Draft :=
  if e.isSentByMeFromWeb then []
  else if e.isNotification then
    match NotificationFamily.ofKind? e.kind with
    | none => []
    | some _ => newsDrafts c roster room e
  else speechDrafts c store roster room e

/-- **All that an event is to write** in the room of its chat. -/
def drafts (c : Circumstances) (store : Store) (roster : Roster) (room : Room) (e : Event) :
    List Draft :=
  joinDrafts c room ++ if room.hasSeen e.id then [] else ownDrafts c store roster room e

theorem drafts_of_new {c : Circumstances} {store : Store} {roster : Roster} {room : Room}
    {e : Event} (hnew : room.hasSeen e.id = false) :
    drafts c store roster room e = joinDrafts c room ++ ownDrafts c store roster room e := by
  rw [drafts, hnew, if_neg Bool.false_ne_true]

theorem ownDrafts_of_said {c : Circumstances} {store : Store} {roster : Roster} {room : Room}
    {e : Event} (hweb : e.isSentByMeFromWeb = false) (hsaid : e.isNotification = false) :
    ownDrafts c store roster room e = speechDrafts c store roster room e := by
  rw [ownDrafts, hweb, hsaid, if_neg Bool.false_ne_true, if_neg Bool.false_ne_true]

theorem ownDrafts_of_news {c : Circumstances} {store : Store} {roster : Roster} {room : Room}
    {e : Event} {family : NotificationFamily} (hweb : e.isSentByMeFromWeb = false)
    (hnotification : e.isNotification = true)
    (hfamily : NotificationFamily.ofKind? e.kind = some family) :
    ownDrafts c store roster room e = newsDrafts c roster room e := by
  rw [ownDrafts, hweb, hnotification, hfamily, if_neg Bool.false_ne_true, if_pos rfl]

/-! ### Drafts are what is written -/

section

variable (c : Circumstances) (store : Store) (roster : Roster) (room : Room) (e : Event)

theorem map_joinDrafts : (joinDrafts c room).map Draft.dated = burst c room := by
  unfold joinDrafts burst
  split <;> rfl

theorem map_speechDrafts : (speechDrafts c store roster room e).map Draft.dated =
    messageLines (shown c room store) c.nick roster room e := by
  have htext : ∀ stamp sender target text mark,
      (textDrafts stamp sender target text mark).map Draft.dated =
        textMessages stamp sender target text mark := by
    intro stamp sender target text mark
    exact List.map_map
  unfold speechDrafts messageLines
  rw [List.map_append, htext]
  cases e.quoted with
  | none => rfl
  | some q => simp only [htext]

theorem map_newsDrafts : (newsDrafts c roster room e).map Draft.dated =
    (news c.nick c.account roster room e).filterMap (·.line) := by
  unfold newsDrafts news
  rw [List.map_map, List.filterMap_map]
  cases hchange : Change.ofSubtype e.subtype with
  | create => simp [recipientLines, newsOf, Function.comp_def]
  | unknown subtype => simp [recipientLines, newsOf, Function.comp_def]
  | leave => simp [recipientLines, newsOf, Function.comp_def, nickOf, Draft.dated]
  | remove => simp [recipientLines, newsOf, Function.comp_def, nickOf, Draft.dated]
  | miss => simp [recipientLines, newsOf, Function.comp_def, Draft.dated]
  | add =>
    -- the client itself is left out
    unfold recipientLines
    induction e.recipientIds with
    | nil => rfl
    | cons id rest ih =>
      by_cases hown : id = c.account.id
      · rw [List.filter_cons_of_neg (by simpa using hown), ih]
        simp [newsOf, hown]
      · rw [List.filter_cons_of_pos (by simpa using hown), List.map_cons, List.map_cons]
        simpa [newsOf, hown, nickOf, Draft.dated] using ih

end

/-- The lines of an outcome are drafts that become texts: they are how the drafts begin, and are all
of them unless something failed. -/
structure Outcome.Writes (o : Outcome) (ds : List Draft) : Prop where
  lines_prefix : o.lines <+: ds.map Draft.dated
  lines_eq : o.result = .ok () → o.lines = ds.map Draft.dated

/-- News is given out in order, up to the first line that cannot be written. -/
theorem written_deliverNews (fault : Nat → Option WriteError) (chat : ContactId) (k : Nat)
    (roster : Roster) (news : List News) :
    (deliverNews fault chat k roster news).2.1 <+: news.filterMap (·.line) ∧
      ((deliverNews fault chat k roster news).2.2 = none →
        (deliverNews fault chat k roster news).2.1 = news.filterMap (·.line)) := by
  induction news generalizing k roster with
  | nil => exact ⟨List.prefix_rfl, fun _ => rfl⟩
  | cons first rest ih =>
    unfold deliverNews
    rw [ite_leaves_eq_update]
    cases hl : first.line with
    | none =>
      rw [List.filterMap_cons_none hl]
      exact ih k _
    | some line =>
      rw [List.filterMap_cons_some hl]
      cases fault k with
      | some error => exact ⟨List.nil_prefix, fun hfailed => by simp at hfailed⟩
      | none =>
        -- the next write is the next one of the event, whatever was news without a line
        obtain ⟨hstart, heq⟩ := ih (k + 1) (roster.update chat (Room.stay !first.leaves))
        exact ⟨(List.prefix_cons_inj line).mpr hstart,
          fun hfailed => congrArg (line :: ·) (heq hfailed)⟩

theorem written_eq_ok_iff {failed : Option WriteError} :
    written failed = .ok () ↔ failed = none := by
  cases failed with
  | none => simp [written]
  | some error => simp [written]

variable {c : Circumstances} {s : State} {e : Event} {calls : List Call} {roster : Roster}
  {room : Room}

theorem writes_relayNotification (k : Nat) {family : NotificationFamily}
    (h : NotificationFamily.ofKind? e.kind = some family) :
    (relayNotification c k s room e).Writes (newsDrafts c s.roster room e) := by
  obtain ⟨hstart, heq⟩ := written_deliverNews c.writeFault room.id k s.roster
    (news c.nick c.account s.roster room e)
  unfold relayNotification
  rw [h]
  constructor
  · rw [map_newsDrafts]
    exact hstart
  · intro hresult
    rw [map_newsDrafts]
    exact heq (written_eq_ok_iff.mp hresult)

theorem writes_relayMessage (k : Nat) :
    (relayMessage c k s room e).Writes
      (speechDrafts c (relayMessage c k s room e).state.store s.roster room e) := by
  unfold relayMessage
  simp only
  split
  · exact ⟨List.nil_prefix, fun hresult => by simp at hresult⟩
  · constructor
    · rw [map_speechDrafts]
      exact written_deliver _ _ _
    · intro hresult
      rw [map_speechDrafts]
      exact congrArg Prod.fst (deliver_eq_of_none (written_eq_ok_iff.mp hresult))

/-- Drafts depend on the roster only in what chats were registered with. -/
theorem ownDrafts_congr {roster roster' : Roster} (h : roster.cards = roster'.cards)
    (store : Store) : ownDrafts c store roster room e = ownDrafts c store roster' room e := by
  have hnick : nickOf c roster room = nickOf c roster' room := by
    funext id
    simp only [nickOf, personName_congr h]
  simp only [ownDrafts, newsDrafts, speechDrafts, author, speaker, personName_congr h, hnick]

/-- An event that is handled now writes its own drafts. -/
theorem writes_handleFirst (k : Nat) :
    (handleFirst c k s room e).Writes
      (ownDrafts c (handleFirst c k s room e).state.store s.roster room e) := by
  have hcards : (s.roster.update room.id fun r => r.see e.id).cards = s.roster.cards :=
    Roster.cards_update (Room.keeps_see e.id) _ _
  rw [← ownDrafts_congr hcards]
  unfold handleFirst ownDrafts
  simp only
  cases e.isSentByMeFromWeb with
  | true => exact ⟨List.prefix_rfl, fun _ => rfl⟩
  | false =>
    cases e.isNotification with
    | true =>
      simp only [Bool.false_eq_true, if_false, if_true]
      cases hfamily : NotificationFamily.ofKind? e.kind with
      | none =>
        -- of an unknown kind nothing is written, and the event fails
        rw [relayNotification, hfamily]
        exact ⟨List.nil_prefix, fun hresult => by simp at hresult⟩
      | some family => exact writes_relayNotification k hfamily
    | false =>
      simp only [Bool.false_eq_true, if_false]
      exact writes_relayMessage k

/-- **What is written are the drafts**, for the files and the chats as they are afterwards. -/
theorem writes_handle (h : Registered c s e calls roster room) :
    (handle c s e).Writes
      (drafts c (handle c s e).state.store (handle c s e).state.roster room e) := by
  have hcards : (roster.update room.id Room.enter).cards = roster.cards :=
    Roster.cards_update Room.keeps_enter _ _
  unfold drafts
  rw [ownDrafts_congr h.cards_eq, handle_of_registered h]
  rcases hd : deliver c.writeFault 0 (burst c room) with ⟨lines, none | error⟩
  · have hall := deliver_eq_of_none (congrArg Prod.snd hd)
    cases hs : room.hasSeen e.id with
    | true =>
      -- a repeated event is the burst alone
      rw [handleIn_of_seen hall hs]
      constructor <;> simp [map_joinDrafts]
    | false =>
      rw [handleIn_of_new hall hs]
      simp only [Bool.false_eq_true, if_false]
      have hown := @writes_handleFirst c { s with roster := roster.update room.id Room.enter } e
        room (burst c room).length
      rw [ownDrafts_congr hcards] at hown
      constructor
      · rw [List.map_append, map_joinDrafts]
        exact (List.prefix_append_right_inj _).mpr hown.lines_prefix
      · intro hresult
        rw [List.map_append, map_joinDrafts]
        exact congrArg (burst c room ++ ·) (hown.lines_eq hresult)
  · -- the client could not be brought into the channel
    have hstart := written_deliver c.writeFault 0 (burst c room)
    rw [handleIn_of_fault hd]
    constructor
    · rw [List.map_append, map_joinDrafts]
      rw [hd] at hstart
      exact hstart.trans (List.prefix_append _ _)
    · intro hresult
      simp at hresult

end IrcGateway.Relay
