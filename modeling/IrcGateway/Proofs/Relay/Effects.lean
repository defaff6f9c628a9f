import IrcGateway.Proofs.Relay.Handling

/-!
# What an event does to the state

An event whose chat can be registered does the same to the roster on every way through: the chat is
registered, and the room of the chat is marked (`Marks`), that is, changed in nothing but the events
handled and whether the client is in the channel (`exists_marks`). Exactly one event more counts as
handled then (`hasSeen_handle_iff`).

Everything else in the state, and every line but those of the join burst, is the work of an event
that passes the check for repeats (`passes`); any other leaves it as it is
(`onlyEnters_of_not_passes`). The store is touched by messages that are relayed, and by nothing else
(`store_handle`). Of other chats an event reads no more than their cards (`personName_congr`).
-/

namespace IrcGateway.Relay

open IrcGateway.Activity IrcGateway.Chat IrcGateway.Media IrcGateway.Service

/-! ### Effects on the roster -/

/-- Whether a notification, on its first delivery, tells the client of its own leaving. -/
def takesOut (account : Account) (e : Event) : Bool :=
  !e.isSentByMeFromWeb && e.isNotification && (NotificationFamily.ofKind? e.kind).isSome &&
    (Change.ofSubtype e.subtype).removes && e.recipientIds.contains account.id

/-- The news of a notification says that the client leaves if the change removes it. -/
theorem any_leaves_news (nick : String) (account : Account) (roster : Roster) (room : Room)
    (e : Event) :
    (news nick account roster room e).any (·.leaves) =
      ((Change.ofSubtype e.subtype).removes && e.recipientIds.contains account.id) := by
  simp only [news, newsOf, List.any_map, Function.comp_def]
  cases (Change.ofSubtype e.subtype).removes with
  | false => simp
  | true =>
    rw [Bool.eq_iff_iff]
    simp

/-- A notification changes nothing but whether the client is in the channel. -/
theorem exists_roster_relayNotification (c : Circumstances) (k : Nat) (s : State) (room : Room)
    (e : Event) :
    ∃ stays, (c.Up → stays = !((NotificationFamily.ofKind? e.kind).isSome &&
        (Change.ofSubtype e.subtype).removes && e.recipientIds.contains c.account.id)) ∧
      (relayNotification c k s room e).state.roster =
        s.roster.update room.id (Room.stay stays) := by
  unfold relayNotification
  cases NotificationFamily.ofKind? e.kind with
  | none => exact ⟨true, fun _ => rfl, (s.roster.update_stay_true room.id).symm⟩
  | some family =>
    by_cases hup : c.Up
    · refine ⟨_, fun _ => rfl, ?_⟩
      simp only [deliverNews_of_up hup, any_leaves_news]
      rfl
    · -- a line failed somewhere, and how far the news got is not known
      obtain ⟨stays, lines, failed, hnews⟩ := exists_deliverNews c.writeFault room.id k
        (news c.nick c.account s.roster room e)
      exact ⟨stays, fun h => absurd h hup, congrArg Prod.fst (hnews s.roster)⟩

theorem roster_relayMessage (c : Circumstances) (k : Nat) (s : State) (room : Room) (e : Event) :
    (relayMessage c k s room e).state.roster = s.roster := by
  unfold relayMessage
  simp only
  split <;> rfl

/-- What the first handling of an event makes of the room of its chat. -/
theorem exists_roster_handleFirst (c : Circumstances) (k : Nat) (s : State) (room : Room)
    (e : Event) :
    ∃ stays, (c.Up → stays = !takesOut c.account e) ∧
      (handleFirst c k s room e).state.roster =
        s.roster.update room.id (Room.stay stays ∘ fun r => r.see e.id) := by
  simp only [← Roster.update_update (Room.keeps_see e.id)]
  unfold handleFirst takesOut
  simp only
  cases e.isSentByMeFromWeb with
  | true => exact ⟨true, fun _ => rfl, (Roster.update_stay_true _ room.id).symm⟩
  | false =>
    cases e.isNotification with
    | true =>
      -- only a notification can take the client out of the room
      obtain ⟨stays, hup, hroster⟩ := exists_roster_relayNotification c k
        { s with
          activity := (s.activity.observe room.id.text e.timestamp).1
          roster := s.roster.update room.id fun r => r.see e.id } room e
      exact ⟨stays, hup, hroster⟩
    | false =>
      exact ⟨true, fun _ => rfl,
        (roster_relayMessage c k _ room e).trans (Roster.update_stay_true _ room.id).symm⟩

/-- What an event may do to the room of its chat. -/
structure Marks (c : Circumstances) (e : Event) (room : Room) (change : Room → Room) : Prop where
  keeps : Room.Keeps change
  /-- The event counts as handled, and no other does that did not. -/
  seen : ∀ event, (change room).hasSeen event = (event == e.id || room.hasSeen event)
  /-- If lines can be written, the client is brought into the channel of a group, and is taken out
  by the first delivery of a notification that says so. -/
  joined : c.Up → (change room).joined =
    ((room.joined || room.isGroup) && !(!room.hasSeen e.id && takesOut c.account e))

/-- **What an event does to the roster.** Its chat is registered, and the chat's room is marked. -/
theorem exists_marks {c : Circumstances} {s : State} {e : Event} {calls : List Call}
    {roster : Roster} {room : Room} (h : Registered c s e calls roster room) :
    ∃ change, Marks c e room change ∧
      (handle c s e).state.roster = roster.update e.chat.id change := by
  have hid : room.id = e.chat.id := Roster.id_of_byId? h.room
  rw [handle_of_registered h]
  rcases hd : deliver c.writeFault 0 (burst c room) with ⟨lines, none | error⟩
  · have hall := deliver_eq_of_none (congrArg Prod.snd hd)
    cases hs : room.hasSeen e.id with
    | true =>
      -- handled before: the burst is all there is
      rw [handleIn_of_seen hall hs, hid]
      refine ⟨Room.enter, ⟨Room.keeps_enter, ?_, ?_⟩, rfl⟩
      · intro event
        rw [Room.hasSeen_enter]
        by_cases he : event = e.id
        · simp [he, hs]
        · simp [he]
      · simp [Room.enter, hs]
    | false =>
      -- handled now: the client comes in, the event is remembered, and its news may take it out
      rw [handleIn_of_new hall hs, hid]
      obtain ⟨stays, hup, hroster⟩ := exists_roster_handleFirst c (burst c room).length
        { s with roster := roster.update e.chat.id Room.enter } room e
      refine ⟨(Room.stay stays ∘ fun r => r.see e.id) ∘ Room.enter, ⟨?_, ?_, ?_⟩, ?_⟩
      · exact ((Room.keeps_stay stays).comp (Room.keeps_see e.id)).comp Room.keeps_enter
      · intro event
        simp [Room.hasSeen_see]
      · intro hc
        simp [Room.stay, Room.enter, hup hc, hs]
      · simp only [hroster, hid]
        rw [Roster.update_update Room.keeps_enter]
  · rw [handleIn_of_fault hd, hid]
    refine ⟨fun r => r.see e.id, ⟨Room.keeps_see e.id, Room.hasSeen_see room e.id, ?_⟩, rfl⟩
    -- the burst failed, so not every line can be written
    intro hc
    rw [deliver_of_up hc] at hd
    simp at hd

variable {c : Circumstances} {s : State} {e : Event}

/-- After an event the chat has the room in which the event was handled, marked. -/
theorem exists_marks_room {calls : List Call} {roster : Roster} {room : Room}
    (h : Registered c s e calls roster room) :
    ∃ change, Marks c e room change ∧
      (handle c s e).state.roster.byId? e.chat.id = some (change room) := by
  obtain ⟨change, hmarks, hroster⟩ := exists_marks h
  refine ⟨change, hmarks, ?_⟩
  rw [hroster, Roster.byId?_update hmarks.keeps, if_pos rfl, h.room, Option.map_some]

/-- Registering the chat of an event changes the view of no other chat. -/
theorem Registered.byId?_eq {calls : List Call} {roster : Roster} {room : Room}
    (h : Registered c s e calls roster room) (id : ContactId) :
    roster.byId? id = if id = e.chat.id then some room else s.roster.byId? id := by
  split
  · next hid => rw [hid, h.room]
  · next hid =>
    rcases h.cases with ⟨-, -, rfl⟩ | ⟨-, -, -, -, members, -, rfl⟩
    · rfl
    · rw [Roster.byId?_insert]
      exact if_neg hid

/-- What was handled in the room of an event before the event. -/
theorem Registered.hasSeen_room {calls : List Call} {roster : Roster} {room : Room}
    (h : Registered c s e calls roster room) (event : String) :
    room.hasSeen event = s.roster.hasSeen e.chat.id event := by
  unfold Roster.hasSeen
  rcases h.cases with ⟨hr, -, -⟩ | ⟨hr, -, -, hseen, -⟩
  · rw [hr, Option.any_some]
  · rw [hr, Option.any_none, Room.hasSeen, hseen]
    rfl

theorem handle_of_internal (hk : e.kind = internalKind) : handle c s e = { state := s } := by
  rw [handle, if_pos hk]

theorem handle_of_unanswered (hk : e.kind ≠ internalKind) (h : Unanswered c s e) :
    ∃ fault, c.client.members e.chat = .error fault ∧ handle c s e =
      { state := s, calls := [.members e.chat.id], result := .error (.service fault) } := by
  obtain ⟨hnew, fault, hm⟩ := h
  exact ⟨fault, hm, by rw [handle, if_neg hk, register_of_fault hnew hm]⟩

/-- What becomes of the roster: an event that is not registered leaves the whole state, any other
leaves its mark. -/
theorem handle_cases (c : Circumstances) (s : State) (e : Event) :
    ((e.kind = internalKind ∨ Unanswered c s e) ∧ (handle c s e).state = s) ∨
      ∃ calls roster room change, Registered c s e calls roster room ∧ Marks c e room change ∧
        (handle c s e).state.roster = roster.update e.chat.id change := by
  by_cases hk : e.kind = internalKind
  · exact .inl ⟨.inl hk, by rw [handle_of_internal hk]⟩
  rcases registered_or_unanswered c s hk with ⟨calls, roster, room, h⟩ | hu
  · obtain ⟨change, hmarks, hroster⟩ := exists_marks h
    exact .inr ⟨calls, roster, room, change, h, hmarks, hroster⟩
  · obtain ⟨fault, -, heq⟩ := handle_of_unanswered hk hu
    exact .inl ⟨.inr hu, by rw [heq]⟩

/-- **The events handled.** What counts as handled after an event is what counted before, and the
event itself if its chat is registered. -/
theorem hasSeen_handle_iff (c : Circumstances) (s : State) (e : Event) (id : ContactId)
    (event : String) :
    (handle c s e).state.roster.hasSeen id event = true ↔
      s.roster.hasSeen id event = true ∨
        (e.kind ≠ internalKind ∧ ¬ Unanswered c s e ∧ id = e.chat.id ∧ event = e.id) := by
  rcases handle_cases c s e with ⟨hnot, hstate⟩ | ⟨calls, roster, room, change, h, hmarks, hroster⟩
  · rw [hstate]
    tauto
  · have hk := h.kind
    have hanswered := h.not_unanswered
    unfold Roster.hasSeen
    -- in the chat of the event the mark adds the event, and other chats are not touched
    rw [hroster, Roster.byId?_update hmarks.keeps, h.byId?_eq]
    by_cases hid : id = e.chat.id
    · subst hid
      simp only [if_true, Option.map_some, Option.any_some, hmarks.seen, h.hasSeen_room,
        Bool.or_eq_true, beq_iff_eq, Roster.hasSeen]
      tauto
    · simp only [if_neg hid]
      tauto

/-- An event leaves the rooms of all other chats as they are. -/
theorem byId?_handle_of_ne {chat : ContactId} (hne : chat ≠ e.chat.id) :
    (handle c s e).state.roster.byId? chat = s.roster.byId? chat := by
  rcases handle_cases c s e with ⟨-, hstate⟩ | ⟨calls, roster, room, change, h, hmarks, hroster⟩
  · rw [hstate]
  · rw [hroster, Roster.byId?_update hmarks.keeps, if_neg hne, h.byId?_eq, if_neg hne]

/-- The roster only grows at its end. -/
theorem extends_handle (c : Circumstances) (s : State) (e : Event) :
    Roster.Extends s.roster (handle c s e).state.roster := by
  rcases handle_cases c s e with ⟨-, hstate⟩ | ⟨calls, roster, room, change, h, hmarks, hroster⟩
  · rw [hstate]
    exact Roster.Extends.refl _
  · rw [hroster]
    -- registering may add a card at the end, and the mark keeps all cards
    refine Roster.Extends.trans ?_ (Roster.Extends.update hmarks.keeps roster e.chat.id)
    rcases h.cases with ⟨-, -, rfl⟩ | ⟨-, -, -, -, members, -, rfl⟩
    · exact Roster.Extends.refl _
    · exact Roster.Extends.insert _ _

/-- What is registered after an event: what was registered before, and the chat of the event if it
is new and its members are told. -/
theorem cards_handle (c : Circumstances) (s : State) (e : Event) :
    (handle c s e).state.roster.cards = s.roster.cards ∨
      ∃ members, s.roster.byId? e.chat.id = none ∧ c.client.members e.chat = .ok members ∧
        (handle c s e).state.roster.cards = s.roster.cards ++
          [{ Room.ofChat e.chat members with
              identifier := s.roster.freeName (Room.baseName e.chat) }] := by
  rcases handle_cases c s e with ⟨-, hstate⟩ | ⟨calls, roster, room, change, h, hmarks, hroster⟩
  · rw [hstate]
    exact .inl rfl
  · rw [hroster, Roster.cards_update hmarks.keeps]
    rcases h.cases with ⟨-, -, rfl⟩ | ⟨hnew, -, -, -, members, hm, rfl⟩
    · exact .inl rfl
    · have hinsert := @Roster.insert_of_new s.roster (Room.ofChat e.chat members) hnew
      refine .inr ⟨members, hnew, hm, ?_⟩
      rw [hinsert, Roster.cards, List.map_append]
      rfl

/-- The rooms stay distinct. -/
theorem distinct_handle (c : Circumstances) {s : State} (e : Event) (hd : s.roster.Distinct) :
    (handle c s e).state.roster.Distinct := by
  rcases handle_cases c s e with ⟨-, hstate⟩ | ⟨calls, roster, room, change, h, hmarks, hroster⟩
  · rwa [hstate]
  · rw [hroster]
    refine Roster.Distinct.update ?_ hmarks.keeps e.chat.id
    rcases h.cases with ⟨-, -, rfl⟩ | ⟨-, -, -, -, members, -, rfl⟩
    · exact hd
    · exact hd.insert _

/-! ### Passing the check for repeats -/

/-- Whether an event is handled now: its chat is registered, the client is in the channel if there
is one, and the event was not handled before. -/
def passes (c : Circumstances) (s : State) (e : Event) : Bool :=
  if e.kind = internalKind then false
  else
    match (register c s.roster e.chat).2 with
    | .error _ => false
    | .ok roster =>
      match roster.byId? e.chat.id with
      | none => false
      | some room => (deliver c.writeFault 0 (burst c room)).2.isNone && !room.hasSeen e.id

theorem passes_of_registered {calls : List Call} {roster : Roster} {room : Room}
    (h : Registered c s e calls roster room) :
    passes c s e = ((deliver c.writeFault 0 (burst c room)).2.isNone && !room.hasSeen e.id) := by
  unfold passes
  rw [if_neg h.kind, h.register]
  simp only [h.room]

/-- An event that passes was not handled before, and is now. -/
theorem passes_iff : passes c s e = true ↔
    ∃ calls roster room, Registered c s e calls roster room ∧
      deliver c.writeFault 0 (burst c room) = (burst c room, none) ∧
      s.roster.hasSeen e.chat.id e.id = false := by
  constructor
  · intro hp
    by_cases hk : e.kind = internalKind
    · simp [passes, hk] at hp
    rcases registered_or_unanswered c s hk with ⟨calls, roster, room, h⟩ | ⟨hnew, fault, hm⟩
    · rw [passes_of_registered h, Bool.and_eq_true, Option.isNone_iff_eq_none] at hp
      refine ⟨calls, roster, room, h, deliver_eq_of_none hp.1, ?_⟩
      simpa [h.hasSeen_room] using hp.2
    · rw [passes, if_neg hk, register_of_fault hnew hm] at hp
      simp at hp
  · rintro ⟨calls, roster, room, h, hd, hs⟩
    rw [passes_of_registered h, hd, h.hasSeen_room, hs]
    rfl

/-- The event had no effect of its own: at most its chat was registered, the client brought into the
channel, and the event counted as handled. -/
structure OnlyEnters (c : Circumstances) (s : State) (e : Event) : Prop where
  activity : (handle c s e).state.activity = s.activity
  store : (handle c s e).state.store = s.store
  waited : (handle c s e).waited = false
  calls : (handle c s e).calls <+: [.members e.chat.id]
  /-- The lines are how the join burst begins. -/
  lines : (handle c s e).lines = [] ∨ ∃ calls roster room,
    Registered c s e calls roster room ∧ (handle c s e).lines <+: burst c room

theorem onlyEnters_of_not_passes (hp : passes c s e = false) : OnlyEnters c s e := by
  have hcalls : ∀ {calls roster room}, Registered c s e calls roster room →
      calls <+: [.members e.chat.id] := by
    intro calls roster room h
    rcases h.cases with ⟨-, rfl, -⟩ | ⟨-, rfl, -⟩
    · exact List.nil_prefix
    · exact List.prefix_rfl
  -- read off the ways an event can go, of which the last would pass
  suffices ∀ o, Handled c s e o → o.state.activity = s.activity ∧ o.state.store = s.store ∧
      o.waited = false ∧ o.calls <+: [.members e.chat.id] ∧
      (o.lines = [] ∨ ∃ calls roster room, Registered c s e calls roster room ∧
        o.lines <+: burst c room) by
    obtain ⟨h1, h2, h3, h4, h5⟩ := this _ (handled c s e)
    exact ⟨h1, h2, h3, h4, h5⟩
  intro o ho
  cases ho with
  | internal hk => exact ⟨rfl, rfl, rfl, List.nil_prefix, .inl rfl⟩
  | unanswered hk hnew hm => exact ⟨rfl, rfl, rfl, List.prefix_rfl, .inl rfl⟩
  | @unjoined calls roster room lines error h hd =>
    have hprefix := written_deliver c.writeFault 0 (burst c room)
    rw [hd] at hprefix
    exact ⟨rfl, rfl, rfl, hcalls h, .inr ⟨_, _, _, h, hprefix⟩⟩
  | repeated h hd hs => exact ⟨rfl, rfl, rfl, hcalls h, .inr ⟨_, _, _, h, List.prefix_rfl⟩⟩
  | first h hd hs ho =>
    -- this is the way of an event that passes
    rw [passes_of_registered h, hd, hs] at hp
    simp at hp

/-! ### What names depend on -/

section Names

variable {r r' : Roster}

/-- A person is named after what chats were registered with. -/
theorem personName_congr (h : r.cards = r'.cards) (room : Room) (id : ContactId) :
    personName r room id = personName r' room id := by
  have hcard : (r.byId? id).map Room.card = (r'.byId? id).map Room.card := by
    rw [← Roster.cards_find?_byId?, ← Roster.cards_find?_byId?, h]
  unfold personName
  -- a person goes by the name of a member or of a direct chat, and cards have both
  cases room.member? id with
  | some member => rfl
  | none =>
    cases hr : r.byId? id with
    | none =>
      rw [hr, Option.map_none, eq_comm, Option.map_eq_none_iff] at hcard
      rw [hcard]
    | some direct =>
      rw [hr, Option.map_some, eq_comm, Option.map_eq_some_iff] at hcard
      obtain ⟨direct', hr', hsame⟩ := hcard
      obtain ⟨-, -, hidentifier, hgroup, -⟩ := Room.card_eq_iff.mp hsame
      simp only [hr', hidentifier, hgroup]

theorem messageLines_congr (h : r.cards = r'.cards) (render : Event → String) (nick : String)
    (room : Room) (e : Event) :
    messageLines render nick r room e = messageLines render nick r' room e := by
  have hspeaker : speaker nick r room e = speaker nick r' room e := by
    simp only [speaker, personName_congr h]
  simp only [messageLines, hspeaker]

theorem news_congr (h : r.cards = r'.cards) (nick : String) (account : Account) (room : Room)
    (e : Event) : news nick account r room e = news nick account r' room e := by
  have hperson : ∀ change person, newsOf nick account r room e change person =
      newsOf nick account r' room e change person := by
    intro change person
    simp only [newsOf, author, personName_congr h]
  exact List.map_congr_left fun person _ => hperson _ person

end Names

/-! ### Relaying what is said -/

/-- Whether an event is relayed as a message: it passes, is no notification, and was not sent by the
account from elsewhere. -/
def relays (c : Circumstances) (s : State) (e : Event) : Bool :=
  passes c s e && (!e.isSentByMeFromWeb && !e.isNotification)

theorem handleFirst_of_said (c : Circumstances) (k : Nat) (s : State) (room : Room)
    (h : (!e.isSentByMeFromWeb && !e.isNotification) = true) :
    handleFirst c k s room e =
      relayMessage c k
        { s with
          activity := (s.activity.observe room.id.text e.timestamp).1
          roster := s.roster.update room.id fun r => r.see e.id } room e := by
  rw [Bool.and_eq_true, Bool.not_eq_true', Bool.not_eq_true'] at h
  unfold handleFirst
  simp only [h.1, h.2, Bool.false_eq_true, if_false]

/-- What is not said has nothing to do with files. -/
theorem handleFirst_of_not_said (c : Circumstances) (k : Nat) (s : State) (room : Room)
    (h : (!e.isSentByMeFromWeb && !e.isNotification) = false) :
    (handleFirst c k s room e).state.store = s.store ∧ (handleFirst c k s room e).calls = [] ∧
      (handleFirst c k s room e).waited = false := by
  unfold handleFirst
  simp only
  cases hweb : e.isSentByMeFromWeb with
  | true => exact ⟨rfl, rfl, rfl⟩
  | false =>
    have hnotification : e.isNotification = true := by simpa [hweb] using h
    rw [if_neg Bool.false_ne_true, if_pos hnotification]
    unfold relayNotification
    split
    · exact ⟨rfl, rfl, rfl⟩
    · exact ⟨rfl, rfl, rfl⟩

/-- The store after a message is as storing its file leaves it. -/
theorem store_relayMessage (c : Circumstances) (k : Nat) (s : State) (room : Room) (e : Event) :
    (relayMessage c k s room e).state.store = (storeMedia c s.store e).store := by
  unfold relayMessage
  simp only
  split <;> rfl

/-- An event that passes is handled behind the burst, with the client in the channel. -/
theorem handle_of_passes (hp : passes c s e = true) :
    ∃ calls roster room, Registered c s e calls roster room ∧
      handle c s e =
        let o := handleFirst c (burst c room).length
          { s with roster := roster.update room.id Room.enter } room e
        { o with calls := calls ++ o.calls, lines := burst c room ++ o.lines } := by
  obtain ⟨calls, roster, room, h, hd, hs⟩ := passes_iff.mp hp
  rw [← h.hasSeen_room] at hs
  refine ⟨calls, roster, room, h, ?_⟩
  rw [handle_of_registered h, handleIn_of_new hd hs]

/-- **What an event does to the store.** The file of a message that is relayed is stored, and
nothing else touches the store. -/
theorem store_handle (c : Circumstances) (s : State) (e : Event) :
    (handle c s e).state.store =
      if relays c s e then (storeMedia c s.store e).store else s.store := by
  unfold relays
  cases hp : passes c s e with
  | false => exact (onlyEnters_of_not_passes hp).store
  | true =>
    obtain ⟨calls, roster, room, h, hhandle⟩ := handle_of_passes hp
    rw [hhandle, Bool.true_and]
    cases hsaid : !e.isSentByMeFromWeb && !e.isNotification with
    | false => exact (handleFirst_of_not_said c _ _ room hsaid).1
    | true =>
      simp only [handleFirst_of_said c _ _ room hsaid, store_relayMessage, if_true]

end IrcGateway.Relay
