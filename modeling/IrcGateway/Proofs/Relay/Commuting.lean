import IrcGateway.Proofs.Relay.Times

/-!
# Events of different chats

What is said in one chat must not depend on what was relayed for another one before. It does depend
on the whole roster, since a person may be named after a direct chat, but only on what the chats
were registered with. An event therefore meets the same in two states that are `Alike` to its chat:
the same room and the same latest time for the chat itself, the same files, and of all other chats
the same cards. From there it does the same (`SameEffect`, one lemma for each function), and an
event of another chat leaves a state alike to what it was (`alike_handle`).

The two facts together let events of different chats change places
(`events_of_different_chats_commute`): the second event is handled in a state that is alike to the
one without the first, and changes of different rooms can be made in either order.
-/

namespace IrcGateway.Chat.Roster

/-- Changes of the rooms of different chats can be made in either order. -/
theorem update_comm {first second : Room → Room} (hf : Room.Keeps first) (hs : Room.Keeps second)
    (r : Roster) {chat other : Service.ContactId} (hne : chat ≠ other) :
    (r.update chat first).update other second = (r.update other second).update chat first := by
  unfold update
  simp only [List.map_map, Roster.mk.injEq]
  refine List.map_congr_left fun room _ => ?_
  simp only [Function.comp_apply]
  by_cases hc : room.id = chat
  · have ho : room.id ≠ other := fun h => hne (hc.symm.trans h)
    have ho' : (first room).id ≠ other := by rwa [hf.id]
    rw [if_pos hc, if_neg ho', if_neg ho, if_pos hc]
  · by_cases ho : room.id = other
    · have hc' : (second room).id ≠ chat := by rwa [hs.id]
      rw [if_neg hc, if_pos ho, if_neg hc']
    · rw [if_neg hc, if_neg ho, if_neg hc]

theorem cards_update_congr {change : Room → Room} (hc : Room.Keeps change) {r r' : Roster}
    (h : r.cards = r'.cards) (chat : Service.ContactId) :
    (r.update chat change).cards = (r'.update chat change).cards := by
  rw [cards_update hc, cards_update hc, h]

end IrcGateway.Chat.Roster

namespace IrcGateway.Relay

open IrcGateway.Activity IrcGateway.Chat IrcGateway.Media IrcGateway.Service

/-! ### Having the same effect -/

/-- Two states in which an event of a chat meets the same. -/
structure Alike (chat : ContactId) (s s' : State) : Prop where
  room : s.roster.byId? chat = s'.roster.byId? chat
  cards : s.roster.cards = s'.roster.cards
  store : s.store = s'.store
  time : s.activity.times.get? chat.text = s'.activity.times.get? chat.text

/-- What came of an event of a chat in one state and in another one: the same was written and asked
for, with the same result, the store is the same, and the chat's room changed in the same way. -/
structure SameEffect (chat : ContactId) (s s' : State) (o o' : Outcome) : Prop where
  calls : o.calls = o'.calls
  lines : o.lines = o'.lines
  waited : o.waited = o'.waited
  result : o.result = o'.result
  store : o.state.store = o'.state.store
  roster : ∃ change, Room.Keeps change ∧ o.state.roster = s.roster.update chat change ∧
    o'.state.roster = s'.roster.update chat change

variable {s s' : State}

/-- In both states the room may stay as it is. -/
theorem exists_update_eq_self (s s' : State) (chat : ContactId) :
    ∃ change, Room.Keeps change ∧ s.roster = s.roster.update chat change ∧
      s'.roster = s'.roster.update chat change :=
  ⟨fun room => room, fun _ => rfl, (s.roster.update_self chat).symm,
    (s'.roster.update_self chat).symm⟩

/-- The room may have been changed in the same way before. -/
theorem SameEffect.of_update {chat : ContactId} {t t' : State} {o o' : Outcome}
    (h : SameEffect chat t t' o o') {first : Room → Room} (hf : Room.Keeps first)
    (ht : t.roster = s.roster.update chat first) (ht' : t'.roster = s'.roster.update chat first) :
    SameEffect chat s s' o o' := by
  obtain ⟨change, hkeeps, hroster, hroster'⟩ := h.roster
  refine ⟨h.calls, h.lines, h.waited, h.result, h.store, change ∘ first, hkeeps.comp hf, ?_, ?_⟩
  · rw [hroster, ht, Roster.update_update hf]
  · rw [hroster', ht', Roster.update_update hf]

theorem sameEffect_relayNotification (c : Circumstances) (k : Nat) (room : Room) (e : Event)
    (hcards : s.roster.cards = s'.roster.cards) (hstore : s.store = s'.store) :
    SameEffect room.id s s' (relayNotification c k s room e) (relayNotification c k s' room e) := by
  have hnews := news_congr hcards c.nick c.account room e
  unfold relayNotification
  cases NotificationFamily.ofKind? e.kind with
  | none => exact ⟨rfl, rfl, rfl, rfl, hstore, exists_update_eq_self s s' room.id⟩
  | some family =>
    -- the news is the same, and giving it out does not look at the roster
    obtain ⟨stays, lines, failed, hdeliver⟩ := exists_deliverNews c.writeFault room.id k
      (news c.nick c.account s.roster room e)
    simp only [← hnews, hdeliver]
    exact ⟨rfl, rfl, rfl, rfl, hstore, _, Room.keeps_stay stays, rfl, rfl⟩

theorem sameEffect_relayMessage (c : Circumstances) (k : Nat) (room : Room) (e : Event)
    (hcards : s.roster.cards = s'.roster.cards) (hstore : s.store = s'.store) :
    SameEffect room.id s s' (relayMessage c k s room e) (relayMessage c k s' room e) := by
  have hroster : ∃ change, Room.Keeps change ∧
      (relayMessage c k s room e).state.roster = s.roster.update room.id change ∧
      (relayMessage c k s' room e).state.roster = s'.roster.update room.id change := by
    rw [roster_relayMessage, roster_relayMessage]
    exact exists_update_eq_self s s' room.id
  -- the same file is stored, the same is rendered with it, and the names are the same
  unfold relayMessage at hroster ⊢
  simp only [hstore, messageLines_congr hcards] at hroster ⊢
  cases hresult : (storeMedia c s'.store e).result with
  | error error =>
    simp only [hresult] at hroster ⊢
    exact ⟨rfl, rfl, rfl, rfl, rfl, hroster⟩
  | ok _ =>
    simp only [hresult] at hroster ⊢
    exact ⟨rfl, rfl, rfl, rfl, rfl, hroster⟩

theorem sameEffect_handleFirst (c : Circumstances) (k : Nat) (room : Room) (e : Event)
    (hcards : s.roster.cards = s'.roster.cards) (hstore : s.store = s'.store) :
    SameEffect room.id s s' (handleFirst c k s room e) (handleFirst c k s' room e) := by
  have hkeeps : Room.Keeps fun r => r.see e.id := Room.keeps_see e.id
  have hcards' : (s.roster.update room.id fun r => r.see e.id).cards =
      (s'.roster.update room.id fun r => r.see e.id).cards :=
    Roster.cards_update_congr hkeeps hcards room.id
  -- what the client has sent itself, a notification, or a message
  unfold handleFirst
  simp only
  split
  · exact ⟨rfl, rfl, rfl, rfl, hstore, _, hkeeps, rfl, rfl⟩
  split
  · refine SameEffect.of_update (sameEffect_relayNotification c k room e ?_ ?_) hkeeps rfl rfl
    · exact hcards'
    · exact hstore
  · refine SameEffect.of_update (sameEffect_relayMessage c k room e ?_ ?_) hkeeps rfl rfl
    · exact hcards'
    · exact hstore

theorem sameEffect_handleIn (c : Circumstances) (room : Room) (e : Event)
    (hcards : s.roster.cards = s'.roster.cards) (hstore : s.store = s'.store) :
    SameEffect room.id s s' (handleIn c s room e) (handleIn c s' room e) := by
  rcases hd : deliver c.writeFault 0 (burst c room) with ⟨lines, none | error⟩
  · have hall := deliver_eq_of_none (congrArg Prod.snd hd)
    cases hs : room.hasSeen e.id with
    | true =>
      rw [handleIn_of_seen hall hs, handleIn_of_seen hall hs]
      exact ⟨rfl, rfl, rfl, rfl, hstore, _, Room.keeps_enter, rfl, rfl⟩
    | false =>
      rw [handleIn_of_new hall hs, handleIn_of_new hall hs]
      -- the client comes in first, in both states
      have hfirst : SameEffect room.id s s'
          (handleFirst c (burst c room).length
            { s with roster := s.roster.update room.id Room.enter } room e)
          (handleFirst c (burst c room).length
            { s' with roster := s'.roster.update room.id Room.enter } room e) := by
        refine SameEffect.of_update (sameEffect_handleFirst c _ room e ?_ ?_)
          Room.keeps_enter rfl rfl
        · exact Roster.cards_update_congr Room.keeps_enter hcards room.id
        · exact hstore
      exact ⟨hfirst.calls, congrArg (burst c room ++ ·) hfirst.lines, hfirst.waited, hfirst.result,
        hfirst.store, hfirst.roster⟩
  · rw [handleIn_of_fault hd, handleIn_of_fault hd]
    exact ⟨rfl, rfl, rfl, rfl, hstore, _, Room.keeps_see e.id, rfl, rfl⟩

variable {c : Circumstances} {e : Event}

/-- The chat of an event has the same room in two states that are alike to it. -/
theorem Alike.registered (halike : Alike e.chat.id s s')
    (hreg : (s.roster.byId? e.chat.id).isSome = true) (hk : e.kind ≠ internalKind) :
    ∃ room, Registered c s e [] s.roster room ∧ Registered c s' e [] s'.roster room := by
  obtain ⟨room, hr⟩ := Option.isSome_iff_exists.mp hreg
  have hr' : s'.roster.byId? e.chat.id = some room := halike.room ▸ hr
  exact ⟨room, ⟨hk, register_of_known hr, hr⟩, hk, register_of_known hr', hr'⟩

/-- **In states that are alike to its chat an event does the same.** -/
theorem sameEffect_handle (c : Circumstances) (halike : Alike e.chat.id s s')
    (hreg : (s.roster.byId? e.chat.id).isSome = true) :
    SameEffect e.chat.id s s' (handle c s e) (handle c s' e) := by
  by_cases hk : e.kind = internalKind
  · rw [handle_of_internal hk, handle_of_internal hk]
    exact ⟨rfl, rfl, rfl, rfl, halike.store, exists_update_eq_self s s' e.chat.id⟩
  obtain ⟨room, h, h'⟩ := halike.registered (c := c) hreg hk
  have hid : room.id = e.chat.id := Roster.id_of_byId? h.room
  rw [handle_of_registered h, handle_of_registered h', ← hid]
  exact sameEffect_handleIn c room e halike.cards halike.store

theorem passes_eq_of_alike (c : Circumstances) (halike : Alike e.chat.id s s')
    (hreg : (s.roster.byId? e.chat.id).isSome = true) : passes c s e = passes c s' e := by
  by_cases hk : e.kind = internalKind
  · rw [passes, passes, if_pos hk, if_pos hk]
  obtain ⟨room, h, h'⟩ := halike.registered (c := c) hreg hk
  rw [passes_of_registered h, passes_of_registered h']

/-- In states that are alike to its chat an event leaves the same latest time of the chat. -/
theorem time_handle_eq_of_alike (c : Circumstances) (halike : Alike e.chat.id s s')
    (hreg : (s.roster.byId? e.chat.id).isSome = true) :
    (handle c s e).state.activity.times.get? e.chat.id.text =
      (handle c s' e).state.activity.times.get? e.chat.id.text := by
  rw [activity_handle, activity_handle, ← passes_eq_of_alike c halike hreg]
  cases passes c s e with
  | false => exact halike.time
  | true =>
    simp only [if_true, Tracker.times_observe, Times.get?_observe, halike.time]

/-! ### Leaving other chats alone -/

theorem cards_handle_of_isSome (c : Circumstances)
    (hreg : (s.roster.byId? e.chat.id).isSome = true) :
    (handle c s e).state.roster.cards = s.roster.cards := by
  rcases cards_handle c s e with hcards | ⟨members, hnew, -, -⟩
  · exact hcards
  · rw [hnew] at hreg
    exact absurd hreg (by simp)

theorem store_handle_of_no_media (c : Circumstances) (s : State) (hm : e.media = none) :
    (handle c s e).state.store = s.store := by
  rw [store_handle, storeMedia, hm]
  exact ite_self _

/-- **An event leaves a state that is alike to any other chat.** -/
theorem alike_handle (c : Circumstances) (hreg : (s.roster.byId? e.chat.id).isSome = true)
    (hm : e.media = none) {chat : ContactId} (hne : chat.text ≠ e.chat.id.text) :
    Alike chat s (handle c s e).state where
  room := (byId?_handle_of_ne fun h => hne (congrArg ContactId.text h)).symm
  cards := (cards_handle_of_isSome c hreg).symm
  store := (store_handle_of_no_media c s hm).symm
  time := (time_handle_of_ne c s hne).symm

/-! ### Changing places -/

/-- **Events of different chats commute.** In every state in which two different chats are
registered, an event of the one and an event of the other, neither with a file of its own, may be
handled in either order. Roster, times and store are the same in the end; and whichever comes first,
for each event the same lines are written and the same is asked for, with the same result. No event
of any kind changes anything that is remembered of another chat than its own. -/
theorem events_of_different_chats_commute (s : State) (c c' : Circumstances) (a b : Event)
    (ha : (s.roster.byId? a.chat.id).isSome = true) (hb : (s.roster.byId? b.chat.id).isSome = true)
    (hne : a.chat.id.text ≠ b.chat.id.text) (hma : a.media = none) (hmb : b.media = none) :
    let a₁ := handle c s a
    let b₂ := handle c' a₁.state b
    let b₁ := handle c' s b
    let a₂ := handle c b₁.state a
    b₂.state.roster = a₂.state.roster ∧
      (∀ chat, b₂.state.activity.times.get? chat = a₂.state.activity.times.get? chat) ∧
      b₂.state.store = a₂.state.store ∧
      (a₁.lines = a₂.lines ∧ a₁.calls = a₂.calls ∧ a₁.waited = a₂.waited ∧
        a₁.result = a₂.result) ∧
      (b₁.lines = b₂.lines ∧ b₁.calls = b₂.calls ∧ b₁.waited = b₂.waited ∧
        b₁.result = b₂.result) ∧
      ∀ c'' s' e,
        (∀ chat, chat ≠ e.chat.id →
          (handle c'' s' e).state.roster.byId? chat = s'.roster.byId? chat) ∧
        ∀ chat, chat ≠ e.chat.id.text →
          (handle c'' s' e).state.activity.times.get? chat = s'.activity.times.get? chat := by
  intro a₁ b₂ b₁ a₂
  have halikeA : Alike a.chat.id s b₁.state := alike_handle c' hb hmb hne
  have halikeB : Alike b.chat.id s a₁.state := alike_handle c ha hma hne.symm
  have heffectA : SameEffect a.chat.id s b₁.state a₁ a₂ := sameEffect_handle c halikeA ha
  have heffectB : SameEffect b.chat.id s a₁.state b₁ b₂ := sameEffect_handle c' halikeB hb
  refine ⟨?_, ?_, ?_, ⟨heffectA.lines, heffectA.calls, heffectA.waited, heffectA.result⟩,
    ⟨heffectB.lines, heffectB.calls, heffectB.waited, heffectB.result⟩, ?_⟩
  · -- each event changes its own room, in the same way in both orders
    obtain ⟨changeA, hkeepsA, ha₁, ha₂⟩ := heffectA.roster
    obtain ⟨changeB, hkeepsB, hb₁, hb₂⟩ := heffectB.roster
    have hchat : a.chat.id ≠ b.chat.id := fun h => hne (congrArg ContactId.text h)
    calc b₂.state.roster = (s.roster.update a.chat.id changeA).update b.chat.id changeB := by
          rw [hb₂, ha₁]
      _ = (s.roster.update b.chat.id changeB).update a.chat.id changeA :=
          Roster.update_comm hkeepsA hkeepsB s.roster hchat
      _ = a₂.state.roster := by rw [ha₂, hb₁]
  · -- the time of a chat is touched by its own event, which sees the same time in both orders
    intro chat
    by_cases hchat : chat = a.chat.id.text
    · subst hchat
      calc b₂.state.activity.times.get? a.chat.id.text
          = a₁.state.activity.times.get? a.chat.id.text := time_handle_of_ne c' _ hne
        _ = a₂.state.activity.times.get? a.chat.id.text := time_handle_eq_of_alike c halikeA ha
    · have ha₂ : a₂.state.activity.times.get? chat = b₁.state.activity.times.get? chat :=
        time_handle_of_ne c _ hchat
      by_cases hchat' : chat = b.chat.id.text
      · subst hchat'
        rw [ha₂]
        exact (time_handle_eq_of_alike c' halikeB hb).symm
      · -- the time of a third chat is not touched at all
        calc b₂.state.activity.times.get? chat = a₁.state.activity.times.get? chat :=
              time_handle_of_ne c' _ hchat'
          _ = s.activity.times.get? chat := time_handle_of_ne c s hchat
          _ = b₁.state.activity.times.get? chat := (time_handle_of_ne c' s hchat').symm
          _ = a₂.state.activity.times.get? chat := ha₂.symm
  · -- neither event brings a file
    calc b₂.state.store = s.store := (store_handle_of_no_media c' _ hmb).trans
          (store_handle_of_no_media c s hma)
      _ = a₂.state.store := ((store_handle_of_no_media c _ hma).trans
          (store_handle_of_no_media c' s hmb)).symm
  · intro c'' s' e
    exact ⟨fun chat hchat => byId?_handle_of_ne hchat, fun chat hchat =>
      time_handle_of_ne c'' s' hchat⟩

/-- Bob leaves the family and answers in the direct chat, after which he is named in both. Whichever
is told first, the client reads the same of either. -/
theorem leaving_and_answering_commute :
    let direct : Service.Chat := ⟨Sample.bob, "Bob", false⟩
    let s : State :=
      { State.start {} default with
        roster := (Roster.insert {} (Room.ofChat Sample.family [])).insert (Room.ofChat direct []) }
    let a := Sample.leave "n1" [Sample.bob]
    let b : Event :=
      { id := "m1", chat := direct, timestamp := 7, origin := some Sample.bob, body := "Gone"
        quoted := some { id := "m0", chat := direct, timestamp := 0, body := "Still there?" } }
    (s.roster.byId? a.chat.id).isSome = true ∧ (s.roster.byId? b.chat.id).isSome = true ∧
      a.chat.id.text ≠ b.chat.id.text ∧
      (handle Sample.plain (handle Sample.plain s b).state a).lines.map (·.line) =
        [":alice JOIN #Family", ":whapp-irc 332 alice #Family Family",
          ":whapp-irc 353 alice = #Family alice",
          ":whapp-irc 366 alice #Family :End of /NAMES list", ":Bob PART #Family"] ∧
      (handle Sample.plain (handle Sample.plain s a).state b).lines.map (·.line) =
        [":Bob PRIVMSG alice :> Still there?", ":Bob PRIVMSG alice Gone"] := by
  intro direct s a b
  have ha : (s.roster.byId? a.chat.id).isSome = true := by decide +kernel
  have hb : (s.roster.byId? b.chat.id).isSome = true := by decide +kernel
  have hne : a.chat.id.text ≠ b.chat.id.text := by decide +kernel
  obtain ⟨-, -, -, ⟨hlinesA, -⟩, ⟨hlinesB, -⟩, -⟩ :=
    events_of_different_chats_commute s Sample.plain Sample.plain a b ha hb hne rfl rfl
  refine ⟨ha, hb, hne, ?_, ?_⟩
  · rw [← hlinesA]
    decide +kernel
  · rw [← hlinesB]
    decide +kernel

end IrcGateway.Relay
