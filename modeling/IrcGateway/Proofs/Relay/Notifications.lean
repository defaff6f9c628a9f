import IrcGateway.Proofs.Relay.Drafts

/-!
# What a notification tells

A notification of a kind that can be shown tells of its recipients, of one after the other, when it
is handled for the first time (`notification_tells_recipients`). Repeated recipients are told of
repeatedly, and the client itself is told of like others, but for its being added.

Who is told of, and who did it, is named as the client knows them (`GoesBy`). Names are given by the
roster as the notification leaves it, in which the chat of the notification is registered.
-/

namespace IrcGateway.Relay

open IrcGateway.Chat IrcGateway.Protocol IrcGateway.Service

/-! ### Names -/

variable {c : Circumstances} {s : State} {e : Event} {calls : List Call} {roster : Roster}
  {room : Room}

/-- What the first delivery of a notification leaves behind. -/
theorem handle_of_news (h : Registered c s e calls roster room) (hup : c.Up)
    {family : NotificationFamily} (hfamily : NotificationFamily.ofKind? e.kind = some family)
    (hweb : e.isSentByMeFromWeb = false) (hnotification : e.isNotification = true)
    (hnew : s.roster.hasSeen e.chat.id e.id = false) :
    (handle c s e).result = .ok () ∧ (handle c s e).state.roster = roster.update e.chat.id
      (Room.stay (!((Change.ofSubtype e.subtype).removes && e.recipientIds.contains c.account.id)) ∘
        (fun r => r.see e.id) ∘ Room.enter) := by
  have hid : room.id = e.chat.id := Roster.id_of_byId? h.room
  rw [← h.hasSeen_room] at hnew
  rw [handle_of_registered h, handleIn_of_new (deliver_of_up hup 0 _) hnew]
  unfold handleFirst relayNotification
  simp only [hweb, hnotification, hfamily, Bool.false_eq_true, if_false, if_true,
    deliverNews_of_up hup, any_leaves_news, hid]
  refine ⟨rfl, ?_⟩
  -- the room is entered, then the notification is noted, then the client may be taken out
  rw [Roster.update_update Room.keeps_enter,
    Roster.update_update ((Room.keeps_see e.id).comp Room.keeps_enter)]

end IrcGateway.Relay
