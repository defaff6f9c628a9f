import IrcGateway.Proofs.Relay.Run

/-!
# Delivering an event again

An event that counts as handled is not handled again: nobody is asked for anything, no line is
relayed, and the events handled, the times and the store stay as they are. The join burst stands
before the check for repeats, however. A repeated event of a group whose channel the client is not
in therefore brings it there (`handle_of_hasSeen`).

While lines can be written, only news of the client's own leaving takes it out of a channel
(`exists_room_handle`). Of an event delivered twice in a row the second delivery therefore does
nothing, unless the event is just such news, delivered for the first time: the client is told that
it left, and then that it is in the channel again.
-/

namespace IrcGateway.Relay

open IrcGateway.Activity IrcGateway.Chat IrcGateway.Media IrcGateway.Service

variable {c : Circumstances} {s : State} {e : Event}

/-- What a repeated event does: it brings the client into a channel where it is not. -/
theorem handle_of_hasSeen (hd : s.roster.Distinct) (hup : c.Up) {room : Room}
    (hr : s.roster.byId? e.chat.id = some room) (hs : room.hasSeen e.id = true) :
    handle c s e =
      if e.kind ≠ internalKind ∧ room.isGroup = true ∧ room.joined = false then
        { state := { s with roster := s.roster.update e.chat.id Room.enter }
          lines := joinLines c.nick c.account room }
      else { state := s } := by
  by_cases hk : e.kind = internalKind
  · rw [handle_of_internal hk, if_neg (by simp [hk])]
  have h : Registered c s e [] s.roster room := ⟨hk, register_of_known hr, hr⟩
  have hid : room.id = e.chat.id := Roster.id_of_byId? hr
  rw [handle_of_registered h, handleIn_of_seen (deliver_of_up hup 0 _) hs, hid]
  by_cases hout : room.isGroup = true ∧ room.joined = false
  · rw [if_pos ⟨hk, hout⟩, burst_of_out c hout.1 hout.2]
    rfl
  · -- there is no burst, and coming in where the client is already changes nothing
    have hin : room.isGroup = true → room.joined = true := by
      intro hg
      simpa [hg] using hout
    rw [if_neg fun hc => hout hc.2, burst_eq_nil c hin,
      hd.update_eq_self hr (Room.enter_eq_self hin)]
    rfl

/-- A repeated event does nothing exactly if the client is in the channel or there is none. -/
theorem handle_eq_self_iff (hd : s.roster.Distinct) (hup : c.Up) {room : Room}
    (hr : s.roster.byId? e.chat.id = some room) (hs : room.hasSeen e.id = true) :
    handle c s e = { state := s } ↔
      e.kind = internalKind ∨ room.isGroup = false ∨ room.joined = true := by
  rw [handle_of_hasSeen hd hup hr hs]
  split
  · next hout =>
    have hlines : joinLines c.nick c.account room ≠ [] := by simp [joinLines]
    constructor
    · -- a burst is never empty
      intro heq
      exact absurd (congrArg Outcome.lines heq) hlines
    · rintro (hk | hg | hj)
      · exact absurd hk hout.1
      · simp [hg] at hout
      · simp [hj] at hout
  · next hin =>
    refine ⟨fun _ => ?_, fun _ => rfl⟩
    cases hg : room.isGroup <;> cases hj : room.joined <;> simp_all

/-- After an event has been handled its room holds it, and the client is in the channel unless the
event was news of its leaving, now told. -/
theorem exists_room_handle (hup : c.Up) (hk : e.kind ≠ internalKind) (hu : ¬ Unanswered c s e) :
    ∃ room, (handle c s e).state.roster.byId? e.chat.id = some room ∧ room.hasSeen e.id = true ∧
      (room.isGroup = true → room.joined = !(passes c s e && takesOut c.account e)) := by
  rcases registered_or_unanswered c s hk with ⟨calls, roster, room, h⟩ | hu'
  · obtain ⟨change, hmarks, hafter⟩ := exists_marks_room h
    refine ⟨change room, hafter, ?_, ?_⟩
    · rw [hmarks.seen, beq_self_eq_true, Bool.true_or]
    · intro hg
      have hgroup : room.isGroup = true := by rw [← hmarks.keeps.isGroup room, hg]
      rw [hmarks.joined hup, passes_of_registered h, deliver_of_up hup, hgroup]
      simp
  · exact absurd hu' hu

/-- **Redelivery.** In every state that a relay can reach, an event that counts as handled is
delivered again without an error and without asking for anything. It does nothing at all exactly if
the chat has no channel or the client is in it. Otherwise its only effect is that the client is
brought into the channel.

In particular an event that was just handled does nothing when it is delivered again, unless it was
news of the client's own leaving of a group and passed the check for repeats. -/
theorem redelivery_eq_self_iff (activity : Tracker) (store : Store) (steps : List Step)
    (c c' : Circumstances) (e : Event) (hup : c.Up) (hup' : c'.Up) :
    let s := run (.start activity store) steps
    let o := handle c s e
    (s.roster.hasSeen e.chat.id e.id = true →
      ∃ room, s.roster.byId? e.chat.id = some room ∧
        (o = { state := s } ↔
          e.kind = internalKind ∨ room.isGroup = false ∨ room.joined = true) ∧
        (o ≠ { state := s } →
          o = { state := { s with roster := s.roster.update e.chat.id Room.enter }
                lines := joinLines c.nick c.account room })) ∧
    (e.kind ≠ internalKind → ¬ Unanswered c s e →
      ∃ room, o.state.roster.byId? e.chat.id = some room ∧
        (handle c' o.state e = { state := o.state } ↔
          room.isGroup = false ∨ passes c s e = false ∨ takesOut c.account e = false)) := by
  intro s o
  have hd : s.roster.Distinct := distinct_run_start activity store steps
  constructor
  · intro hseen
    obtain ⟨room, hr, hs⟩ := Roster.exists_of_hasSeen hseen
    refine ⟨room, hr, handle_eq_self_iff hd hup hr hs, fun hne => ?_⟩
    have heq := handle_of_hasSeen hd hup hr hs
    split at heq
    · exact heq
    · exact absurd heq hne
  · -- the state in between is one that a relay reaches, with the event among those handled
    intro hk hu
    obtain ⟨room, hr, hs, hjoined⟩ := exists_room_handle hup hk hu
    refine ⟨room, hr, (handle_eq_self_iff (distinct_handle c e hd) hup' hr hs).trans ?_⟩
    cases hg : room.isGroup with
    | false => simp
    | true =>
      rw [hjoined hg]
      simp [hk]

/-- Bob leaves, Alice is told, and the same news comes once more: nothing happens. -/
theorem redelivery_of_bob_leaving :
    let s := run (.start {} default) [.deliver Sample.plain (Sample.leave "n1" [Sample.bob])]
    Sample.plain.Up ∧ s.roster.hasSeen Sample.family.id "n1" = true ∧
      handle Sample.plain s (Sample.leave "n1" [Sample.bob]) = { state := s } := by
  intro s
  have hseen : s.roster.hasSeen Sample.family.id "n1" = true := by decide +kernel
  have hjoined : (s.roster.byId? Sample.family.id).map (·.joined) = some true := by decide +kernel
  obtain ⟨room, hr, hiff, -⟩ := (redelivery_eq_self_iff {} default
    [.deliver Sample.plain (Sample.leave "n1" [Sample.bob])] Sample.plain Sample.plain
    (Sample.leave "n1" [Sample.bob]) Sample.plain_up Sample.plain_up).1 hseen
  refine ⟨Sample.plain_up, hseen, hiff.mpr (.inr (.inr ?_))⟩
  change s.roster.byId? Sample.family.id = some room at hr
  simpa [hr] using hjoined

/-- Alice leaves, is told, and the same news comes once more: she is told that she is in the channel
again, and counts as being there. -/
theorem leave_twice_rejoins :
    let s := run (.start {} default) [.deliver Sample.plain (Sample.leave "n1" [Sample.alice.id])]
    let o := handle Sample.plain s (Sample.leave "n1" [Sample.alice.id])
    Sample.plain.Up ∧ s.roster.hasSeen Sample.family.id "n1" = true ∧
      o.lines.map (·.line) =
        [":alice JOIN #Family", ":whapp-irc 332 alice #Family Family",
          ":whapp-irc 353 alice = #Family alice",
          ":whapp-irc 366 alice #Family :End of /NAMES list"] ∧
      (s.roster.byId? Sample.family.id).map (·.joined) = some false ∧
      (o.state.roster.byId? Sample.family.id).map (·.joined) = some true :=
  ⟨Sample.plain_up, by decide +kernel⟩

end IrcGateway.Relay
