import IrcGateway.Proofs.Activity.Times
import IrcGateway.Proofs.Relay.Run

/-!
# The latest times along a run

The time of an event is recorded right behind the check for repeats, and nowhere else: an event that
passes is recorded under the text of its chat's identifier, whatever becomes of it afterwards, and
an event that does not pass leaves the times alone (`activity_handle`). Which events pass is read
off the ways an event can go (`passes_iff_of_ways`).

What is known of a chat after a run is therefore the latest of what was known before and of the
times that were accepted (`get?_run`), by induction on the run: recording a time replaces what is
known by the latest of the two.
-/

namespace IrcGateway.Activity.Tracker

/-- A later time is recorded, and the saver is told of all times as they are then. -/
theorem observe_of_later {t : Tracker} {chat : String} {time : Int}
    (h : t.times.Later chat time) :
    (t.observe chat time).1 =
      { times := t.times.put chat time
        saver := t.saver.map (·.tell (t.times.put chat time)) } := by
  unfold observe
  rw [Times.observe_of_later h]
  rfl

/-- Any other time changes nothing, and the saver is told of nothing. -/
theorem observe_of_not_later {t : Tracker} {chat : String} {time : Int}
    (h : ¬ t.times.Later chat time) : (t.observe chat time).1 = t := by
  unfold observe
  rw [Times.observe_of_not_later h]
  rfl

end IrcGateway.Activity.Tracker

namespace IrcGateway.Relay

open IrcGateway.Activity IrcGateway.Chat IrcGateway.Media IrcGateway.Service

variable {c : Circumstances} {s : State} {e : Event}

/-! ### One event -/

theorem activity_handleFirst (c : Circumstances) (k : Nat) (s : State) (room : Room) (e : Event) :
    (handleFirst c k s room e).state.activity =
      (s.activity.observe room.id.text e.timestamp).1 := by
  -- lines and files come after the time, and do not touch it
  unfold handleFirst
  simp only
  split
  · rfl
  · split
    · unfold relayNotification
      split <;> rfl
    · unfold relayMessage
      simp only
      split <;> rfl

/-- **What an event does to the times.** Its time is recorded if it passes the check for repeats. -/
theorem activity_handle (c : Circumstances) (s : State) (e : Event) :
    (handle c s e).state.activity =
      if passes c s e then (s.activity.observe e.chat.id.text e.timestamp).1 else s.activity := by
  cases hp : passes c s e with
  | false => exact (onlyEnters_of_not_passes hp).activity
  | true =>
    obtain ⟨calls, roster, room, h, hhandle⟩ := handle_of_passes hp
    -- the time is recorded under what the room is called, and that is the chat
    have hid : room.id = e.chat.id := Roster.id_of_byId? h.room
    rw [hhandle]
    simp only [activity_handleFirst, if_true, hid]

/-- An event changes the latest time of its own chat alone. -/
theorem time_handle_of_ne (c : Circumstances) (s : State) {text : String}
    (hne : text ≠ e.chat.id.text) :
    (handle c s e).state.activity.times.get? text = s.activity.times.get? text := by
  rw [activity_handle]
  split
  · rw [Tracker.times_observe, Times.get?_observe, if_neg hne]
  · rfl

/-- The client could not be brought into the channel of the event's chat. -/
def Unjoined (c : Circumstances) (s : State) (e : Event) : Prop :=
  ∃ channel error, (handle c s e).result = .error (.join channel error)

/-- A file that cannot be stored is the fault of the service or of the store. -/
theorem result_storeMedia (c : Circumstances) (store : Store) (e : Event) :
    (storeMedia c store e).result = .ok () ∨
      (∃ fault, (storeMedia c store e).result = .error (.service fault)) ∨
      ∃ error, (storeMedia c store e).result = .error (.store error) := by
  unfold storeMedia
  cases e.media with
  | none => exact .inl rfl
  | some media =>
    simp only
    split
    · exact .inl rfl
    · cases c.client.download e with
      | error fault => exact .inr (.inl ⟨fault, rfl⟩)
      | ok bytes =>
        simp only
        split
        · exact .inl rfl
        · exact .inr (.inr ⟨_, rfl⟩)
        · exact .inr (.inr ⟨_, rfl⟩)

/-- Behind the check for repeats no channel is entered any more. -/
theorem result_handleFirst_ne_join (c : Circumstances) (k : Nat) (s : State) (room : Room)
    (e : Event) (channel : String) (error : WriteError) :
    (handleFirst c k s room e).result ≠ .error (.join channel error) := by
  -- a failed join is reported of the burst, and that comes before
  have hwritten : ∀ failed, written failed ≠ .error (.join channel error) := by
    intro failed
    cases failed <;> simp [written]
  unfold handleFirst
  simp only
  split
  · simp
  · split
    · unfold relayNotification
      split
      · simp
      · exact hwritten _
    · unfold relayMessage
      rcases result_storeMedia c s.store e with hok | ⟨fault, hfault⟩ | ⟨error, herror⟩
      · simp only [hok]
        exact hwritten _
      · simp [hfault]
      · simp [herror]

/-- **Which events pass.** All but those that are internal, whose members cannot be asked for, for
which the client cannot be brought into the channel, or that were handled before. -/
theorem passes_iff_of_ways : passes c s e = true ↔
    e.kind ≠ internalKind ∧ ¬ Unanswered c s e ∧ ¬ Unjoined c s e ∧
      s.roster.hasSeen e.chat.id e.id = false := by
  suffices ∀ o, Handled c s e o → (passes c s e = true ↔
      e.kind ≠ internalKind ∧ ¬ Unanswered c s e ∧
        (¬ ∃ channel error, o.result = .error (.join channel error)) ∧
        s.roster.hasSeen e.chat.id e.id = false) from this _ (handled c s e)
  -- way by way: the first three fall to one condition each, and a repeat to the last
  intro o ho
  cases ho with
  | internal hk => simp [passes, hk]
  | unanswered hk hnew hm =>
    have hu : Unanswered c s e := ⟨hnew, _, hm⟩
    have hp : passes c s e = false := by
      rw [passes, if_neg hk, register_of_fault hnew hm]
    simp [hp, hu]
  | unjoined h hd => simp [passes_of_registered h, hd]
  | repeated h hd hs => simp [passes_of_registered h, hs, ← h.hasSeen_room]
  | first h hd hs ho =>
    have hp : passes c s e = true := by simp [passes_of_registered h, hd, hs]
    refine iff_of_true hp ⟨h.kind, h.not_unanswered, ?_, h.hasSeen_room e.id ▸ hs⟩
    rintro ⟨channel, error, hjoin⟩
    exact result_handleFirst_ne_join _ _ _ _ _ channel error (ho ▸ hjoin)

/-! ### Runs -/

/-- The times accepted in a step under the text of a chat's identifier. -/
def Step.accepted (chat : String) (s : State) : Step → List Int
  | deliver c e => if passes c s e ∧ e.chat.id.text = chat then [e.timestamp] else []
  | outside _ _ => []

/-- The times accepted along a run under the text of a chat's identifier, in order. -/
def accepted (chat : String) (s : State) : List Step → List Int
  | [] => []
  | step :: rest => step.accepted chat s ++ accepted chat (step.outcome s).state rest

/-- What is known of a chat after a step: the latest of what was known and what was accepted. -/
theorem get?_step (chat : String) (s : State) (step : Step) :
    (step.outcome s).state.activity.times.get? chat =
      ((s.activity.times.get? chat).toList ++ step.accepted chat s).max? := by
  -- where nothing is accepted, what is known stays
  have hkept : s.activity.times.get? chat =
      ((s.activity.times.get? chat).toList ++ ([] : List Int)).max? := by
    rw [List.append_nil, Times.max?_toList]
  cases step with
  | outside store saver => exact hkept
  | deliver c e =>
    simp only [Step.outcome, Step.accepted, activity_handle]
    cases hp : passes c s e with
    | false => simpa using hkept
    | true =>
      simp only [if_true, true_and, Tracker.times_observe, Times.get?_observe]
      by_cases hchat : chat = e.chat.id.text
      · subst hchat
        simp
      · rw [if_neg hchat, if_neg (Ne.symm hchat)]
        exact hkept

/-- **What is known of a chat after a run**: the latest of what was known and what was accepted. -/
theorem get?_run (chat : String) (s : State) (steps : List Step) :
    (run s steps).activity.times.get? chat =
      ((s.activity.times.get? chat).toList ++ accepted chat s steps).max? := by
  -- on the steps, for every state: what the first one leaves known is where the rest begins
  induction steps generalizing s with
  | nil =>
    rw [run_nil, accepted, List.append_nil, Times.max?_toList]
  | cons step rest ih =>
    rw [run_cons, ih, get?_step, Times.max?_toList_max?_append, accepted, List.append_assoc]

theorem behind_step (s : State) (step : Step) :
    s.activity.times.Behind (step.outcome s).state.activity.times := by
  cases step with
  | outside store saver => exact Times.Behind.refl _
  | deliver c e =>
    simp only [Step.outcome, activity_handle]
    split
    · exact Times.behind_observe _ _ _
    · exact Times.Behind.refl _

/-- Times never go back along a run. -/
theorem behind_run (s : State) (steps : List Step) :
    s.activity.times.Behind (run s steps).activity.times := by
  induction steps generalizing s with
  | nil => exact Times.Behind.refl _
  | cons step rest ih => exact (behind_step s step).trans (ih _)

/-! ### The latest times -/

/-- An event that passes is later than what is known of its chat. -/
def Advances (c : Circumstances) (s : State) (e : Event) : Prop :=
  passes c s e = true ∧ s.activity.times.Later e.chat.id.text e.timestamp

theorem activity_of_advances (h : Advances c s e) :
    (handle c s e).state.activity =
      { times := s.activity.times.put e.chat.id.text e.timestamp
        saver := s.activity.saver.map
          (·.tell (s.activity.times.put e.chat.id.text e.timestamp)) } := by
  rw [activity_handle, if_pos h.1, Tracker.observe_of_later h.2]

theorem activity_of_not_advances (h : ¬ Advances c s e) :
    (handle c s e).state.activity = s.activity := by
  rw [activity_handle]
  split
  · next hp => exact Tracker.observe_of_not_later fun hlater => h ⟨hp, hlater⟩
  · rfl

/-- **Latest times.** Whatever is known of the chats at first, and along every run of a relay,
wherever members, downloads, files or lines fail: what is known of a chat in the end is the latest
of what was known at first and of the times of all events of the chat that passed the check for
repeats. On the way what is known of a chat never goes back. Of a delivery `e` on the way:

* it passes exactly if it is not internal, the members of its chat need not or can be asked for, the
  client can be brought into the channel, and it was not handled before; otherwise the times and
  their saver stay as they are;
* it changes nothing of what is known of chats whose identifier has another text;
* if it passes and is later than what is known of its chat, its time is recorded and the saver, if
  there is one, is told of the times as they are then; otherwise the times stay as they are and the
  saver is told of nothing. -/
theorem latest_time_is_maximum (activity : Tracker) (store : Store) (steps : List Step) :
    let first := State.start activity store
    (∀ chat, (run first steps).activity.times.get? chat =
      ((activity.times.get? chat).toList ++ accepted chat first steps).max?) ∧
    (∀ pre post, steps = pre ++ post →
      (run first pre).activity.times.Behind (run first steps).activity.times) ∧
    ∀ pre c e post, steps = pre ++ .deliver c e :: post →
      let s := run first pre
      let after := (handle c s e).state.activity
      let times := s.activity.times.put e.chat.id.text e.timestamp
      (passes c s e = true ↔ e.kind ≠ internalKind ∧ ¬ Unanswered c s e ∧ ¬ Unjoined c s e ∧
        s.roster.hasSeen e.chat.id e.id = false) ∧
      (passes c s e = false → after = s.activity) ∧
      (∀ chat, chat ≠ e.chat.id.text → after.times.get? chat = s.activity.times.get? chat) ∧
      (Advances c s e → after.times = times ∧ after.saver = s.activity.saver.map (·.tell times)) ∧
      (¬ Advances c s e → after = s.activity) := by
  intro first
  refine ⟨fun chat => get?_run chat first steps, ?_, ?_⟩
  · rintro pre post rfl
    rw [run_append]
    exact behind_run _ post
  · -- one delivery, at any point of the run
    rintro pre c e post - s after times
    refine ⟨passes_iff_of_ways, ?_, ?_, ?_, activity_of_not_advances⟩
    · intro hp
      exact (onlyEnters_of_not_passes hp).activity
    · intro chat hchat
      exact time_handle_of_ne c s hchat
    · intro h
      have hafter : after = _ := activity_of_advances h
      exact ⟨congrArg (·.times) hafter, congrArg (·.saver) hafter⟩

/-- Three deliveries, of which the second repeats the first with a later time and the third comes
with an earlier one: the first alone moves what is known of the group, and the saver learns it. -/
theorem latest_time_of_three :
    let late : Event := { Sample.leave "n1" [Sample.bob] with timestamp := 7 }
    let steps := [Step.deliver Sample.plain late,
      .deliver Sample.plain { late with timestamp := 9 },
      .deliver Sample.plain { late with id := "n2", timestamp := -3 }]
    let first := State.start (.saving "alice" [(Sample.family.id.text, 5)]) default
    Advances Sample.plain first late ∧
      (handle Sample.plain first late).state.activity.saver.map (·.latest) =
        some [(Sample.family.id.text, 7)] ∧
      (run first steps).activity.times.get? Sample.family.id.text = [5, 7, -3].max? := by
  intro late steps first
  have hadv : Advances Sample.plain first late := by
    refine ⟨by decide +kernel, fun last hlast => ?_⟩
    obtain rfl : last = 5 := Option.some.inj (hlast.symm.trans (by decide +kernel))
    decide
  have haccepted : accepted Sample.family.id.text first steps = [7, -3] := by decide +kernel
  obtain ⟨hmax, -, hdeliver⟩ :=
    latest_time_is_maximum (.saving "alice" [(Sample.family.id.text, 5)]) default steps
  obtain ⟨-, -, -, htold, -⟩ := hdeliver [] Sample.plain late _ rfl
  refine ⟨hadv, ?_, ?_⟩
  · have hsaver := congrArg (Option.map (·.latest)) (htold hadv).2
    rw [run_nil] at hsaver
    exact hsaver
  · have htime := hmax Sample.family.id.text
    rw [haccepted] at htime
    exact htime

end IrcGateway.Relay
