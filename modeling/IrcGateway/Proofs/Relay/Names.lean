import IrcGateway.Proofs.Relay.Run

/-!
# Names reach their chats for ever

A client addresses a chat by its name, in whatever letter case it likes. What it says must reach
that chat and no other, also later, and whatever is done to the roster in between: chats are
registered under any names, the client comes and goes, events are handled or remembered. All these
are operations on the state of a relay (`Operation`).

Two facts are carried along operations. The rooms stay distinct (`distinct_operate`), so that a name
has one room. And the roster only grows at its end (`extends_operate`), so that the room is that of
the same chat, with all it was registered with.

That a chat is registered once is also to be seen from outside: along a run the service tells the
members of each registered chat exactly once (`told_eq`).
-/

namespace IrcGateway.Relay

open IrcGateway.Activity IrcGateway.Chat IrcGateway.Media IrcGateway.Service IrcGateway.Text

/-! ### Operations -/

/-- What can be done to the state of a relay. -/
inductive Operation where
  /-- A chat is registered. -/
  | register (room : Room)
  /-- The client is said to be in the channel of a chat, or not to be. -/
  | setJoined (chat : ContactId) (joined : Bool)
  /-- An event counts as handled. -/
  | remember (chat : ContactId) (event : String)
  /-- A step of a run. -/
  | step (next : Step)

/-- The state after an operation. -/
def Operation.apply (s : State) : Operation → State
  | register room => { s with roster := s.roster.insert room }
  | setJoined chat joined => { s with roster := s.roster.update chat fun r => { r with joined } }
  | remember chat event => { s with roster := s.roster.update chat fun r => r.see event }
  | step next => (next.outcome s).state

/-- The state after some operations. -/
def operate (s : State) (ops : List Operation) : State :=
  ops.foldl Operation.apply s

theorem distinct_apply {s : State} (hd : s.roster.Distinct) (op : Operation) :
    (op.apply s).roster.Distinct := by
  cases op with
  | register room => exact hd.insert room
  | setJoined chat joined => exact hd.update (Room.keeps_joined fun _ => joined) chat
  | remember chat event => exact hd.update (Room.keeps_see event) chat
  | step next => exact distinct_run hd [next]

theorem extends_apply (s : State) (op : Operation) :
    Roster.Extends s.roster (op.apply s).roster := by
  cases op with
  | register room => exact Roster.Extends.insert _ _
  | setJoined chat joined => exact Roster.Extends.update (Room.keeps_joined fun _ => joined) _ chat
  | remember chat event => exact Roster.Extends.update (Room.keeps_see event) _ chat
  | step next => exact extends_run s [next]

theorem distinct_operate {s : State} (hd : s.roster.Distinct) (ops : List Operation) :
    (operate s ops).roster.Distinct := by
  induction ops generalizing s with
  | nil => exact hd
  | cons op rest ih => exact ih (distinct_apply hd op)

theorem extends_operate (s : State) (ops : List Operation) :
    Roster.Extends s.roster (operate s ops).roster := by
  induction ops generalizing s with
  | nil => exact Roster.Extends.refl _
  | cons op rest ih => exact (extends_apply s op).trans (ih (op.apply s))

/-! ### Asking for members once -/

variable {c : Circumstances} {s : State} {e : Event}

/-- In a registered chat nobody is asked for members. -/
theorem members_not_mem_handleIn (c : Circumstances) (s : State) (room : Room) (e : Event)
    (chat : ContactId) : Call.members chat ∉ (handleIn c s room e).calls := by
  intro h
  obtain ⟨event, hash, hcall⟩ := exists_download_of_mem_handleIn h
  simp at hcall

/-- How often a step is told the members of a chat. -/
def Step.told (chat : ContactId) (s : State) : Step → Nat
  | deliver c e =>
    match c.client.members e.chat with
    | .ok _ => (handle c s e).calls.count (.members chat)
    | .error _ => 0
  | outside _ _ => 0

/-- How often a run is told the members of a chat. -/
def told (chat : ContactId) (s : State) : List Step → Nat
  | [] => 0
  | step :: rest => step.told chat s + told chat (step.outcome s).state rest

/-- How often a chat is registered. -/
def registrations (chat : ContactId) (r : Roster) : Nat :=
  if (r.byId? chat).isSome then 1 else 0

/-- Members are asked for in registering alone. -/
theorem count_members_handle {calls : List Call} {roster : Roster} {room : Room}
    (h : Registered c s e calls roster room) (chat : ContactId) :
    (handle c s e).calls.count (.members chat) = calls.count (.members chat) := by
  rw [handle_of_registered h]
  simp only [List.count_append]
  rw [List.count_eq_zero.mpr (members_not_mem_handleIn c _ room e chat), Nat.add_zero]

/-- An event is told the members of its chat exactly if it registers the chat. -/
theorem told_deliver (chat : ContactId) (c : Circumstances) (s : State) (e : Event) :
    (Step.deliver c e).told chat s + registrations chat s.roster
      = registrations chat (handle c s e).state.roster := by
  by_cases hk : e.kind = internalKind
  · -- nothing is asked for an internal event
    rw [Step.told, handle_of_internal hk]
    cases c.client.members e.chat <;> simp
  rcases registered_or_unanswered c s hk with ⟨calls, roster, room, h⟩ | hu
  · obtain ⟨change, -, hafter⟩ := exists_marks_room h
    rcases h.cases with ⟨hr, rfl, -⟩ | ⟨hr, rfl, -, -, members, hm, -⟩
    · -- the chat is known, and nobody is asked
      have hnone : (Step.deliver c e).told chat s = 0 := by
        rw [Step.told]
        split
        · rw [count_members_handle h, List.count_nil]
        · rfl
      rw [hnone, Nat.zero_add]
      by_cases hc : chat = e.chat.id
      · rw [hc, registrations, registrations, hafter, hr]
        rfl
      · rw [registrations, registrations, byId?_handle_of_ne hc]
    · -- the chat is new, and the one call is answered
      rw [Step.told, hm]
      simp only [count_members_handle h]
      by_cases hc : chat = e.chat.id
      · rw [hc, registrations, registrations, hafter, hr]
        simp
      · rw [registrations, registrations, byId?_handle_of_ne hc]
        simp [Ne.symm hc]
  · -- the one call is not answered
    obtain ⟨fault, hm, heq⟩ := handle_of_unanswered hk hu
    rw [Step.told, heq, hm, Nat.zero_add]

/-- **Members are told once.** Along a run the members of each registered chat are told once, and
those of no other. -/
theorem told_eq (chat : ContactId) (s : State) (steps : List Step) :
    told chat s steps + registrations chat s.roster
      = registrations chat (run s steps).roster := by
  induction steps generalizing s with
  | nil => exact Nat.zero_add _
  | cons step rest ih =>
    have hstep : step.told chat s + registrations chat s.roster
        = registrations chat (step.outcome s).state.roster := by
      cases step with
      | deliver c e => exact told_deliver chat c s e
      | outside store saver => exact Nat.zero_add _
    have hrest := ih (step.outcome s).state
    rw [told, run_cons]
    omega

/-! ### Names -/

/-- **Names.** After every series of operations on a relay, in any order:

* the names of the rooms differ in more than letter case;
* a look-up by name does not depend on the order of the rooms;
* a room is found by each spelling of its name;
* registering a chat again changes nothing;
* a registered chat keeps all it was registered with through all further operations;
* a name that reaches a chat reaches it after all further operations, in any order of the rooms.

Along a run, moreover, the members of each registered chat are told exactly once. -/
theorem names_resolve (activity : Tracker) (store : Store) :
    (∀ ops : List Operation,
      let s := operate (.start activity store) ops
      s.roster.rooms.Pairwise (fun a b => sameName a.identifier b.identifier = false) ∧
      (∀ rooms name, rooms.Perm s.roster.rooms →
        Roster.byName? ⟨rooms⟩ name = s.roster.byName? name) ∧
      (∀ chat room name, s.roster.byId? chat = some room →
        sameName room.identifier name = true → s.roster.byName? name = some room) ∧
      (∀ room, (s.roster.byId? room.id).isSome = true → s.roster.insert room = s.roster) ∧
      (∀ more chat room, s.roster.byId? chat = some room →
        ∃ room', (operate s more).roster.byId? chat = some room' ∧
          room' = { room with joined := room'.joined, seen := room'.seen }) ∧
      ∀ more name room rooms, s.roster.byName? name = some room →
        rooms.Perm (operate s more).roster.rooms →
        ∃ room', Roster.byName? ⟨rooms⟩ name = some room' ∧
          room' = { room with joined := room'.joined, seen := room'.seen }) ∧
    ∀ steps chat, told chat (.start activity store) steps =
      if ((run (.start activity store) steps).roster.byId? chat).isSome then 1 else 0 := by
  constructor
  · intro ops s
    have hd : s.roster.Distinct := distinct_operate Roster.distinct_empty ops
    -- the first four say what distinct rooms are like, the others what further operations keep
    refine ⟨hd.pairwise_names, fun rooms name hp => hd.byName?_eq_of_perm hp name, ?_, ?_, ?_, ?_⟩
    · intro chat room name hr hname
      exact hd.byName?_eq_some_iff.mpr ⟨Roster.mem_of_byId? hr, hname⟩
    · intro room hknown
      obtain ⟨known, hr⟩ := Option.isSome_iff_exists.mp hknown
      exact Roster.insert_of_known hr
    · intro more chat room hr
      obtain ⟨room', hr', hcard⟩ := (extends_operate s more).byId? hr
      exact ⟨room', hr', Room.eq_of_card_eq hcard⟩
    · intro more name room rooms hr hp
      obtain ⟨room', hr', hcard⟩ := (extends_operate s more).byName? hr
      refine ⟨room', ?_, Room.eq_of_card_eq hcard⟩
      rw [(distinct_operate hd more).byName?_eq_of_perm hp, hr']
  · intro steps chat
    exact told_eq chat (.start activity store) steps

/-- A second group of one name gets a number, and a third is called like that. Whatever happens
later, the numbered name in capital letters reaches the second. -/
theorem family_2_reaches_second :
    let group := fun id name => Room.ofChat ⟨⟨id, "g.us"⟩, name, true⟩ []
    let ops := [Operation.register (group "1" "Family"), .register (group "2" "family"),
      .register (group "3" "Family_2")]
    let s := operate (.start {} default) ops
    s.roster.rooms.map (·.identifier) = ["#Family", "#family_2", "#Family_2_2"] ∧
      ∀ more, ((operate s more).roster.byName? "#FAMILY_2").map (·.id) = some ⟨"2", "g.us"⟩ := by
  intro group ops s
  have hnow : (s.roster.byName? "#FAMILY_2").map (·.id) = some ⟨"2", "g.us"⟩ := by decide +kernel
  obtain ⟨room, hr, hid⟩ := Option.map_eq_some_iff.mp hnow
  refine ⟨by decide +kernel, fun more => ?_⟩
  obtain ⟨-, -, -, -, -, hlater⟩ := (names_resolve {} default).1 ops
  obtain ⟨room', hr', hcard⟩ := hlater more "#FAMILY_2" room _ hr (List.Perm.refl _)
  rw [hr', Option.map_some, hcard]
  exact congrArg some hid

end IrcGateway.Relay
