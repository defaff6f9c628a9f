import IrcGateway.Chat.Roster

/-!
# The roster as a map, and what registration fixes

`Roster.byId?` is the view through which the relay reads the roster. Each operation has one equation
for it (`byId?_insert`, `byId?_update`).

A room is registered once, and what it is registered with stays: its identifier, its names, its kind
and its members. That part of a room is its card (`Room.card`), and the roster's cards are a list
that only grows at its end. Whatever happens to a roster later is therefore one of two things:

* `cards_insert`: registering adds at most one card;
* `cards_update`: a change that keeps the cards of rooms keeps the list.

`Roster.Extends` is the resulting order on rosters. It is transitive, and along it a registered room
keeps its card (`Extends.byId?`).
-/

namespace IrcGateway.Chat

open IrcGateway.Text IrcGateway.Service

namespace Room

/-- What a room is registered with: all but what the client was told and what was handled. -/
def card (r : Room) : Room :=
  { r with joined := false, seen := [] }

/-- A change that leaves a room the one it was registered as. -/
def Keeps (change : Room → Room) : Prop :=
  ∀ r, (change r).card = r.card

theorem card_eq_iff {r r' : Room} :
    r.card = r'.card ↔
      r.id = r'.id ∧ r.name = r'.name ∧ r.identifier = r'.identifier ∧ r.isGroup = r'.isGroup ∧
        r.members = r'.members := by
  simp [card]

/-- Rooms with the same card differ in nothing but what the client was told and what was handled. -/
theorem eq_of_card_eq {r r' : Room} (h : r'.card = r.card) :
    r' = { r with joined := r'.joined, seen := r'.seen } := by
  cases r
  cases r'
  simpa [card] using h

theorem Keeps.id {change : Room → Room} (h : Keeps change) (r : Room) : (change r).id = r.id :=
  (card_eq_iff.mp (h r)).1

theorem Keeps.identifier {change : Room → Room} (h : Keeps change) (r : Room) :
    (change r).identifier = r.identifier :=
  (card_eq_iff.mp (h r)).2.2.1

theorem Keeps.isGroup {change : Room → Room} (h : Keeps change) (r : Room) :
    (change r).isGroup = r.isGroup :=
  (card_eq_iff.mp (h r)).2.2.2.1

theorem Keeps.comp {change change' : Room → Room} (h : Keeps change) (h' : Keeps change') :
    Keeps (change ∘ change') :=
  fun r => (h (change' r)).trans (h' r)

theorem keeps_see (event : String) : Keeps (fun r => r.see event) := by
  intro r
  change (r.see event).card = r.card
  unfold see
  split <;> rfl

theorem keeps_joined (told : Room → Bool) : Keeps (fun r => { r with joined := told r }) :=
  fun _ => rfl

/-- The room, in whose channel the client is if it has one. -/
def enter (r : Room) : Room :=
  { r with joined := r.joined || r.isGroup }

theorem keeps_enter : Keeps enter :=
  keeps_joined fun r => r.joined || r.isGroup

/-- Where the client is already, or where there is no channel, nothing changes. -/
theorem enter_eq_self {r : Room} (h : r.isGroup = true → r.joined = true) : r.enter = r := by
  have hjoined : (r.joined || r.isGroup) = r.joined := by
    cases hg : r.isGroup with
    | false => exact Bool.or_false _
    | true => rw [h hg, Bool.true_or]
  unfold enter
  rw [hjoined]

@[simp] theorem hasSeen_enter (r : Room) (event : String) :
    r.enter.hasSeen event = r.hasSeen event := rfl

/-- The room, in whose channel the client is no longer unless it stays. -/
def stay (stays : Bool) (r : Room) : Room :=
  { r with joined := r.joined && stays }

theorem keeps_stay (stays : Bool) : Keeps (stay stays) :=
  keeps_joined fun r => r.joined && stays

@[simp] theorem hasSeen_stay (stays : Bool) (r : Room) (event : String) :
    (stay stays r).hasSeen event = r.hasSeen event := rfl

theorem stay_true (r : Room) : stay true r = r := by
  simp [stay]

theorem stay_comp_stay (stays stays' : Bool) :
    stay stays' ∘ stay stays = stay (stays && stays') := by
  funext r
  simp [stay, Bool.and_assoc]

theorem hasSeen_see (r : Room) (event other : String) :
    (r.see event).hasSeen other = (other == event || r.hasSeen other) := by
  unfold see
  split
  · -- an event that was handled before is not added again
    next h =>
    by_cases he : other = event
    · subst he; simp [h]
    · simp [he]
  · by_cases he : other = event <;> simp [hasSeen, he]

@[simp] theorem joined_see (r : Room) (event : String) : (r.see event).joined = r.joined := by
  unfold see
  split <;> rfl

end Room

namespace Roster

/-! ### The view by chat -/

theorem id_of_byId? {r : Roster} {id : ContactId} {room : Room} (h : r.byId? id = some room) :
    room.id = id := by
  simpa using List.find?_some h

theorem mem_of_byId? {r : Roster} {id : ContactId} {room : Room} (h : r.byId? id = some room) :
    room ∈ r.rooms :=
  List.mem_of_find?_eq_some h

theorem sameName_of_byName? {r : Roster} {name : String} {room : Room}
    (h : r.byName? name = some room) : sameName room.identifier name = true := by
  unfold byName? at h
  have hfound := List.find?_some h
  exact hfound

theorem byId?_eq_none_iff {r : Roster} {id : ContactId} :
    r.byId? id = none ↔ ∀ room ∈ r.rooms, room.id ≠ id := by
  simp [byId?]

theorem exists_of_hasSeen {r : Roster} {id : ContactId} {event : String}
    (h : r.hasSeen id event = true) :
    ∃ room, r.byId? id = some room ∧ room.hasSeen event = true := by
  simpa [hasSeen, Option.any_eq_true] using h

@[simp] theorem byId?_empty (id : ContactId) : ({} : Roster).byId? id = none := rfl

theorem insert_of_known {r : Roster} {room known : Room} (h : r.byId? room.id = some known) :
    r.insert room = r := by
  unfold insert
  rw [h]

theorem insert_of_new {r : Roster} {room : Room} (h : r.byId? room.id = none) :
    r.insert room = ⟨r.rooms ++ [{ room with identifier := r.freeName room.identifier }]⟩ := by
  unfold insert
  rw [h]

/-- Registering gives a new chat its room, under a free name, and no other chat anything. -/
theorem byId?_insert (r : Roster) (room : Room) (id : ContactId) :
    (r.insert room).byId? id =
      if id = room.id then
        some ((r.byId? id).getD { room with identifier := r.freeName room.identifier })
      else r.byId? id := by
  cases h : r.byId? room.id with
  | some known =>
    rw [insert_of_known h]
    split
    · next hid => rw [hid, h, Option.getD_some]
    · rfl
  | none =>
    -- the new room stands last, so every other chat is found before it
    rw [insert_of_new h]
    simp only [byId?, List.find?_append] at h ⊢
    split
    · next hid =>
      subst hid
      simp [h]
    · next hid =>
      simp [Ne.symm hid]

/-- A change reaches the room of its chat and no other. -/
theorem byId?_update {change : Room → Room} (hc : Room.Keeps change) (r : Roster)
    (id other : ContactId) :
    (r.update id change).byId? other =
      if other = id then (r.byId? other).map change else r.byId? other := by
  unfold byId? update
  -- the changed room is looked for under the identifier it always had
  have hkey : ∀ room : Room, ((if room.id = id then change room else room).id == other)
      = (room.id == other) := by
    intro room
    split
    · rw [hc.id]
    · rfl
  rw [List.find?_map, show ((fun room : Room => room.id == other) ∘ fun room =>
    if room.id = id then change room else room) = fun room => room.id == other from funext hkey]
  cases h : r.rooms.find? (fun room => room.id == other) with
  | none => simp
  | some room =>
    have hid : room.id = other := by simpa using List.find?_some h
    by_cases he : other = id
    · simp [hid, he]
    · simp [hid, he]

theorem update_update {first second : Room → Room} (hf : Room.Keeps first) (r : Roster)
    (id : ContactId) : (r.update id first).update id second = r.update id (second ∘ first) := by
  unfold update
  simp only [List.map_map, Roster.mk.injEq]
  refine List.map_congr_left fun room _ => ?_
  -- the first change keeps the identifier, so that the second reaches the same room
  by_cases h : room.id = id
  · simp [h, (hf.id room).trans h]
  · simp [h]

theorem update_self (r : Roster) (id : ContactId) : r.update id (fun room => room) = r := by
  simp [update]

theorem update_stay_true (r : Roster) (id : ContactId) : r.update id (Room.stay true) = r := by
  rw [show Room.stay true = fun room => room from funext Room.stay_true, update_self]

/-! ### Cards -/

/-- What the rooms were registered with, in the order of registration. -/
def cards (r : Roster) : List Room :=
  r.rooms.map Room.card

theorem cards_insert (r : Roster) (room : Room) :
    (r.insert room).cards = r.cards ∨
      (r.insert room).cards =
        r.cards ++ [Room.card { room with identifier := r.freeName room.identifier }] := by
  cases h : r.byId? room.id with
  | some known => exact .inl (by rw [insert_of_known h])
  | none => exact .inr (by rw [insert_of_new h]; simp [cards])

theorem cards_update {change : Room → Room} (hc : Room.Keeps change) (r : Roster)
    (id : ContactId) : (r.update id change).cards = r.cards := by
  unfold cards update
  rw [List.map_map]
  refine List.map_congr_left fun room _ => ?_
  change (if room.id = id then change room else room).card = room.card
  split
  · exact hc room
  · rfl

/-- A later roster: further rooms may have been registered behind those that are there. -/
def Extends (r r' : Roster) : Prop :=
  r.cards <+: r'.cards

namespace Extends

variable {r r' r'' : Roster}

theorem refl (r : Roster) : Extends r r :=
  List.prefix_rfl

theorem trans (h : Extends r r') (h' : Extends r' r'') : Extends r r'' :=
  List.IsPrefix.trans h h'

theorem insert (r : Roster) (room : Room) : Extends r (r.insert room) := by
  unfold Extends
  rcases cards_insert r room with h | h
  · exact ⟨[], (List.append_nil _).trans h.symm⟩
  · exact ⟨_, h.symm⟩

theorem update {change : Room → Room} (hc : Room.Keeps change) (r : Roster) (id : ContactId) :
    Extends r (r.update id change) := by
  exact ⟨[], (List.append_nil _).trans (cards_update hc r id).symm⟩

end Extends

/-- A look-up by what is on the cards finds a room with the card that the look-up among the cards
finds. -/
theorem find?_card (p : Room → Bool) (hp : ∀ room : Room, p room.card = p room) (r : Roster) :
    r.cards.find? p = (r.rooms.find? p).map Room.card := by
  unfold cards
  rw [List.find?_map, show p ∘ Room.card = p from funext hp]

theorem cards_find?_byId? (r : Roster) (id : ContactId) :
    r.cards.find? (fun room => room.id == id) = (r.byId? id).map Room.card :=
  find?_card _ (fun _ => rfl) r

theorem cards_find?_byName? (r : Roster) (name : String) :
    r.cards.find? (fun room => sameName room.identifier name) = (r.byName? name).map Room.card :=
  find?_card _ (fun _ => rfl) r

/-- A registered chat stays registered, with the same card. -/
theorem Extends.byId? {r r' : Roster} (h : Extends r r') {id : ContactId} {room : Room}
    (hr : r.byId? id = some room) :
    ∃ room', r'.byId? id = some room' ∧ room'.card = room.card := by
  obtain ⟨more, hm⟩ := h
  -- what is found among the first cards is found among all
  have hfind := cards_find?_byId? r' id
  rw [← hm, List.find?_append, cards_find?_byId?, hr] at hfind
  obtain ⟨room', hr', hcard⟩ := Option.map_eq_some_iff.mp hfind.symm
  exact ⟨room', hr', hcard⟩

/-- A name that reaches a chat reaches it for ever. -/
theorem Extends.byName? {r r' : Roster} (h : Extends r r') {name : String} {room : Room}
    (hr : r.byName? name = some room) :
    ∃ room', r'.byName? name = some room' ∧ room'.card = room.card := by
  obtain ⟨more, hm⟩ := h
  have hfind := cards_find?_byName? r' name
  rw [← hm, List.find?_append, cards_find?_byName?, hr] at hfind
  obtain ⟨room', hr', hcard⟩ := Option.map_eq_some_iff.mp hfind.symm
  exact ⟨room', hr', hcard⟩

end Roster

end IrcGateway.Chat
