import IrcGateway.Proofs.Chat.Naming
import Mathlib.Data.List.TakeWhile

/-!
# Who asked for a name first

Names are given in the order of registration, and what a room is called depends on nothing but the
rooms before it (`Roster.InTurn`). Of several chats that ask for one name, in whatever letter case,
the first gets it, and the others get numbers. A look-up of the name that a chat asked for therefore
always finds a room, and it finds the chat's own exactly if the name was not taken before
(`InTurn.byName?_asked`).
-/

namespace IrcGateway.Chat

open IrcGateway.Text IrcGateway.Service

/-- The name that the chat of a room asked for. -/
def Room.asked (r : Room) : String :=
  Room.baseName ⟨r.id, r.name, r.isGroup⟩

namespace Roster

/-- The rooms that were registered before the room of a chat. -/
def before (r : Roster) (id : ContactId) : Roster :=
  ⟨r.rooms.takeWhile (·.id != id)⟩

/-- Each room has the name that was free for it when it was registered. -/
def InTurn (r : Roster) : Prop :=
  ∀ front card back, r.cards = front ++ card :: back →
    card.identifier = freeName ⟨front⟩ card.asked

theorem isTaken_cards (r : Roster) (name : String) : isTaken ⟨r.cards⟩ name = r.isTaken name := by
  unfold isTaken cards
  rw [List.any_map]
  rfl

/-- Which name is free is to be seen from the cards. -/
theorem freeName_cards (r : Roster) (base : String) :
    freeName ⟨r.cards⟩ base = r.freeName base := by
  have hfirst : ∀ tries k, firstNumbered ⟨r.cards⟩ base tries k = r.firstNumbered base tries k := by
    intro tries
    induction tries with
    | zero => exact fun k => rfl
    | succ tries ih =>
      intro k
      rw [firstNumbered, firstNumbered, isTaken_cards, ih]
  have hlength : (⟨r.cards⟩ : Roster).rooms.length = r.rooms.length := List.length_map _
  rw [freeName, freeName, isTaken_cards, hlength, hfirst]

namespace InTurn

variable {r r' : Roster}

theorem empty : InTurn {} := by
  intro front card back h
  simp [cards] at h

theorem of_cards_eq (h : r.InTurn) (hc : r'.cards = r.cards) : r'.InTurn := by
  unfold InTurn
  rwa [hc]

/-- A room that comes last and has a free name comes in turn. -/
theorem concat (h : r.InTurn) {card : Room} (hcard : card.identifier = r.freeName card.asked)
    (hc : r'.cards = r.cards ++ [card]) : r'.InTurn := by
  intro front other back heq
  rw [hc] at heq
  rcases List.eq_nil_or_concat back with rfl | ⟨back, last, rfl⟩
  · obtain ⟨hfront, hother⟩ := List.append_inj' heq rfl
    rw [← List.singleton_inj.mp hother, ← hfront, freeName_cards, hcard]
  · rw [List.concat_eq_append, ← List.cons_append, ← List.append_assoc] at heq
    exact h front other back (List.append_inj' heq rfl).1

/-- What a room is called is decided by the rooms before it. -/
theorem identifier_eq (h : r.InTurn) {id : ContactId} {room : Room}
    (hr : r.byId? id = some room) : room.identifier = (r.before id).freeName room.asked := by
  obtain ⟨hid, front, back, hrooms, hfront⟩ := List.find?_eq_some_iff_append.mp hr
  have hbefore : r.before id = ⟨front⟩ := by
    have hothers : ∀ other ∈ front, (other.id != id) = true := hfront
    rw [before, hrooms, List.takeWhile_append_of_pos hothers,
      List.takeWhile_cons_of_neg (by simpa using hid), List.append_nil]
  have hcut : r.cards = front.map Room.card ++ room.card :: back.map Room.card := by
    rw [cards, hrooms, List.map_append, List.map_cons]
  rw [hbefore, ← freeName_cards]
  exact h (front.map Room.card) room.card _ hcut

/-- **First come, first served.** The name that a chat asked for finds a room, and finds that of the
chat exactly if no room before it had the name. -/
theorem byName?_asked (h : r.InTurn) (hd : r.Distinct) {id : ContactId} {room : Room}
    (hr : r.byId? id = some room) :
    ∃ found, r.byName? room.asked = some found ∧
      (found.id = id ↔ (r.before id).isTaken room.asked = false) := by
  cases htaken : (r.before id).isTaken room.asked with
  | false =>
    have hname : room.identifier = room.asked := by
      rw [h.identifier_eq hr, freeName, htaken]
      rfl
    refine ⟨room, hd.byName?_eq_some_iff.mpr ⟨mem_of_byId? hr, ?_⟩, by simp [id_of_byId? hr]⟩
    rw [hname]
    exact sameName_iff.mpr rfl
  | true =>
    -- an earlier room has the name, and it is not that of the chat
    obtain ⟨found, hfound, hname⟩ := List.any_eq_true.mp htaken
    have hne : found.id ≠ id := by simpa using List.mem_takeWhile_imp hfound
    have hmem : found ∈ r.rooms := (List.takeWhile_prefix _).subset hfound
    exact ⟨found, hd.byName?_eq_some_iff.mpr ⟨hmem, hname⟩, by simp [hne]⟩

end InTurn

end Roster

end IrcGateway.Chat
