import IrcGateway.Proofs.Chat.Roster
import Mathlib.Data.List.Nodup
import Mathlib.Tactic.ByContra

/-!
# Names of rooms are different

Names are compared without regard to the case of ASCII letters, while numbers are put behind a name
as it was asked for, and a chat may be called like a numbered name. `Roster.Distinct` says that no
two rooms share their chat or their name in this sense; every operation on a roster keeps it.

Registering keeps it because `Roster.freeName` is free (`isTaken_freeName`). That is a pigeonhole:
the numbered names of one base are different in every letter case (`lower_numbered_injective`), so
that of one more numbers than there are rooms, one must be free.

In a roster with different names a look-up by name does not depend on the order in which the rooms
are gone through (`Distinct.byName?_eq_of_perm`), and finds a room by each spelling of its name
(`Distinct.byName?_eq_some_iff`).
-/

namespace IrcGateway.Text

theorem lower_append (a b : String) : lower (a ++ b) = lower a ++ lower b := by
  simp [lower, String.ofList_append]

theorem toLower_of_isDigit {c : Char} (h : c.isDigit = true) : c.toLower = c := by
  have hbound : c.val ≤ 57 := by
    simp only [Char.isDigit, Bool.and_eq_true, decide_eq_true_eq] at h
    exact h.2
  unfold Char.toLower
  split
  · next hu =>
    -- a digit lies below the capital letters
    exact absurd (Nat.le_trans hu.1 hbound) (by decide)
  · rfl

/-- Digits have no letter case. -/
theorem lower_digits (k : Nat) :
    lower (String.ofList (Nat.toDigits 10 k)) = String.ofList (Nat.toDigits 10 k) := by
  unfold lower
  rw [String.toList_ofList]
  congr 1
  -- lowering goes character by character
  have hdigit : ∀ c ∈ Nat.toDigits 10 k, c.toLower = c := fun c hc =>
    toLower_of_isDigit (Nat.isDigit_of_mem_toDigits (by decide) (by decide) hc)
  rw [List.map_congr_left hdigit, List.map_id']

end IrcGateway.Text

namespace IrcGateway.Chat.Roster

open IrcGateway.Text IrcGateway.Service

/-! ### A free name -/

theorem isTaken_iff {r : Roster} {name : String} :
    r.isTaken name = true ↔ lower name ∈ r.rooms.map (fun room => lower room.identifier) := by
  simp [isTaken, sameName_iff]

/-- Different numbers give names that differ in more than letter case. -/
theorem lower_numbered_injective (base : String) :
    Function.Injective (fun k => lower (numbered base k)) := by
  intro j k h
  have hdigits : String.ofList (Nat.toDigits 10 j) = String.ofList (Nat.toDigits 10 k) := by
    simpa [numbered, lower_append, lower_digits] using h
  calc
    j = Nat.ofDigitChars 10 (Nat.toDigits 10 j) 0 := Nat.ofDigitChars_ten_toDigits.symm
    _ = Nat.ofDigitChars 10 (Nat.toDigits 10 k) 0 := by rw [String.ofList_injective hdigits]
    _ = k := Nat.ofDigitChars_ten_toDigits

/-- **The pigeonhole on names.** Of names that differ in more than letter case, the rooms cannot
take one more than there are rooms. -/
theorem exists_free (r : Roster) {names : Nat → String}
    (hnames : Function.Injective fun i => lower (names i)) :
    ∃ i ≤ r.rooms.length, r.isTaken (names i) = false := by
  by_contra hc
  -- otherwise the first of these names are all taken, and they are one more than the rooms
  have htaken : ∀ i ≤ r.rooms.length, r.isTaken (names i) = true := by
    intro i hi
    cases ht : r.isTaken (names i) with
    | true => rfl
    | false => exact absurd ⟨i, hi, ht⟩ hc
  have hnodup : ((List.range (r.rooms.length + 1)).map fun i => lower (names i)).Nodup :=
    List.nodup_range.map hnames
  have hsubset : (List.range (r.rooms.length + 1)).map (fun i => lower (names i))
      ⊆ r.rooms.map (fun room => lower room.identifier) := by
    intro name hname
    obtain ⟨i, hi, rfl⟩ := List.mem_map.mp hname
    exact isTaken_iff.mp (htaken i (Nat.lt_succ_iff.mp (List.mem_range.mp hi)))
  have hlength := hnodup.length_le_of_subset hsubset
  simp only [List.length_map, List.length_range] at hlength
  omega

/-- One of as many numbers as there are rooms, and one more, makes a free name. -/
theorem exists_numbered_free (r : Roster) (base : String) (first : Nat) :
    ∃ k, first ≤ k ∧ k ≤ first + r.rooms.length ∧ r.isTaken (numbered base k) = false := by
  have hnames : Function.Injective fun i => lower (numbered base (first + i)) := by
    intro i j h
    have hnumber : first + i = first + j := lower_numbered_injective base h
    omega
  obtain ⟨i, hi, hfree⟩ := r.exists_free hnames
  exact ⟨first + i, by omega, by omega, hfree⟩

/-- The search passes over taken names alone, and stops early only at a free one. -/
theorem exists_firstNumbered (r : Roster) (base : String) (tries k : Nat) :
    ∃ j, k ≤ j ∧ r.firstNumbered base tries k = numbered base j ∧
      (∀ i, k ≤ i → i < j → r.isTaken (numbered base i) = true) ∧
      (r.isTaken (numbered base j) = false ∨ j = k + tries) := by
  -- along the recursion of the search, which goes up with the number as the tries go down
  induction tries generalizing k with
  | zero => exact ⟨k, Nat.le_refl k, rfl, fun i h1 h2 => by omega, .inr rfl⟩
  | succ tries ih =>
    unfold firstNumbered
    split
    · next ht =>
      obtain ⟨j, hj, heq, hbefore, hstop⟩ := ih (k + 1)
      refine ⟨j, by omega, heq, ?_, hstop.imp_right (by omega)⟩
      intro i h1 h2
      by_cases hi : i = k
      · rw [hi]; exact ht
      · exact hbefore i (by omega) h2
    · next ht => exact ⟨k, Nat.le_refl k, rfl, fun i h1 h2 => by omega, .inl (by simpa using ht)⟩

/-- The name that a new room gets is free. -/
theorem isTaken_freeName (r : Roster) (base : String) : r.isTaken (r.freeName base) = false := by
  unfold freeName
  split
  · obtain ⟨j, -, heq, hbefore, hstop⟩ := r.exists_firstNumbered base r.rooms.length 2
    rw [heq]
    rcases hstop with hfree | hlast
    · exact hfree
    · -- all numbers before the last one are taken, so the free one is the last
      obtain ⟨k, h1, h2, hfree⟩ := r.exists_numbered_free base 2
      rcases Nat.lt_or_ge k j with hlt | hge
      · rw [hbefore k h1 hlt] at hfree
        exact absurd hfree (by simp)
      · rwa [show j = k by omega]
  · next h => simpa using h

/-! ### Distinct rooms -/

/-- No two rooms are of the same chat, or have names that differ in letter case alone. -/
structure Distinct (r : Roster) : Prop where
  ids : (r.rooms.map Room.id).Nodup
  names : (r.rooms.map fun room => lower room.identifier).Nodup

theorem distinct_empty : Distinct {} where
  ids := List.nodup_nil
  names := List.nodup_nil

theorem Distinct.insert {r : Roster} (h : r.Distinct) (room : Room) : (r.insert room).Distinct := by
  cases hr : r.byId? room.id with
  | some known => rwa [insert_of_known hr]
  | none =>
    -- a new room has a new identifier, and `freeName` sees to its name
    rw [insert_of_new hr]
    constructor
    · have hnew : room.id ∉ r.rooms.map Room.id := by
        simpa using byId?_eq_none_iff.mp hr
      simpa [List.nodup_append, h.ids] using hnew
    · have hfree : lower (r.freeName room.identifier) ∉
          r.rooms.map (fun room => lower room.identifier) := by
        rw [← isTaken_iff, r.isTaken_freeName]
        simp
      simpa [List.nodup_append, h.names] using hfree

theorem Distinct.update {r : Roster} (h : r.Distinct) {change : Room → Room}
    (hc : Room.Keeps change) (id : ContactId) : (r.update id change).Distinct := by
  have hid : (r.update id change).rooms.map Room.id = r.rooms.map Room.id := by
    simp only [Roster.update, List.map_map]
    refine List.map_congr_left fun room _ => ?_
    simp only [Function.comp_apply]
    split
    · exact hc.id room
    · rfl
  have hname : (r.update id change).rooms.map (fun room => lower room.identifier)
      = r.rooms.map fun room => lower room.identifier := by
    simp only [Roster.update, List.map_map]
    refine List.map_congr_left fun room _ => ?_
    simp only [Function.comp_apply]
    split
    · rw [hc.identifier room]
    · rfl
  exact ⟨hid ▸ h.ids, hname ▸ h.names⟩

namespace Distinct

variable {r : Roster}

/-- The rooms of a distinct roster are those that a look-up by chat finds. -/
theorem byId?_eq_some_iff (h : r.Distinct) {id : ContactId} {room : Room} :
    r.byId? id = some room ↔ room ∈ r.rooms ∧ room.id = id := by
  constructor
  · intro hr
    exact ⟨mem_of_byId? hr, id_of_byId? hr⟩
  · rintro ⟨hmem, rfl⟩
    cases hr : r.byId? room.id with
    | none => exact absurd rfl (byId?_eq_none_iff.mp hr room hmem)
    | some found =>
      -- two rooms of one chat are the same room
      rw [List.inj_on_of_nodup_map h.ids (mem_of_byId? hr) hmem (id_of_byId? hr)]

/-- A name finds exactly the room that has it, in whatever letter case. -/
theorem byName?_eq_some_iff (h : r.Distinct) {name : String} {room : Room} :
    r.byName? name = some room ↔ room ∈ r.rooms ∧ sameName room.identifier name = true := by
  constructor
  · intro hr
    exact ⟨List.mem_of_find?_eq_some hr, sameName_of_byName? hr⟩
  · rintro ⟨hmem, hname⟩
    cases hr : r.byName? name with
    | none => exact absurd hname (by simpa using List.find?_eq_none.mp hr room hmem)
    | some found =>
      -- and so are two rooms of one name
      have hlower : lower found.identifier = lower room.identifier :=
        (sameName_iff.mp (sameName_of_byName? hr)).trans (sameName_iff.mp hname).symm
      rw [List.inj_on_of_nodup_map h.names (List.mem_of_find?_eq_some hr) hmem hlower]

/-- Of any two rooms the names are different. -/
theorem pairwise_names (h : r.Distinct) :
    r.rooms.Pairwise fun a b => sameName a.identifier b.identifier = false := by
  refine (List.pairwise_map.mp h.names).imp ?_
  intro a b hne
  rwa [Bool.eq_false_iff, Ne, sameName_iff]

/-- Rooms in another order are as distinct. -/
theorem of_perm (h : r.Distinct) {rooms : List Room} (hp : rooms.Perm r.rooms) :
    Distinct ⟨rooms⟩ where
  ids := (hp.map _).nodup_iff.mpr h.ids
  names := (hp.map _).nodup_iff.mpr h.names

/-- The order of the rooms does not matter for a look-up by name. -/
theorem byName?_eq_of_perm (h : r.Distinct) {rooms : List Room} (hp : rooms.Perm r.rooms)
    (name : String) : byName? ⟨rooms⟩ name = r.byName? name := by
  -- on both sides the room of this name is found, and order has no part in being a room
  refine Option.ext fun room => ?_
  rw [(h.of_perm hp).byName?_eq_some_iff, h.byName?_eq_some_iff, hp.mem_iff]

/-- A change that leaves the room of a chat as it is changes nothing. -/
theorem update_eq_self (h : r.Distinct) {id : ContactId} {room : Room} (hr : r.byId? id = some room)
    {change : Room → Room} (hc : change room = room) : r.update id change = r := by
  have hsame : ∀ other ∈ r.rooms, (if other.id = id then change other else other) = other := by
    intro other hmem
    split
    · next hid =>
      have hother := h.byId?_eq_some_iff.mpr ⟨hmem, hid⟩
      rw [hr, Option.some.injEq] at hother
      rw [← hother, hc]
    · rfl
  unfold Roster.update
  rw [List.map_congr_left hsame, List.map_id']

end Distinct

end IrcGateway.Chat.Roster
