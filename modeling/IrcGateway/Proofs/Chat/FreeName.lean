import IrcGateway.Proofs.Chat.Naming
import IrcGateway.Proofs.Loop
import Mathlib.Data.Nat.Find
import Mathlib.Order.Bounds.Basic

/-!
# The search for a free name

A new room asks for a name. As long as the name is taken, the room goes on to the next one: the same
with 2 behind it, then with 3, and so on (`Search`, `tryNext`). The numbers that are taken may have
gaps, since chats can be called like numbered names, and by names in another letter case.

The names that are tried are different in more than letter case (`lower_candidate_injective`), the
one that is asked for included. So there are not rooms enough for one more names than there are
rooms (`exists_free`), and the search is over after as many rounds as there are rooms at the latest.
`freeName` is where it ends (`search_ends_at_first_free`).
-/

namespace IrcGateway.Chat.Roster

open IrcGateway.Text IrcGateway.Service

/-- Where a search is: the name it looks at, and the number it puts behind the base next. -/
structure Search where
  name : String
  next : Nat
  deriving DecidableEq, Repr

/-- A search begins with the name that is asked for. -/
def Search.start (base : String) : Search :=
  ⟨base, 2⟩

/-- One round of a search: a name that a room has gives way to the next number. -/
def tryNext (r : Roster) (base : String) (s : Search) : Option Search :=
  if (r.byName? s.name).isSome then some ⟨numbered base s.next, s.next + 1⟩ else none

/-- The names that are tried, in order. -/
def candidate (base : String) : Nat → String
  | 0 => base
  | i + 1 => numbered base (i + 2)

theorem isSome_byName? (r : Roster) (name : String) : (r.byName? name).isSome = r.isTaken name := by
  rw [byName?, isTaken, List.isSome_find?]

/-- A number behind a name makes another name. -/
theorem lower_numbered_ne (base : String) (k : Nat) : lower (numbered base k) ≠ lower base := by
  intro h
  have hlength := congrArg (·.toList.length) h
  simp [numbered, lower] at hlength

/-- No two of the names differ in letter case alone. -/
theorem lower_candidate_injective (base : String) :
    Function.Injective fun i => lower (candidate base i) := by
  intro i j h
  cases i with
  | zero =>
    cases j with
    | zero => rfl
    | succ j => exact absurd h.symm (lower_numbered_ne base _)
  | succ i =>
    cases j with
    | zero => exact absurd h (lower_numbered_ne base _)
    | succ j =>
      have hnumber : i + 2 = j + 2 := lower_numbered_injective base h
      omega

variable {r : Roster} {base : String}

/-- The search goes from one of the names to the next as long as they are taken. -/
theorem tryNext_candidate (r : Roster) (base : String) (i : Nat) :
    r.tryNext base ⟨candidate base i, i + 2⟩ =
      if r.isTaken (candidate base i) then some ⟨candidate base (i + 1), i + 1 + 2⟩ else none := by
  rw [tryNext, isSome_byName?]
  rfl

/-- The first of the names that is free ends the search. -/
theorem finishes_search {rounds : Nat} (htaken : ∀ i < rounds, r.isTaken (candidate base i) = true)
    (hfree : r.isTaken (candidate base rounds) = false) :
    Finishes (r.tryNext base) rounds (.start base) ⟨candidate base rounds, rounds + 2⟩ := by
  let state (i : Nat) : Search := ⟨candidate base i, i + 2⟩
  have hround : ∀ i < rounds, r.tryNext base (state i) = some (state (i + 1)) := by
    intro i hi
    rw [tryNext_candidate, if_pos (htaken i hi)]
  have hover : r.tryNext base (state rounds) = none := by
    rw [tryNext_candidate, hfree, if_neg Bool.false_ne_true]
  exact Finishes.of_sequence state hround hover

/-- Among the numbers that are tried the first free one is found. -/
theorem firstNumbered_eq {tries k j : Nat} (hk : k ≤ j) (hj : j ≤ k + tries)
    (htaken : ∀ i, k ≤ i → i < j → r.isTaken (numbered base i) = true)
    (hfree : r.isTaken (numbered base j) = false) :
    r.firstNumbered base tries k = numbered base j := by
  -- on the tries, which go down as the number goes up to `j`
  induction tries generalizing k with
  | zero =>
    obtain rfl : j = k := by omega
    rfl
  | succ tries ih =>
    unfold firstNumbered
    rcases Nat.eq_or_lt_of_le hk with rfl | hlt
    · rw [hfree, if_neg Bool.false_ne_true]
    · rw [if_pos (htaken k (Nat.le_refl k) hlt)]
      exact ih hlt (by omega) fun i hi => htaken i (Nat.le_of_succ_le hi)

/-- The name that a new room gets is the first of the names that is free. -/
theorem freeName_eq_candidate {rounds : Nat} (hle : rounds ≤ r.rooms.length)
    (htaken : ∀ i < rounds, r.isTaken (candidate base i) = true)
    (hfree : r.isTaken (candidate base rounds) = false) :
    r.freeName base = candidate base rounds := by
  cases rounds with
  | zero =>
    have hbase : r.isTaken base = false := hfree
    rw [freeName, hbase, if_neg Bool.false_ne_true, candidate]
  | succ rounds =>
    have hbase : r.isTaken base = true := htaken 0 (Nat.succ_pos rounds)
    rw [freeName, if_pos hbase]
    refine firstNumbered_eq (Nat.le_add_left 2 rounds) (by omega) ?_ hfree
    intro i hi hlt
    -- the number 2 is tried first behind the base, so that `i` comes at place `i - 1`
    obtain ⟨i, rfl⟩ := Nat.exists_eq_add_of_le' hi
    exact htaken (i + 1) (by omega)

/-- The names that are tried come to one that is free, in no more rounds than there are rooms. -/
theorem exists_first_candidate (r : Roster) (base : String) :
    ∃ rounds ≤ r.rooms.length, (∀ i < rounds, r.isTaken (candidate base i) = true) ∧
      r.isTaken (candidate base rounds) = false := by
  obtain ⟨i, hi, hfree⟩ := r.exists_free (lower_candidate_injective base)
  have hexists : ∃ i, r.isTaken (candidate base i) = false := ⟨i, hfree⟩
  refine ⟨Nat.find hexists, (Nat.find_min' hexists hfree).trans hi, ?_, Nat.find_spec hexists⟩
  intro j hj
  simpa using Nat.find_min hexists hj

/-- **The search for a name.** Whatever the rooms are called, the search for the name of a new room
is over after as many rounds as there are rooms at the latest. The room gets the name with which the
search ends. That is the name it asks for, if no room has it in any letter case, and otherwise that
with the least number from 2 on behind it that no room has. This number is at most one more than
there are rooms. -/
theorem search_ends_at_first_free {r : Roster} {room : Room} (hnew : r.byId? room.id = none) :
    ∃ rounds last,
      Finishes (r.tryNext room.identifier) rounds (.start room.identifier) last ∧
      rounds ≤ r.rooms.length ∧
      r.insert room = ⟨r.rooms ++ [{ room with identifier := last.name }]⟩ ∧
      (r.isTaken room.identifier = false → rounds = 0 ∧ last.name = room.identifier) ∧
      (r.isTaken room.identifier = true →
        ∃ k ≤ r.rooms.length + 1, rounds = k - 1 ∧ last.name = numbered room.identifier k ∧
          IsLeast {k | 2 ≤ k ∧ r.isTaken (numbered room.identifier k) = false} k) := by
  obtain ⟨rounds, hle, htaken, hfree⟩ := r.exists_first_candidate room.identifier
  have hinsert := insert_of_new hnew
  rw [freeName_eq_candidate hle htaken hfree] at hinsert
  refine ⟨rounds, _, finishes_search htaken hfree, hle, hinsert, ?_, ?_⟩
  · -- with the first candidate free there is no round
    intro hbase
    cases rounds with
    | zero => exact ⟨rfl, rfl⟩
    | succ rounds =>
      have htaken' : r.isTaken room.identifier = true := htaken 0 (Nat.succ_pos rounds)
      exact absurd (hbase.symm.trans htaken') Bool.false_ne_true
  · intro hbase
    cases rounds with
    | zero =>
      have hfree' : r.isTaken room.identifier = false := hfree
      exact absurd (hfree'.symm.trans hbase) Bool.false_ne_true
    | succ rounds =>
      refine ⟨rounds + 2, by omega, rfl, rfl, ⟨Nat.le_add_left 2 rounds, hfree⟩, ?_⟩
      -- a number below that is free would have ended the search
      rintro k ⟨hk, hkfree⟩
      by_contra hlt
      obtain ⟨i, rfl⟩ := Nat.exists_eq_add_of_le' hk
      have hktaken : r.isTaken (numbered room.identifier (i + 2)) = true :=
        htaken (i + 1) (by omega)
      exact absurd (hkfree.symm.trans hktaken) Bool.false_ne_true

/-- Of the names of one family the second and the fourth are taken, the second in small letters. The
next one gets the third, in two rounds. -/
theorem family_gets_third :
    let taken (id name : String) : Room :=
      { id := ⟨id, "g.us"⟩, name := "Family", identifier := name, isGroup := true }
    let r : Roster := ⟨[taken "1" "#Family", taken "2" "#family_2", taken "3" "#Family_4"]⟩
    let room := taken "4" "#FAMILY"
    r.byId? room.id = none ∧
      r.insert room = ⟨r.rooms ++ [taken "4" "#FAMILY_3"]⟩ ∧
      ∃ last, Finishes (r.tryNext "#FAMILY") 2 (.start "#FAMILY") last ∧
        last.name = "#FAMILY_3" := by
  intro taken r room
  have hnew : r.byId? room.id = none := by decide
  obtain ⟨rounds, last, hfinishes, -, hinsert, -, hnumber⟩ := search_ends_at_first_free hnew
  obtain ⟨k, -, hrounds, hname, hleast⟩ := hnumber (by decide +kernel)
  -- the third is free, and the second is not
  have hthree : k ≤ 3 := hleast.2 ⟨by decide, by decide +kernel⟩
  have htwo : k ≠ 2 := by
    rintro rfl
    exact absurd hleast.1.2 (by decide +kernel)
  have htwo' : 2 ≤ k := hleast.1.1
  obtain rfl : k = 3 := by omega
  have hthird : last.name = "#FAMILY_3" := hname.trans (by decide +kernel)
  obtain rfl : rounds = 2 := hrounds
  refine ⟨hnew, ?_, last, hfinishes, hthird⟩
  rw [hinsert, hthird]

end IrcGateway.Chat.Roster
