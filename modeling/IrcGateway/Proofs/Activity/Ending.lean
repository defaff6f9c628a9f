import IrcGateway.Proofs.Activity.Saving

/-!
# How saving ends

A saver whose times are given up looks once more at what it has not seen, and turns to its final
attempts. It ends with nothing left to save or after three final attempts that failed; how far it is
towards that is its `Stage`, which every move keeps (`Stage.apply`).

What it may still do once the times are given up is measured by `ordinaryLeft` and `work`. Each of
its acts uses some of that up (`Move.spends`), and while it has not ended it can act
(`exists_acts`).
-/

namespace IrcGateway.Activity

namespace Move

/-- The attempt that ends with a move, and how it fared. -/
def ended (c : Course) : Move → List (Begun × Bool)
  | conclude works => c.saver.underway.toList.map (·, works)
  | _ => []

end Move

namespace Course

/-- The attempts that end along a run, and how they fared. -/
def ended (c : Course) : List Move → List (Begun × Bool)
  | [] => []
  | move :: rest => move.ended c ++ ended (move.apply c) rest

/-- How the final attempts fared along a run. -/
def fared (c : Course) (moves : List Move) : List Bool :=
  ((c.ended moves).filter (·.1.left.isSome)).map (·.2)

/-- How often the saver acts along a run. -/
def acts (c : Course) : List Move → Nat
  | [] => 0
  | move :: rest => (if move.acts c then 1 else 0) + acts (move.apply c) rest

end Course

/-! ### One move -/

section Move

variable {c : Course} {move : Move}

/-- A move that is not one of the saver's leaves the attempt that goes on. -/
theorem Move.underway_of_not_acts (h : move.acts c = false) :
    (move.apply c).saver.underway = c.saver.underway := by
  cases move with
  | observe chat time =>
    rcases Move.observe_cases c chat time with hs | ⟨-, hs⟩ <;> rw [hs]
    rfl
  | close => rfl
  | wake cause =>
    have hwake : c.saver.wake c.now cause = none := by simpa [Move.acts] using h
    simp [Move.apply, hwake]
  | conclude works =>
    have hu : c.saver.underway = none := by simpa [Move.acts] using h
    simp [Move.apply, Saver.conclude_of_underway hu]
  | pass span => rfl

theorem Move.made_eq_ended (c : Course) (move : Move) :
    move.made c = (move.ended c).map fun e => ⟨c.saver.user, e.1.rows, e.2⟩ := by
  cases move with
  | conclude works =>
    cases hu : c.saver.underway with
    | none => simp [made, ended, hu, Saver.conclude_of_underway hu]
    | some b => simp [made, ended, hu, Saver.conclude, Saver.underway_eq_some_iff.mp hu]
  | _ => rfl

/-- The attempts that have begun are those that have ended, and the one that goes on. -/
theorem Move.underway_append_begun (c : Course) (move : Move) :
    c.saver.underway.toList ++ move.begun c
      = (move.ended c).map Prod.fst ++ (move.apply c).saver.underway.toList := by
  unfold begun
  cases hacts : move.acts c with
  | false =>
    -- the attempt that goes on is the same before and after
    rw [move.underway_of_not_acts hacts]
    cases move with
    | conclude works =>
      have hu : c.saver.underway = none := by simpa [acts] using hacts
      simp [ended, hu]
    | _ => simp [ended]
  | true =>
    cases move with
    | wake cause =>
      -- a saver that stores cannot be woken
      have hu : c.saver.underway = none := by
        by_contra hsome
        have := Saver.wake_of_underway (Option.isSome_iff_ne_none.mpr hsome) c.now cause
        simp [acts, this] at hacts
      simp [ended, hu]
    | conclude works => simp [ended, Function.comp_def]
    | _ => simp [acts] at hacts

end Move

/-! ### How far a saver is -/

namespace Saver

/-- The saver waits to make a final attempt, or makes one, with so many left. -/
def Final (s : Saver) (left : Nat) : Prop :=
  (∃ due, s.wait = .final left due) ∨ ∃ rows, s.wait = .storing rows (some left)

end Saver

/-- How far a saver is towards its end, after final attempts that fared as listed. -/
inductive Stage (s : Saver) : List Bool → Prop where
  /-- Its final attempts are still to come. -/
  | early (hw : s.Listens ∨ ∃ rows, s.wait = .storing rows none) : Stage s []
  /-- It is at its final attempts, and those that it made have failed. -/
  | late {left : Nat} (hg : s.givenUp = true) (hu : s.unseen = false) (hw : s.Final left)
      (hl : 1 ≤ left) (hl' : left ≤ finalAttempts) :
      Stage s (List.replicate (finalAttempts - left) false)
  /-- It has ended with nothing left to save. -/
  | saved {fared : List Bool} (hg : s.givenUp = true) (hw : s.wait = .over) (hp : s.pending = [])
      (hl : fared.length ≤ finalAttempts) : Stage s fared
  /-- It has ended, and all its final attempts have failed. -/
  | failed (hg : s.givenUp = true) (hw : s.wait = .over) :
      Stage s (List.replicate finalAttempts false)

namespace Stage

variable {s s' : Saver} {fared : List Bool} {now : Nat}

/-- An ordinary attempt is no step towards the end. -/
theorem attempt_none (s : Saver) : Stage (s.attempt none) [] := by
  rcases s.attempt_cases none with ⟨-, hs⟩ | ⟨-, hs⟩
  · exact .early (.inl (.inl (by simp [hs])))
  · exact .early (.inr ⟨s.pending, by simp [hs]⟩)

theorem nil_of_listens (h : Stage s fared) (hw : s.Listens) : fared = [] := by
  obtain hw | ⟨due, hw⟩ := hw <;> cases h <;> simp_all [Saver.Final]

/-- Before the final attempts nothing is said about them. -/
theorem woken {cause : Cause} (h : Stage s fared) (hwake : s.wake now cause = some s') :
    Stage s' fared := by
  cases Saver.wakes hwake with
  | news hw hu =>
    rw [h.nil_of_listens hw]
    exact attempt_none s
  | retry hw hd =>
    rw [h.nil_of_listens (.inr ⟨_, hw⟩)]
    exact attempt_none s
  | close hw hg hu =>
    rw [h.nil_of_listens hw]
    -- with all attempts left none has been made, so that the list is empty
    have hlate : Stage { s with wait := .final finalAttempts now }
        (List.replicate (finalAttempts - finalAttempts) false) :=
      .late hg hu (.inl ⟨now, rfl⟩) (by decide) (Nat.le_refl _)
    exact hlate
  | @final left due hw hd =>
    cases h with
    | early hw' => simp [hw, Saver.Listens] at hw'
    | saved hg hw' => simp [hw] at hw'
    | failed hg hw' => simp [hw] at hw'
    | @late left' hg hu hf hl hl' =>
      obtain rfl : left = left' := by simpa [hw, Saver.Final] using hf
      -- with nothing left to save there is no attempt
      rcases s.attempt_cases (some left) with ⟨hp, hs⟩ | ⟨hp, hs⟩
      · rw [hs]
        exact .saved hg rfl hp (by rw [List.length_replicate]; omega)
      · rw [hs]
        exact .late hg rfl (.inr ⟨s.pending, rfl⟩) hl hl'

theorem look (h : Stage s fared) (now : Nat) : Stage (s.look now) fared := by
  rcases s.look_cases now with ⟨-, hlook⟩ | ⟨-, cause, hlook⟩
  · rwa [hlook]
  · exact h.woken hlook

/-- At most three final attempts begin. -/
theorem length_le (h : Stage s fared) :
    fared.length + (s.underway.toList.filter (·.left.isSome)).length ≤ finalAttempts := by
  cases h with
  | early hw => rcases hw with (hw | ⟨due, hw⟩) | ⟨rows, hw⟩ <;> simp [Saver.underway, hw]
  | late hg hu hw hl hl' =>
    obtain ⟨due, hw⟩ | ⟨rows, hw⟩ := hw
    · simp [Saver.underway, hw]
    · simp [Saver.underway, hw]
      omega
  | saved hg hw hp hl => simpa [Saver.underway, hw] using hl
  | failed hg hw => simp [Saver.underway, hw]

/-- A saver that has ended has nothing left to save, or all its final attempts have failed. -/
theorem of_over (h : Stage s fared) (hw : s.wait = .over) :
    fared = [false, false, false] ∨ s.pending = [] := by
  cases h with
  | early hw' => simp [hw, Saver.Listens] at hw'
  | late hg hu hf => simp [hw, Saver.Final] at hf
  | saved hg hw' hp => exact .inr hp
  | failed => exact .inl rfl

end Stage

/-- How the final attempt that ends with a move fared. -/
def Move.fared (c : Course) (move : Move) : List Bool :=
  ((move.ended c).filter (·.1.left.isSome)).map Prod.snd

theorem Course.fared_cons (c : Course) (move : Move) (rest : List Move) :
    c.fared (move :: rest) = move.fared c ++ (move.apply c).fared rest := by
  simp [fared, ended, Move.fared]

section Steps

variable {seed : Times} {made : List Attempt} {c : Course} {fared : List Bool}

theorem Stage.conclude (h : Stage c.saver fared) (hin : InStep seed made c) (works : Bool) :
    Stage ((Move.conclude works).apply c).saver (fared ++ (Move.conclude works).fared c) := by
  cases hu : c.saver.underway with
  | none => simpa [Move.apply, Move.fared, Move.ended, hu, Saver.conclude_of_underway hu] using h
  | some b =>
    obtain ⟨rows, left⟩ := b
    have hw := Saver.underway_eq_some_iff.mp hu
    have happly : ((Move.conclude works).apply c).saver
        = Saver.look
          { c.saver with
            saved := if works then c.saver.saved.putAll rows else c.saver.saved
            wait := Saver.after c.now left works } c.now := by
      simp [Move.apply, Saver.conclude, hw]
    rw [happly]
    refine Stage.look ?_ c.now
    cases left with
    | none =>
      -- an ordinary attempt: however it fared, the saver listens again
      have hfared : fared ++ (Move.conclude works).fared c = [] := by
        cases h <;> simp_all [Move.fared, Move.ended, Saver.Final]
      rw [hfared]
      refine .early (.inl ?_)
      cases works
      · exact .inr ⟨c.now + retryDelay, rfl⟩
      · exact .inl rfl
    | some left =>
      have hfared : (Move.conclude works).fared c = [works] := by
        simp [Move.fared, Move.ended, hu]
      rw [hfared]
      cases h with
      | early hw' => simp [hw, Saver.Listens] at hw'
      | saved hg hw' => simp [hw] at hw'
      | failed hg hw' => simp [hw] at hw'
      | @late left' hg hseen hf hl hl' =>
        obtain rfl : left = left' := by simpa [hw, Saver.Final] using hf
        cases works with
        | true =>
          -- no news can have come since it began, so that all is stored now
          refine .saved hg rfl (hin.pending_of_saved hw hseen) ?_
          rw [List.length_append, List.length_replicate, List.length_singleton]
          omega
        | false =>
          -- one more has failed, and one less is left
          have hreplicate : List.replicate (finalAttempts - left) false ++ [false]
              = List.replicate (finalAttempts - (left - 1)) false := by
            rw [← List.replicate_succ']
            congr 1
            omega
          rw [hreplicate]
          by_cases hlast : left = 1
          · subst hlast
            exact .failed hg rfl
          · refine .late hg hseen (.inl ⟨c.now + retryDelay, ?_⟩) (by omega) (by omega)
            simp [Saver.after]
            omega

theorem Stage.apply (h : Stage c.saver fared) (hin : InStep seed made c) (move : Move) :
    Stage (move.apply c).saver (fared ++ move.fared c) := by
  cases move with
  | observe chat time =>
    have hfared : (Move.observe chat time).fared c = [] := rfl
    rw [hfared, List.append_nil]
    rcases Move.observe_cases c chat time with hs | ⟨hg, hs⟩
    · rwa [hs]
    · rw [hs]
      -- times are recorded only as long as they are not given up
      cases h with
      | early hw => exact .early hw
      | late hg' => simp [hg] at hg'
      | saved hg' => simp [hg] at hg'
      | failed hg' => simp [hg] at hg'
  | close =>
    -- giving up begins nothing by itself: the saver has to be woken to it
    have hfared : Move.close.fared c = [] := rfl
    rw [hfared, List.append_nil]
    cases h with
    | early hw => exact .early hw
    | late hg hu hw hl hl' => exact .late rfl hu hw hl hl'
    | saved hg hw hp hl => exact .saved rfl hw hp hl
    | failed hg hw => exact .failed rfl hw
  | wake cause =>
    have hfared : (Move.wake cause).fared c = [] := rfl
    rw [hfared, List.append_nil]
    simp only [Move.apply]
    cases hwake : c.saver.wake c.now cause with
    | none => exact h
    | some s => exact h.woken hwake
  | conclude works => exact h.conclude hin works
  | pass span => simpa [Move.apply, Move.fared, Move.ended] using h

theorem Stage.run (h : Stage c.saver fared) (hin : InStep seed made c) (moves : List Move) :
    Stage (c.run moves).saver (fared ++ c.fared moves) := by
  induction moves generalizing made c fared with
  | nil => simpa [Course.fared, Course.ended] using h
  | cons move rest ih =>
    rw [Course.fared_cons, ← List.append_assoc]
    exact ih (h.apply hin move) (hin.apply move)

end Steps

/-! ### What is left to do -/

namespace Saver

variable {s s' : Saver} {now : Nat}

/-- How many ordinary attempts may still begin once the times are given up. -/
def ordinaryLeft (s : Saver) : Nat :=
  match s.wait with
  | .news | .storing _ none => if s.unseen then 1 else 0
  | .retry _ => 1
  | _ => 0

/-- A bound on the acts of a saver whose times are given up. -/
def work (s : Saver) : Nat :=
  match s.wait with
  | .news | .storing _ none => if s.unseen then 10 else 9
  | .retry _ => 10
  | .final left _ => 2 * left + 2
  | .storing _ (some left) => 2 * left + 1
  | .over => 0

/-- The ordinary attempt that goes on. -/
def ordinary (s : Saver) : List Begun :=
  s.underway.toList.filter (·.left.isNone)

theorem ordinaryLeft_le (s : Saver) : s.ordinaryLeft ≤ 1 := by
  unfold ordinaryLeft
  split <;> (try split) <;> simp

theorem attempt_none_left (s : Saver) :
    (s.attempt none).ordinary.length ≤ 1 ∧ (s.attempt none).ordinaryLeft = 0 ∧
      (s.attempt none).work = 9 := by
  rcases s.attempt_cases none with ⟨-, hs⟩ | ⟨-, hs⟩ <;>
    simp [hs, ordinary, underway, ordinaryLeft, work]

/-- Waking a saver whose times are given up uses some of what is left. -/
theorem spends_wake {cause : Cause} (hwake : s.wake now cause = some s') :
    s'.ordinary.length + s'.ordinaryLeft ≤ s.ordinaryLeft ∧ s'.work < s.work := by
  cases wakes hwake with
  | news hw hu =>
    obtain ⟨hlen, hleft, hwork⟩ := s.attempt_none_left
    obtain hw | ⟨due, hw⟩ := hw
    · have h : s.ordinaryLeft = 1 ∧ s.work = 10 := by simp [ordinaryLeft, work, hw, hu]
      omega
    · have h : s.ordinaryLeft = 1 ∧ s.work = 10 := by simp [ordinaryLeft, work, hw]
      omega
  | close hw hg hu =>
    obtain hw | ⟨due, hw⟩ := hw <;>
      simp [ordinary, underway, ordinaryLeft, work, hw, hu, finalAttempts]
  | retry hw hd =>
    obtain ⟨hlen, hleft, hwork⟩ := s.attempt_none_left
    have h : s.ordinaryLeft = 1 ∧ s.work = 10 := by simp [ordinaryLeft, work, hw]
    omega
  | @final left due hw hd =>
    rcases s.attempt_cases (some left) with ⟨-, hs⟩ | ⟨-, hs⟩ <;>
      simp [hs, ordinary, underway, ordinaryLeft, work, hw]

theorem look_le (s : Saver) (now : Nat) :
    (s.look now).ordinary.length + (s.look now).ordinaryLeft
        ≤ s.ordinary.length + s.ordinaryLeft ∧
      (s.look now).work ≤ s.work := by
  rcases s.look_cases now with ⟨-, hlook⟩ | ⟨-, cause, hlook⟩
  · rw [hlook]
    exact ⟨Nat.le_refl _, Nat.le_refl _⟩
  · obtain ⟨hleft, hwork⟩ := spends_wake hlook
    omega

/-- A saver whose times are given up does not go back to sleep. -/
theorem look_of_listens (hw : s.Listens) (hg : s.givenUp = true) :
    s.look now
      = if s.unseen then s.attempt none else { s with wait := .final finalAttempts now } := by
  cases hu : s.unseen <;> obtain hw | ⟨due, hw⟩ := hw <;> simp [look, causes, wake, hw, hu, hg]

theorem look_left (now : Nat) (hw : s.Listens) (hg : s.givenUp = true) :
    (s.look now).ordinary.length + (s.look now).ordinaryLeft ≤ (if s.unseen then 1 else 0) ∧
      (s.look now).work < if s.unseen then 10 else 9 := by
  rw [look_of_listens hw hg]
  cases s.unseen with
  | true =>
    obtain ⟨hlen, hleft, hwork⟩ := s.attempt_none_left
    simp only [↓reduceIte]
    omega
  | false => simp [ordinary, underway, ordinaryLeft, work, finalAttempts]

end Saver

theorem Stage.work_le {s : Saver} {fared : List Bool} (h : Stage s fared) : s.work ≤ 10 := by
  cases h with
  | early hw =>
    rcases hw with (hw | ⟨due, hw⟩) | ⟨rows, hw⟩ <;> cases hu : s.unseen <;>
      simp [Saver.work, hw, hu]
  | late hg hu hw hl hl' =>
    simp only [finalAttempts] at hl'
    obtain ⟨due, hw⟩ | ⟨rows, hw⟩ := hw <;> simp only [Saver.work, hw] <;> omega
  | saved hg hw => simp [Saver.work, hw]
  | failed hg hw => simp [Saver.work, hw]

section GivenUp

variable {c : Course}

theorem Saver.givenUp_of_wake {s s' : Saver} {now : Nat} {cause : Cause}
    (h : s.wake now cause = some s') : s'.givenUp = s.givenUp := by
  cases wakes h <;> rfl

theorem Saver.givenUp_look (s : Saver) (now : Nat) : (s.look now).givenUp = s.givenUp := by
  rcases s.look_cases now with ⟨-, hlook⟩ | ⟨-, cause, hlook⟩
  · rw [hlook]
  · exact givenUp_of_wake hlook

/-- Times that are given up do not change, and are not taken up again. -/
theorem Move.apply_of_givenUp (hg : c.saver.givenUp = true) (move : Move) :
    (move.apply c).times = c.times ∧ (move.apply c).saver.givenUp = true := by
  cases move with
  | observe chat time => simp [Move.apply, hg]
  | close => simp [Move.apply, Course.withTracker, Course.tracker, Tracker.close, Saver.giveUp]
  | wake cause =>
    refine ⟨rfl, ?_⟩
    simp only [Move.apply]
    cases hwake : c.saver.wake c.now cause with
    | none => exact hg
    | some s => exact (Saver.givenUp_of_wake hwake).trans hg
  | conclude works =>
    simp only [Move.apply]
    rcases c.saver.conclude_cases c.now works with ⟨rows, left, hw, hs⟩ | ⟨-, hs⟩
    · rw [hs]
      exact ⟨rfl, (Saver.givenUp_look ..).trans hg⟩
    · rw [hs]
      exact ⟨rfl, hg⟩
  | pass span => exact ⟨rfl, hg⟩

/-- A move that is not one of the saver's leaves it with as much to do. -/
theorem Move.idle (hg : c.saver.givenUp = true) {move : Move} (h : move.acts c = false) :
    (move.apply c).saver = c.saver := by
  cases move with
  | observe chat time => simp [Move.apply, hg]
  | close =>
    simp [Move.apply, Course.withTracker, Course.tracker, Tracker.close, Saver.giveUp, ← hg]
  | wake cause =>
    have hwake : c.saver.wake c.now cause = none := by simpa [Move.acts] using h
    simp [Move.apply, hwake]
  | conclude works =>
    have hu : c.saver.underway = none := by simpa [Move.acts] using h
    simp [Move.apply, Saver.conclude_of_underway hu]
  | pass span => rfl

/-- The end of an attempt that goes on uses some of what is left, also with the look behind it. -/
theorem Saver.spends_conclude {s : Saver} {b : Begun} (hg : s.givenUp = true)
    (hu : s.underway = some b) (now : Nat) (works : Bool) :
    ((s.conclude now works).1.look now).ordinary.length
        + ((s.conclude now works).1.look now).ordinaryLeft ≤ s.ordinaryLeft ∧
      ((s.conclude now works).1.look now).work < s.work := by
  obtain ⟨rows, left⟩ := b
  have hw := underway_eq_some_iff.mp hu
  obtain ⟨hnext, hseen, hgiven⟩ :
      (s.conclude now works).1.wait = after now left works ∧
      (s.conclude now works).1.unseen = s.unseen ∧
      (s.conclude now works).1.givenUp = s.givenUp := by
    simp [conclude, hw]
  generalize (s.conclude now works).1 = next at hnext hseen hgiven ⊢
  cases left with
  | none =>
    -- an ordinary attempt: the saver listens again, and the look behind it notices being given up
    have hl : next.Listens := by
      cases works
      · exact .inr ⟨now + retryDelay, hnext⟩
      · exact .inl hnext
    have h := look_left now hl (hgiven.trans hg)
    simpa [ordinaryLeft, work, hw, hseen] using h
  | some left =>
    -- a final attempt: it was the last one or it worked, or it is made again
    have h := next.look_le now
    have hs : s.ordinaryLeft = 0 ∧ s.work = 2 * left + 1 := by simp [ordinaryLeft, work, hw]
    by_cases hlast : works = true ∨ left ≤ 1
    · have hover : next.wait = .over := by simp_all [after]
      have hleft : next.ordinary.length = 0 ∧ next.ordinaryLeft = 0 ∧ next.work = 0 := by
        simp [ordinary, underway, ordinaryLeft, work, hover]
      omega
    · have hfinal : next.wait = .final (left - 1) (now + retryDelay) := by simp_all [after]
      have hleft : next.ordinary.length = 0 ∧ next.ordinaryLeft = 0
          ∧ next.work = 2 * (left - 1) + 2 := by
        simp [ordinary, underway, ordinaryLeft, work, hfinal]
      omega

/-- **An act of a saver whose times are given up uses some of what is left.** -/
theorem Move.spends (hg : c.saver.givenUp = true) (move : Move) :
    ((move.begun c).filter (·.left.isNone)).length + (move.apply c).saver.ordinaryLeft
        ≤ c.saver.ordinaryLeft ∧
      (if move.acts c then 1 else 0) + (move.apply c).saver.work ≤ c.saver.work := by
  unfold begun
  cases hacts : move.acts c with
  | false => simp [move.idle hg hacts]
  | true =>
    -- of the two ways to act, each has its bound
    have h : (move.apply c).saver.ordinary.length + (move.apply c).saver.ordinaryLeft
          ≤ c.saver.ordinaryLeft ∧
        (move.apply c).saver.work < c.saver.work := by
      cases move with
      | wake cause =>
        obtain ⟨s, hwake⟩ : ∃ s, c.saver.wake c.now cause = some s :=
          Option.isSome_iff_exists.mp hacts
        simpa [Move.apply, hwake] using Saver.spends_wake hwake
      | conclude works =>
        obtain ⟨b, hu⟩ : ∃ b, c.saver.underway = some b := Option.isSome_iff_exists.mp hacts
        simpa [Move.apply, Saver.conclude, Saver.underway_eq_some_iff.mp hu]
          using Saver.spends_conclude hg hu c.now works
      | _ => simp [acts] at hacts
    simp only [↓reduceIte]
    exact ⟨h.1, by omega⟩

/-- A saver whose times are given up and that has not ended will act, if only in time. -/
theorem exists_acts (hg : c.saver.givenUp = true) (hw : c.saver.wait ≠ .over) :
    ∃ span move, Move.acts ((Move.pass span).apply c) move = true := by
  -- what it listens for is there: news that it has not seen, or else that it is given up
  have hlisten : c.saver.Listens →
      ∃ span move, Move.acts ((Move.pass span).apply c) move = true := by
    intro hl
    cases hseen : c.saver.unseen
    · refine ⟨0, .wake .close, ?_⟩
      obtain hw | ⟨due, hw⟩ := hl <;> simp [Move.acts, Move.apply, Saver.wake, hw, hg, hseen]
    · refine ⟨0, .wake .news, ?_⟩
      obtain hw | ⟨due, hw⟩ := hl <;> simp [Move.acts, Move.apply, Saver.wake, hw, hseen]
  cases h : c.saver.wait with
  | news => exact hlisten (.inl h)
  | retry due => exact hlisten (.inr ⟨due, h⟩)
  | final left due =>
    refine ⟨due - c.now, .wake .time, ?_⟩
    have hdue : due ≤ c.now + (due - c.now) := by omega
    simp [Move.acts, Move.apply, Saver.wake, h, hdue]
  | storing rows left =>
    exact ⟨0, .conclude true, by simp [Move.acts, Move.apply, Saver.underway, h]⟩
  | _ => exact absurd h hw

end GivenUp

end IrcGateway.Activity
