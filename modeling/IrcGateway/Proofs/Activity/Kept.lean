import IrcGateway.Proofs.Activity.Ending

/-!
# No latest time is lost

`latest_times_are_kept` says what the attempts of a run save: what is stored keeps up with the times
that are recorded (`InStep`), and the end of a run leaves nothing behind unless all final attempts
fail (`Stage`). How often a saver whose times are given up still acts is counted along the run from
what each act uses up (`Course.spends`).
-/

namespace IrcGateway.Activity

section Runs

variable {c : Course}

theorem Course.begun_append (c : Course) (moves more : List Move) :
    c.begun (moves ++ more) = c.begun moves ++ (c.run moves).begun more := by
  induction moves generalizing c with
  | nil => rfl
  | cons move rest ih => simp [begun, ih]

/-- The attempts that have begun along a run are those that have ended, and the one that goes on. -/
theorem Course.underway_append_begun (c : Course) (moves : List Move) :
    c.saver.underway.toList ++ c.begun moves
      = (c.ended moves).map Prod.fst ++ (c.run moves).saver.underway.toList := by
  induction moves generalizing c with
  | nil => simp [begun, ended]
  | cons move rest ih =>
    rw [begun, ended, run_cons, List.map_append, List.append_assoc, ← ih,
      ← List.append_assoc, move.underway_append_begun, List.append_assoc]

theorem Course.rows_made (c : Course) (moves : List Move) :
    (c.made moves).map (·.rows) = (c.ended moves).map (·.1.rows) := by
  induction moves generalizing c with
  | nil => rfl
  | cons move rest ih => simp [made, ended, ih, Move.made_eq_ended]

theorem Course.length_filter_ended (c : Course) (moves : List Move) :
    (((c.ended moves).map Prod.fst).filter (·.left.isSome)).length = (c.fared moves).length := by
  rw [List.filter_map, List.length_map, fared, List.length_map]
  rfl

theorem Course.run_of_givenUp (hg : c.saver.givenUp = true) (moves : List Move) :
    (c.run moves).times = c.times ∧ (c.run moves).saver.givenUp = true := by
  induction moves generalizing c with
  | nil => exact ⟨rfl, hg⟩
  | cons move rest ih =>
    obtain ⟨htimes, hgiven⟩ := move.apply_of_givenUp hg
    exact ⟨(ih hgiven).1.trans htimes, (ih hgiven).2⟩

/-- **Once the times are given up, all acts use up what is left.** -/
theorem Course.spends (hg : c.saver.givenUp = true) (moves : List Move) :
    ((c.begun moves).filter (·.left.isNone)).length + (c.run moves).saver.ordinaryLeft
        ≤ c.saver.ordinaryLeft ∧
      c.acts moves + (c.run moves).saver.work ≤ c.saver.work := by
  induction moves generalizing c with
  | nil => simp [begun, acts]
  | cons move rest ih =>
    obtain ⟨hleft, hwork⟩ := move.spends hg
    obtain ⟨hleft', hwork'⟩ := ih (move.apply_of_givenUp hg).2
    simp only [begun, acts, run_cons, List.filter_append, List.length_append]
    omega

/-- A saver that begins an attempt has looked at the newest times. -/
theorem Saver.unseen_of_wake {s s' : Saver} {now : Nat} {cause : Cause} {b : Begun}
    (h : s.wake now cause = some s') (hu : s'.underway = some b) : s'.unseen = false := by
  have hattempt : ∀ left, (s.attempt left).unseen = false := fun _ => rfl
  cases wakes h with
  | news => exact hattempt _
  | close => simp [underway] at hu
  | retry => exact hattempt _
  | final => exact hattempt _

theorem Saver.underway_conclude (s : Saver) (now : Nat) (works : Bool) :
    (s.conclude now works).1.underway = none := by
  cases hu : s.underway with
  | none => rw [conclude_of_underway hu, hu]
  | some b =>
    have hw := underway_eq_some_iff.mp hu
    simp only [conclude, hw, underway, after]
    cases b.left with
    | none => cases works <;> rfl
    | some left => by_cases hlast : (works || left ≤ 1) = true <;> simp [hlast]

/-- What a move begins is under way after it, with nothing unseen. -/
theorem Move.underway_of_mem_begun {move : Move} {b : Begun} (h : b ∈ move.begun c) :
    (move.apply c).saver.underway = some b ∧ (move.apply c).saver.unseen = false ∧
      (move.apply c).times = c.times := by
  unfold begun at h
  split at h
  swap
  · simp at h
  next hacts =>
  rw [Option.mem_toList] at h
  refine ⟨h, ?_⟩
  cases move with
  | wake cause =>
    obtain ⟨s, hwake⟩ : ∃ s, c.saver.wake c.now cause = some s :=
      Option.isSome_iff_exists.mp hacts
    have happly : ((Move.wake cause).apply c).saver = s := by simp [Move.apply, hwake]
    rw [happly] at h ⊢
    exact ⟨Saver.unseen_of_wake hwake h, rfl⟩
  | conclude works =>
    -- the end of an attempt begins none, but the look behind it may
    obtain ⟨b', hu⟩ : ∃ b', c.saver.underway = some b' := Option.isSome_iff_exists.mp hacts
    have happly : (Move.conclude works).apply c
        = { c with saver := (c.saver.conclude c.now works).1.look c.now } := by
      simp [Move.apply, Saver.conclude, Saver.underway_eq_some_iff.mp hu]
    rw [happly] at h ⊢
    refine ⟨?_, rfl⟩
    rcases (c.saver.conclude c.now works).1.look_cases c.now with ⟨-, hlook⟩ | ⟨-, cause, hlook⟩
    · simp [hlook, Saver.underway_conclude] at h
    · exact Saver.unseen_of_wake hlook h
  | _ => simp [acts] at hacts

end Runs

/-- **No time that was recorded is lost.** Take any run of a tracker with its saver.

* A saver that waits for news alone, and has seen all there was, has everything stored.
* An attempt saves just the chats whose newest time differs from what is stored, there are some, and
  each attempt that has ended saved what it had begun with. So what is stored for one chat only
  rises.
* Once the times are given up, one ordinary attempt and three final ones begin at most, the saver
  ends after a bounded number of acts, and it has then stored the newest time of every chat, unless
  it made all three final attempts and each of them failed. -/
theorem latest_times_are_kept (user : String) {seed : Times} (hseed : seed.Distinct)
    (moves : List Move) :
    let start := Course.start user seed
    let c := start.run moves
    let saved := stored seed (start.made moves)
    (c.saver.wait = .news → c.saver.unseen = false → ∀ chat, saved.get? chat = c.times.get? chat) ∧
    ((∀ move, ∀ b ∈ move.begun c,
        b.rows ≠ [] ∧ b.rows.Distinct ∧
        ∀ chat time, (chat, time) ∈ b.rows ↔
          c.times.get? chat = some time ∧
          (stored seed (start.made (moves ++ [move]))).get? chat ≠ some time) ∧
      (start.begun moves).map (·.rows)
        = (start.made moves).map (·.rows) ++ c.saver.underway.toList.map (·.rows) ∧
      ∀ chat, (history seed (start.made moves) chat).Pairwise (· < ·)) ∧
    (c.saver.givenUp = true →
      (∀ later,
        (c.run later).times = c.times ∧
        ((c.begun later).filter (·.left.isNone)).length ≤ 1 ∧
        ((c.begun later).filter (·.left.isSome)).length ≤ 3 ∧
        (c.begun later).length ≤ 4 ∧
        c.acts later ≤ 10) ∧
      (c.saver.wait ≠ .over → ∃ span move, Move.acts ((Move.pass span).apply c) move = true) ∧
      (c.saver.wait = .over →
        start.fared moves = [false, false, false] ∨
        ∀ chat, saved.get? chat = c.times.get? chat)) := by
  intro start c saved
  have hin : InStep seed (start.made moves) c := InStep.start_run hseed user moves
  have hstage : ∀ more, Stage (start.run more).saver (start.fared more) := fun more =>
    (Stage.early (.inl (.inl rfl))).run (InStep.start hseed user) more
  have hbegun : ∀ more, start.begun more
      = (start.ended more).map Prod.fst ++ (start.run more).saver.underway.toList :=
    fun more => start.underway_append_begun more
  refine ⟨fun hw hu => hin.get?_stored_of_pending (hin.content hw hu), ⟨?_, ?_, hin.rising⟩, ?_⟩
  · intro move b hb
    obtain ⟨hunder, hseen, htimes⟩ := Move.underway_of_mem_begun hb
    have hin' := hin.apply move
    have hu := hin'.underway b.rows b.left (Saver.underway_eq_some_iff.mp hunder)
    refine ⟨hu.nonempty, hu.distinct, fun chat time => ?_⟩
    have hmade : start.made (moves ++ [move]) = start.made moves ++ move.made c := by
      simp [Course.made_append, Course.made, c]
    rw [hu.current hseen, hin'.mem_pending_iff, htimes, hmade]
  · rw [hbegun, Course.rows_made]
    simp [c]
  · intro hg
    refine ⟨fun later => ?_, exists_acts hg, fun hw => ?_⟩
    · -- the ordinary attempts and the acts are bounded by what is left at this point
      obtain ⟨hleft, hwork⟩ := Course.spends hg later
      have hone := c.saver.ordinaryLeft_le
      have hwork' : c.saver.work ≤ 10 := (hstage moves).work_le
      have hfinal : ((c.begun later).filter (·.left.isSome)).length ≤ 3 := by
        -- final attempts are counted from the start
        have hle := (hstage (moves ++ later)).length_le
        have hall : start.begun moves ++ c.begun later
            = (start.ended (moves ++ later)).map Prod.fst
              ++ (start.run (moves ++ later)).saver.underway.toList :=
          (start.begun_append moves later).symm.trans (hbegun (moves ++ later))
        have hlen := congrArg (fun bs => (bs.filter (·.left.isSome)).length) hall
        simp only [List.filter_append, List.length_append] at hlen
        rw [Course.length_filter_ended] at hlen
        simp only [finalAttempts] at hle
        omega
      have hsum := List.length_eq_length_filter_add (l := c.begun later) (·.left.isSome)
      simp only [Option.not_isSome] at hsum
      exact ⟨(Course.run_of_givenUp hg later).1, by omega, hfinal, by omega, by omega⟩
    · exact (hstage moves).of_over hw |>.imp id hin.get?_stored_of_pending

/-- An attempt is overtaken by a newer time, the next one fails, and so does the one after the times
are given up; the first final attempt then saves what is left. -/
def overtaken : List Move :=
  [.observe "ann" 5, .wake .news, .observe "ann" 7, .conclude true, .conclude false,
    .observe "bob" 9, .close, .wake .news, .conclude false, .wake .time, .conclude true]

theorem latest_times_are_kept_overtaken :
    (Course.start "me" [("old", 1)]).begun overtaken
      = [⟨[("ann", 5)], none⟩, ⟨[("ann", 7)], none⟩, ⟨[("ann", 7), ("bob", 9)], none⟩,
        ⟨[("ann", 7), ("bob", 9)], some 3⟩] ∧
    ((Course.start "me" [("old", 1)]).run overtaken).saver.wait = .over ∧
    ∀ chat, (stored [("old", 1)] ((Course.start "me" [("old", 1)]).made overtaken)).get? chat
      = ((Course.start "me" [("old", 1)]).run overtaken).times.get? chat := by
  have hseed : Times.Distinct [("old", 1)] := List.nodup_singleton "old"
  have hover : ((Course.start "me" [("old", 1)]).run overtaken).saver.wait = .over := by
    decide +kernel
  obtain ⟨-, -, hgiven⟩ := latest_times_are_kept "me" hseed overtaken
  obtain ⟨-, -, hend⟩ := hgiven (by decide +kernel)
  exact ⟨by decide +kernel, hover, (hend hover).resolve_left (by decide +kernel)⟩

end IrcGateway.Activity
