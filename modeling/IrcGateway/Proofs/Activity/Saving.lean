import IrcGateway.Proofs.Activity.Run

/-!
# What is stored of the latest times

Between the times that are recorded and those that are stored lies a saver that looks only now and
then, whose attempts fail, and whose attempts are overtaken by newer times while they go on. What is
stored at a point of a run is the seed with the rows of all attempts that succeeded (`stored`).

The invariant is `InStep`: the saver knows what is stored, and that is behind the times; what an
attempt saves is newer than what is stored; and a saver that has looked at the newest times and
waits for nothing but news has nothing pending. Every move keeps it (`InStep.apply`).
-/

namespace IrcGateway.Activity

/-! ### What was saved -/

/-- What is stored after some attempts: the seed, and what they saved. -/
def stored (seed : Times) (made : List Attempt) : Times :=
  ((made.filter (·.succeeded)).map (·.rows)).foldl Times.putAll seed

/-- The times that were stored for a chat, one after the other. -/
def history (seed : Times) (made : List Attempt) (chat : String) : List Int :=
  (seed.get? chat).toList ++ (made.filter (·.succeeded)).filterMap (·.rows.get? chat)

section Concat

variable (seed : Times) (made : List Attempt) (user : String) (rows : Times)

theorem stored_concat_failed : stored seed (made ++ [⟨user, rows, false⟩]) = stored seed made := by
  simp [stored]

theorem stored_concat_saved :
    stored seed (made ++ [⟨user, rows, true⟩]) = (stored seed made).putAll rows := by
  simp [stored]

theorem history_concat_failed (chat : String) :
    history seed (made ++ [⟨user, rows, false⟩]) chat = history seed made chat := by
  simp [history]

theorem history_concat_saved (chat : String) :
    history seed (made ++ [⟨user, rows, true⟩]) chat
      = history seed made chat ++ (rows.get? chat).toList := by
  cases h : rows.get? chat <;> simp [history, h]

end Concat

/-! ### The invariant -/

/-- An attempt to save these rows goes on. -/
structure Underway (c : Course) (rows : Times) : Prop where
  nonempty : rows ≠ []
  distinct : rows.Distinct
  /-- The tracker has been told times at least as late. -/
  behind : rows.Behind c.times
  /-- Nothing is saved again, and nothing older than what is stored. -/
  newer : ∀ chat time last, rows.get? chat = some time → c.saver.saved.get? chat = some last →
    last < time
  /-- Without news since, this is all that is pending. -/
  current : c.saver.unseen = false → rows = c.saver.pending

/-- How a tracker that began with `seed` stands to its saver, whose attempts so far are `made`. -/
structure InStep (seed : Times) (made : List Attempt) (c : Course) : Prop where
  distinct : c.times.Distinct
  latest : c.saver.latest = c.times
  saved : c.saver.saved = stored seed made
  behind : c.saver.saved.Behind c.times
  underway : ∀ rows left, c.saver.wait = .storing rows left → Underway c rows
  content : c.saver.wait = .news → c.saver.unseen = false → c.saver.pending = []
  rising : ∀ chat, (history seed made chat).Pairwise (· < ·)
  newest : ∀ chat, ∀ time ∈ history seed made chat,
    ∃ last, c.saver.saved.get? chat = some last ∧ time ≤ last

namespace InStep

variable {seed : Times} {made : List Attempt} {c : Course}

theorem start {seed : Times} (h : seed.Distinct) (user : String) :
    InStep seed [] (Course.start user seed) where
  distinct := h
  latest := rfl
  saved := rfl
  behind := Times.Behind.refl seed
  underway := by simp [Course.start, Saver.start]
  content _ _ := by
    -- the saver starts from what is stored
    refine List.eq_nil_iff_forall_not_mem.mpr fun row hrow => ?_
    have hchanged : row ∈ seed.changedSince seed := hrow
    obtain ⟨htime, hne⟩ := (Times.mem_changedSince_iff h).mp hchanged
    exact hne htime
  rising chat := by
    cases hs : seed.get? chat <;> simp [history, hs]
  newest chat time htime := by
    cases hs : seed.get? chat with
    | none => simp [history, hs] at htime
    | some last =>
      obtain rfl : time = last := by simpa [history, hs] using htime
      exact ⟨time, hs, Int.le_refl time⟩

/-- What is pending is what the times have that is not stored. -/
theorem mem_pending_iff (h : InStep seed made c) {chat : String} {time : Int} :
    (chat, time) ∈ c.saver.pending ↔
      c.times.get? chat = some time ∧ (stored seed made).get? chat ≠ some time := by
  rw [← h.saved, ← Times.mem_changedSince_iff h.distinct, ← h.latest]
  rfl

theorem distinct_pending (h : InStep seed made c) : c.saver.pending.Distinct := by
  have hlatest : c.saver.latest.Distinct := h.latest ▸ h.distinct
  exact hlatest.changedSince _

/-- With nothing pending, everything is stored. -/
theorem get?_stored_of_pending (h : InStep seed made c) (hp : c.saver.pending = [])
    (chat : String) : (stored seed made).get? chat = c.times.get? chat := by
  have hchanged : c.times.changedSince c.saver.saved = [] := by
    rw [← h.latest]
    exact hp
  rw [← h.saved]
  exact Times.get?_eq_of_changedSince_eq_nil h.distinct h.behind hchanged chat

/-! ### What keeps it -/

theorem observe (h : InStep seed made c) (chat : String) (time : Int) :
    InStep seed made (Move.apply c (.observe chat time)) := by
  rcases Move.observe_cases c chat time with hs | ⟨-, hs⟩
  · rw [hs]
    exact h
  · -- the saver is told, so that what it saves need not be current any more
    rw [hs]
    have hbehind := Times.behind_observe c.times chat time
    exact
      { h with
        distinct := h.distinct.observe chat time
        latest := rfl
        behind := h.behind.trans hbehind
        underway := fun rows left hw =>
          { h.underway rows left hw with
            behind := (h.underway rows left hw).behind.trans hbehind
            current := fun hu => by simp [Saver.tell] at hu }
        content := fun _ hu => by simp [Saver.tell] at hu }

/-- A saver that looks at the newest times either has nothing to save or begins to save all that is
pending. -/
theorem attempt (h : InStep seed made c) (left : Option Nat) :
    InStep seed made { c with saver := c.saver.attempt left } := by
  rcases c.saver.attempt_cases left with ⟨hp, hs⟩ | ⟨hp, hs⟩
  · -- nothing is pending, so that the saver has reason to be content
    rw [hs]
    exact
      { h with
        underway := fun rows l hw => by cases left <;> simp at hw
        content := fun _ _ => hp }
  · rw [hs]
    refine
      { h with
        underway := ?_
        content := fun hw => by simp at hw }
    rintro rows l hw
    obtain ⟨rfl, -⟩ := Wait.storing.inj hw
    refine ⟨hp, h.distinct_pending, ?_, ?_, fun _ => rfl⟩
    · have hlatest := Times.behind_changedSince (h.latest ▸ h.distinct) c.saver.saved
      rw [← h.latest]
      exact hlatest
    · intro chat time last htime hlast
      -- what is stored is behind the times, and a pending time is not it
      obtain ⟨hnow, hne⟩ := h.mem_pending_iff.mp
        ((Times.mem_iff_get? h.distinct_pending).mpr htime)
      obtain ⟨later, hlater, hle⟩ := h.behind chat last hlast
      obtain rfl : time = later := Option.some.inj (hnow.symm.trans hlater)
      rw [← h.saved, hlast] at hne
      exact Int.lt_iff_le_and_ne.mpr ⟨hle, fun heq => hne (congrArg some heq)⟩

theorem woken (h : InStep seed made c) {cause : Cause} {s : Saver}
    (hwake : c.saver.wake c.now cause = some s) : InStep seed made { c with saver := s } := by
  cases Saver.wakes hwake with
  | news hw hu => exact h.attempt none
  | close hw hg hu =>
    exact
      { h with
        underway := fun rows left hw => by simp at hw
        content := fun hw => by simp at hw }
  | retry hw hd => exact h.attempt none
  | final hw hd => exact h.attempt _

theorem wake (h : InStep seed made c) (cause : Cause) :
    InStep seed made (Move.apply c (.wake cause)) := by
  simp only [Move.apply]
  cases hwake : c.saver.wake c.now cause with
  | none => exact h
  | some s => exact h.woken hwake

theorem look (h : InStep seed made c) :
    InStep seed made { c with saver := c.saver.look c.now } := by
  rcases c.saver.look_cases c.now with ⟨-, hlook⟩ | ⟨-, cause, hlook⟩
  · rw [hlook]
    exact h
  · exact h.woken hlook

theorem close (h : InStep seed made c) : InStep seed made (Move.apply c .close) :=
  { h with underway := fun rows left hw => { h.underway rows left hw with } }

theorem pass (h : InStep seed made c) (span : Nat) :
    InStep seed made (Move.apply c (.pass span)) :=
  { h with underway := fun rows left hw => { h.underway rows left hw with } }

/-- With no news since it began, a successful attempt leaves nothing pending. -/
theorem pending_of_saved (h : InStep seed made c) {rows : Times} {left : Option Nat}
    (hw : c.saver.wait = .storing rows left) (hseen : c.saver.unseen = false) :
    c.saver.latest.changedSince (c.saver.saved.putAll rows) = [] := by
  have hu := h.underway rows left hw
  have hlatest : c.saver.latest.Distinct := h.latest ▸ h.distinct
  refine List.eq_nil_iff_forall_not_mem.mpr fun ⟨chat, time⟩ hchanged => ?_
  obtain ⟨htime, hne⟩ := (Times.mem_changedSince_iff hlatest).mp hchanged
  rw [Times.get?_putAll hu.distinct] at hne
  cases hrow : rows.get? chat with
  | some saved =>
    -- a chat with a row is stored with its newest time
    have hpending : c.saver.pending.get? chat = some saved := hu.current hseen ▸ hrow
    have hsaved := ((Times.get?_changedSince_eq_some_iff hlatest).mp hpending).1
    obtain rfl : saved = time := Option.some.inj (hsaved.symm.trans htime)
    exact hne (by rw [hrow, Option.some_or])
  | none =>
    -- a chat without one was stored before
    rw [hrow, Option.none_or] at hne
    have hpending := (Times.get?_changedSince_eq_some_iff hlatest).mpr ⟨htime, hne⟩
    rw [hu.current hseen] at hrow
    simp [Saver.pending, hpending] at hrow

/-- An attempt that fails stores nothing, and leaves the saver something to wait for. -/
theorem failed (h : InStep seed made c) (left : Option Nat) (rows : Times) :
    InStep seed (made ++ [⟨c.saver.user, rows, false⟩])
      { c with saver := { c.saver with wait := Saver.after c.now left false } } where
  distinct := h.distinct
  latest := h.latest
  saved := h.saved.trans (stored_concat_failed ..).symm
  behind := h.behind
  underway rows' left' hw := by cases left <;> simp [Saver.after] at hw; split at hw <;> simp at hw
  content hw := by cases left <;> simp [Saver.after] at hw; split at hw <;> simp at hw
  rising chat := by
    rw [history_concat_failed]
    exact h.rising chat
  newest chat := by
    rw [history_concat_failed]
    exact h.newest chat

/-- What a successful attempt has saved is stored then. -/
theorem succeeded (h : InStep seed made c) {rows : Times} {left : Option Nat}
    (hw : c.saver.wait = .storing rows left) :
    InStep seed (made ++ [⟨c.saver.user, rows, true⟩])
      { c with
        saver :=
          { c.saver with
            saved := c.saver.saved.putAll rows
            wait := Saver.after c.now left true } } := by
  have hu := h.underway rows left hw
  have hget := Times.get?_putAll hu.distinct c.saver.saved
  refine
    { distinct := h.distinct
      latest := h.latest
      saved := ?_
      behind := h.behind.putAll hu.distinct hu.behind
      underway := fun rows' left' hw' => by cases left <;> simp [Saver.after] at hw'
      content := fun _ hseen => h.pending_of_saved hw hseen
      rising := fun chat => ?_
      newest := fun chat time htime => ?_ }
  · rw [stored_concat_saved, h.saved]
  · rw [history_concat_saved, List.pairwise_append]
    refine ⟨h.rising chat, by cases rows.get? chat <;> simp, ?_⟩
    -- a row is newer than the time stored before, which is the newest of those before
    intro time htime later hlater
    obtain ⟨last, hlast, hle⟩ := h.newest chat time htime
    exact Int.lt_of_le_of_lt hle (hu.newer chat later last (by simpa using hlater) hlast)
  · rw [hget]
    rw [history_concat_saved, List.mem_append] at htime
    rcases htime with hold | hnew
    · -- a time stored before stays the newest, or a row goes over it
      obtain ⟨last, hlast, hle⟩ := h.newest chat time hold
      cases hrow : rows.get? chat with
      | none => exact ⟨last, by simpa using hlast, hle⟩
      | some later =>
        have hlt := hu.newer chat later last hrow hlast
        exact ⟨later, rfl, Int.le_trans hle (Int.le_of_lt hlt)⟩
    · have hrow : rows.get? chat = some time := by simpa using hnew
      exact ⟨time, by simp [hrow], Int.le_refl time⟩

theorem conclude (h : InStep seed made c) (works : Bool) :
    InStep seed (made ++ Move.made c (.conclude works)) (Move.apply c (.conclude works)) := by
  simp only [Move.made, Move.apply]
  rcases c.saver.conclude_cases c.now works with ⟨rows, left, hw, hs⟩ | ⟨-, hs⟩
  · rw [hs]
    cases works with
    | false => exact (h.failed left rows).look
    | true => exact (h.succeeded hw).look
  · simpa [hs] using h

/-- **Every move keeps it.** -/
theorem apply (h : InStep seed made c) (move : Move) :
    InStep seed (made ++ move.made c) (move.apply c) := by
  cases move with
  | observe chat time => simpa [Move.made] using h.observe chat time
  | close => simpa [Move.made] using h.close
  | wake cause => simpa [Move.made] using h.wake cause
  | conclude works => exact h.conclude works
  | pass span => simpa [Move.made] using h.pass span

theorem run (h : InStep seed made c) (moves : List Move) :
    InStep seed (made ++ c.made moves) (c.run moves) := by
  induction moves generalizing made c with
  | nil => simpa [Course.made] using h
  | cons move rest ih =>
    rw [Course.made, Course.run_cons, ← List.append_assoc]
    exact ih (h.apply move)

/-- **At every point of a run the saver is in step.** -/
theorem start_run {seed : Times} (h : seed.Distinct) (user : String) (moves : List Move) :
    InStep seed ((Course.start user seed).made moves) ((Course.start user seed).run moves) :=
  (start h user).run moves

end InStep

end IrcGateway.Activity
