import IrcGateway.Activity.Tracker
import IrcGateway.Proofs.Activity.Times

/-!
# Runs of a tracker with its saver

Times are recorded while the saver sleeps, while it wakes, and while an attempt to save goes on; at
some point they are given up. Each of these is a `Move`, and a run is any sequence of them: what
wakes the saver when several causes are there, how long an attempt takes and how it fares, and when
time passes are all left open. Only the end of an attempt is one with the look that follows: a saver
does not go back to sleep over news.

What waking can be is named in `Wakes`, and what an attempt begins with in `attempt_cases`. The acts
of a saver that is let act at once are a run (`settle_eq_run`).
-/

namespace IrcGateway.Activity

/-- An attempt that has begun: what it saves, and how many of the final attempts are left with it if
it is one of those. -/
structure Begun where
  rows : Times
  left : Option Nat
  deriving DecidableEq, Repr

namespace Saver

/-- A saver that has just begun to wait is woken if there is a cause already. -/
def look (s : Saver) (now : Nat) : Saver :=
  (causes.findSome? (s.wake now)).getD s

/-- The attempt that goes on. -/
def underway (s : Saver) : Option Begun :=
  match s.wait with
  | .storing rows left => some ⟨rows, left⟩
  | _ => none

end Saver

/-- A tracker whose times are saved, in the course of time. -/
structure Course where
  times : Times
  saver : Saver
  now : Nat := 0

/-- What can happen to a tracker next. -/
inductive Move where
  /-- The time of a chat is recorded, unless the times were given up. -/
  | observe (chat : String) (time : Int)
  /-- The times are given up. -/
  | close
  /-- Something wakes the saver, if it is there. -/
  | wake (cause : Cause)
  /-- The attempt that goes on comes to its end, and the saver looks for what comes next. -/
  | conclude (works : Bool)
  /-- Time passes. -/
  | pass (span : Nat)
  deriving DecidableEq, Repr

namespace Course

/-- A tracker that starts from the stored times of a user. -/
def start (user : String) (stored : Times) : Course :=
  { times := stored, saver := Saver.start user stored }

def tracker (c : Course) : Tracker :=
  { times := c.times, saver := some c.saver }

def withTracker (c : Course) (t : Tracker) : Course :=
  { c with times := t.times, saver := t.saver.getD c.saver }

end Course

namespace Move

/-- The course after a move. -/
def apply (c : Course) : Move → Course
  | observe chat time =>
    if c.saver.givenUp then c else c.withTracker (c.tracker.observe chat time).1
  | close => c.withTracker c.tracker.close
  | wake cause => { c with saver := (c.saver.wake c.now cause).getD c.saver }
  | conclude works =>
    match c.saver.conclude c.now works with
    | (saver, some _) => { c with saver := saver.look c.now }
    | (_, none) => c
  | pass span => { c with now := c.now + span }

/-- Whether a move is one of the saver's. -/
def acts (c : Course) : Move → Bool
  | wake cause => (c.saver.wake c.now cause).isSome
  | conclude _ => c.saver.underway.isSome
  | _ => false

/-- The attempt that begins with a move. -/
def begun (c : Course) (move : Move) : List Begun :=
  if move.acts c then (move.apply c).saver.underway.toList else []

/-- The attempt that ends with a move. -/
def made (c : Course) : Move → List Attempt
  | conclude works => (c.saver.conclude c.now works).2.toList
  | _ => []

end Move

namespace Course

/-- The course after a run. -/
def run (c : Course) (moves : List Move) : Course :=
  moves.foldl Move.apply c

/-- The attempts that begin along a run. -/
def begun (c : Course) : List Move → List Begun
  | [] => []
  | move :: rest => move.begun c ++ begun (move.apply c) rest

/-- The attempts that end along a run. -/
def made (c : Course) : List Move → List Attempt
  | [] => []
  | move :: rest => move.made c ++ made (move.apply c) rest

@[simp] theorem run_nil (c : Course) : c.run [] = c := rfl

@[simp] theorem run_cons (c : Course) (move : Move) (rest : List Move) :
    c.run (move :: rest) = (move.apply c).run rest := rfl

theorem run_append (c : Course) (moves more : List Move) :
    c.run (moves ++ more) = (c.run moves).run more :=
  List.foldl_append

theorem made_append (c : Course) (moves more : List Move) :
    c.made (moves ++ more) = c.made moves ++ (c.run moves).made more := by
  induction moves generalizing c with
  | nil => rfl
  | cons move rest ih => simp [made, ih]

end Course

/-- Recording a time does nothing, or it takes the times forward and tells the saver. -/
theorem Move.observe_cases (c : Course) (chat : String) (time : Int) :
    (Move.observe chat time).apply c = c ∨
    (c.saver.givenUp = false ∧
      (Move.observe chat time).apply c =
        { c with
          times := (c.times.observe chat time).1
          saver := c.saver.tell (c.times.observe chat time).1 }) := by
  simp only [apply]
  split
  · exact .inl rfl
  · next hg =>
    cases hmoved : (c.times.observe chat time).2 with
    | false =>
      have hsame := Times.observe_of_not_moved hmoved
      exact .inl (by simp [Course.withTracker, Course.tracker, Tracker.observe, hmoved, hsame])
    | true =>
      refine .inr ⟨by simpa using hg, ?_⟩
      simp [Course.withTracker, Course.tracker, Tracker.observe, hmoved]

namespace Saver

/-! ### What the saver does -/

/-- The saver waits for news, perhaps also for the time to try again. -/
def Listens (s : Saver) : Prop :=
  s.wait = .news ∨ ∃ due, s.wait = .retry due

/-- What a saver can be woken to. -/
inductive Wakes (s : Saver) (now : Nat) : Cause → Saver → Prop where
  /-- It looks at news. -/
  | news (hw : s.Listens) (hu : s.unseen = true) : Wakes s now .news (s.attempt none)
  /-- It turns to its final attempts. -/
  | close (hw : s.Listens) (hg : s.givenUp = true) (hu : s.unseen = false) :
      Wakes s now .close { s with wait := .final finalAttempts now }
  /-- It tries again. -/
  | retry {due : Nat} (hw : s.wait = .retry due) (hd : due ≤ now) :
      Wakes s now .time (s.attempt none)
  /-- It makes a final attempt. -/
  | final {left due : Nat} (hw : s.wait = .final left due) (hd : due ≤ now) :
      Wakes s now .time (s.attempt (some left))

/-- **What waking can be.** -/
theorem wakes {s s' : Saver} {now : Nat} {cause : Cause} (h : s.wake now cause = some s') :
    Wakes s now cause s' := by
  -- the cases are the lines of `wake`, where news and the end are awaited in two ways each
  unfold wake at h
  split at h
  case h_1 hw =>
    split at h
    · next hu => exact Option.some.inj h ▸ .news (.inl hw) hu
    · simp at h
  case h_2 due hw =>
    split at h
    · next hu => exact Option.some.inj h ▸ .news (.inr ⟨due, hw⟩) hu
    · simp at h
  case h_3 hw =>
    split at h
    · next hc => exact Option.some.inj h ▸ .close (.inl hw) hc.1 hc.2
    · simp at h
  case h_4 due hw =>
    split at h
    · next hc => exact Option.some.inj h ▸ .close (.inr ⟨due, hw⟩) hc.1 hc.2
    · simp at h
  case h_5 due hw =>
    split at h
    · next hd => exact Option.some.inj h ▸ .retry hw hd
    · simp at h
  case h_6 left due hw =>
    split at h
    · next hd => exact Option.some.inj h ▸ .final hw hd
    · simp at h
  case h_7 => simp at h

/-- An attempt begins unless nothing is pending. -/
theorem attempt_cases (s : Saver) (left : Option Nat) :
    (s.pending = [] ∧ s.attempt left
      = { s with unseen := false, wait := if left.isSome then .over else .news }) ∨
    (s.pending ≠ [] ∧
      s.attempt left = { s with unseen := false, wait := .storing s.pending left }) := by
  unfold attempt
  by_cases h : s.pending = []
  · exact .inl ⟨h, by simp [h]⟩
  · exact .inr ⟨h, by simp [h]⟩

/-- An attempt ends if one goes on, and otherwise nothing happens. -/
theorem conclude_cases (s : Saver) (now : Nat) (works : Bool) :
    (∃ rows left, s.wait = .storing rows left ∧
      s.conclude now works =
        ({ s with
            saved := if works then s.saved.putAll rows else s.saved
            wait := after now left works },
          some ⟨s.user, rows, works⟩)) ∨
    ((∀ rows left, s.wait ≠ .storing rows left) ∧ s.conclude now works = (s, none)) := by
  unfold conclude
  split
  · next rows left hw => exact .inl ⟨rows, left, hw, rfl⟩
  · next hw => exact .inr ⟨hw, rfl⟩

end Saver

/-! ### Acting at once -/

namespace Saver

theorem underway_eq_some_iff {s : Saver} {b : Begun} :
    s.underway = some b ↔ s.wait = .storing b.rows b.left := by
  unfold underway
  split
  · next rows left hw =>
    rw [hw, Option.some.injEq, Wait.storing.injEq]
    constructor
    · rintro rfl
      exact ⟨rfl, rfl⟩
    · rintro ⟨rfl, rfl⟩
      rfl
  · next hw => simpa using hw b.rows b.left

theorem wake_of_underway {s : Saver} (h : s.underway.isSome = true) (now : Nat) (cause : Cause) :
    s.wake now cause = none := by
  unfold underway at h
  unfold wake
  split at h
  · next hw => cases cause <;> simp [hw]
  · simp at h

theorem conclude_of_underway {s : Saver} (h : s.underway = none) (now : Nat) (works : Bool) :
    s.conclude now works = (s, none) := by
  rcases s.conclude_cases now works with ⟨rows, left, hw, -⟩ | ⟨-, hs⟩
  · simp [underway, hw] at h
  · exact hs

theorem isDue_iff {s : Saver} {now : Nat} :
    s.isDue now = true ↔ ∃ woken, causes.findSome? (s.wake now) = some woken := by
  rw [isDue, List.any_eq_true, ← Option.isSome_iff_exists, List.findSome?_isSome_iff]

/-- Looking wakes the saver if it is due. -/
theorem look_cases (s : Saver) (now : Nat) :
    (s.isDue now = false ∧ s.look now = s) ∨
    (s.isDue now = true ∧ ∃ cause, s.wake now cause = some (s.look now)) := by
  rw [← Bool.not_eq_true, isDue_iff]
  unfold look
  cases h : causes.findSome? (s.wake now) with
  | none => exact .inl ⟨by simp, rfl⟩
  | some woken =>
    obtain ⟨cause, -, hcause⟩ := List.exists_of_findSome?_eq_some h
    exact .inr ⟨⟨woken, rfl⟩, cause, hcause⟩

theorem act_of_isDue {s : Saver} {now : Nat} (h : s.isDue now = true) (works : Bool) :
    s.act now works = (s.look now).conclude now works := by
  obtain ⟨woken, hwoken⟩ := isDue_iff.mp h
  simp [act, look, hwoken]

end Saver

/-- Looking is a run. -/
theorem look_eq_run (c : Course) :
    ∃ moves, c.run moves = { c with saver := c.saver.look c.now } ∧ c.made moves = [] := by
  rcases c.saver.look_cases c.now with ⟨-, hlook⟩ | ⟨-, cause, hlook⟩
  · exact ⟨[], by rw [hlook]; rfl, rfl⟩
  · exact ⟨[.wake cause], by simp [Move.apply, hlook], rfl⟩

/-- **Letting the saver act at once is a run.** -/
theorem settle_eq_run (c : Course) (failures : Nat) :
    ∃ moves,
      c.run moves
        = { c with saver := (c.saver.settle c.now failures).1.look c.now } ∧
      c.made moves = (c.saver.settle c.now failures).2.2 := by
  -- what settling does with any fuel, from a saver that has looked already
  suffices h : ∀ (fuel : Nat) (s : Saver) (failures : Nat), ∃ moves,
      Course.run { c with saver := s.look c.now } moves
        = { c with saver := (Saver.settle.go c.now fuel s failures).1.look c.now } ∧
      Course.made { c with saver := s.look c.now } moves
        = (Saver.settle.go c.now fuel s failures).2.2 by
    obtain ⟨looking, hrun, hmade⟩ := look_eq_run c
    obtain ⟨moves, hrun', hmade'⟩ := h 4 c.saver failures
    refine ⟨looking ++ moves, ?_, ?_⟩
    · rw [Course.run_append, hrun, hrun']
      rfl
    · rw [Course.made_append, hrun, hmade, hmade']
      rfl
  intro fuel
  induction fuel with
  | zero => exact fun s failures => ⟨[], rfl, rfl⟩
  | succ fuel ih =>
    intro s failures
    unfold Saver.settle.go
    cases hdue : s.isDue c.now with
    | false => exact ⟨[], rfl, rfl⟩
    | true =>
      rw [if_pos rfl, Saver.act_of_isDue hdue]
      set woken := s.look c.now with hwoken
      cases hu : woken.underway with
      | none =>
        -- nothing had to be saved, and the saver looks again
        rw [Saver.conclude_of_underway hu]
        obtain ⟨looking, hrun, hmade⟩ := look_eq_run { c with saver := woken }
        obtain ⟨moves, hrun', hmade'⟩ := ih woken failures
        refine ⟨looking ++ moves, ?_, ?_⟩
        · rw [Course.run_append, hrun, hrun']
          rfl
        · rw [Course.made_append, hrun, hmade, hmade']
          rfl
      | some begun =>
        -- an attempt has begun, and its end is the next move
        obtain ⟨next, attempt, hconclude⟩ :
            ∃ next attempt, woken.conclude c.now (failures == 0) = (next, some attempt) := by
          rcases woken.conclude_cases c.now (failures == 0) with ⟨rows, left, -, h⟩ | ⟨h, -⟩
          · exact ⟨_, _, h⟩
          · simp [Saver.underway] at hu
        rw [hconclude]
        obtain ⟨moves, hrun, hmade⟩ := ih next (failures - 1)
        refine ⟨.conclude (failures == 0) :: moves, ?_, ?_⟩
        · simpa [Move.apply, hconclude] using hrun
        · simpa [Course.made, Move.made, Move.apply, hconclude] using hmade

end IrcGateway.Activity
