import IrcGateway.Activity.Saver

/-!
# Keeping latest times

A tracker records the latest time of every chat and tells a saver of each forward move, if the times
are to outlive the connection. What the saver then does is kept on a timeline.

* `times_observe`: recording goes by the times alone, whether they are saved or not.
-/

namespace IrcGateway.Activity

/-- What a saver finds around it, and what it has left there. -/
structure Timeline where
  /-- The time, in milliseconds. -/
  now : Nat := 0
  /-- How many of the coming attempts will fail. -/
  failures : Nat := 0
  /-- The attempts made so far, in order. -/
  attempts : List Attempt := []
  deriving Repr

structure Tracker where
  times : Times := []
  /-- Absent where the times are not saved. -/
  saver : Option Saver := none
  deriving Repr, Inhabited

namespace Tracker

/-- A tracker that starts from the stored times of a user and saves what changes. -/
def saving (user : String) (stored : Times) : Tracker :=
  { times := stored, saver := some (Saver.start user stored) }

/-- Records a time if it is later than the one known, and says whether it was; only then the saver
is told. -/
def observe (t : Tracker) (chat : String) (time : Int) : Tracker × Bool :=
  let (times, moved) := t.times.observe chat time
  ({ times, saver := if moved then t.saver.map (·.tell times) else t.saver }, moved)

theorem times_observe (t : Tracker) (chat : String) (time : Int) :
    (t.observe chat time).1.times = (t.times.observe chat time).1 := rfl

/-- The times are given up, and the saver learns it. -/
def close (t : Tracker) : Tracker :=
  { t with saver := t.saver.map Saver.giveUp }

/-- Lets the saver act now, and then while `span` milliseconds pass. -/
def elapse (t : Tracker) (line : Timeline) (span : Nat) : Tracker × Timeline :=
  let later := line.now + span
  match t.saver with
  | none => (t, { line with now := later })
  | some saver =>
    let (saver, failures, atOnce) := saver.settle line.now line.failures
    let (saver, failures, inTime) := saver.advance line.now later failures
    ({ t with saver := some saver },
      { now := later, failures, attempts := line.attempts ++ atOnce ++ inTime })

end Tracker

end IrcGateway.Activity
