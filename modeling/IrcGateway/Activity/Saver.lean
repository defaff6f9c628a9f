import IrcGateway.Activity.Latest

/-!
# Saving the latest times

The saver brings the times of one user into the archive. It is told of every forward move by the
newest times as a whole, wakes up, and saves those that differ from what it has saved before; moves
that happen before it wakes are saved together. After a failed attempt it tries again when there is
news or after five seconds. When its times are given up it looks once more at news it has not seen,
and then makes up to three final attempts five seconds apart, the first at once.

Time is given in milliseconds from outside. `wake` says what can wake the saver and what it does
then; an attempt it has begun goes on until `conclude` says how it fared, and much can happen in
between. `act` is an attempt that ends at once, and `settle` and `advance` let the saver act for as
long as it can and as time passes.
-/

namespace IrcGateway.Activity

/-- How long the saver waits before it tries again, in milliseconds. -/
def retryDelay : Nat := 5000

/-- How many attempts the saver makes after its times were given up. -/
def finalAttempts : Nat := 3

/-- What the saver is waiting for. -/
inductive Wait where
  /-- News. -/
  | news
  /-- News, or the time to try again. -/
  | retry (due : Nat)
  /-- The time for the next of the final attempts, of which `left` are left. -/
  | final (left due : Nat)
  /-- The end of an attempt to save `rows`. If it is a final one, `left` were left with it. -/
  | storing (rows : Times) (left : Option Nat)
  /-- Nothing: it has finished. -/
  | over
  deriving DecidableEq, Repr

/-- What can wake the saver. -/
inductive Cause where
  /-- There is news that it has not looked at. -/
  | news
  /-- There will be no more news, and it has looked at all there is. -/
  | close
  /-- It is time to try again, or to make a final attempt. -/
  | time
  deriving DecidableEq, Repr

structure Saver where
  user : String
  /-- What was there at first or was saved since. -/
  saved : Times
  /-- The newest times it was told of. -/
  latest : Times
  /-- Whether it has not looked at them yet. -/
  unseen : Bool := false
  /-- Whether there will be no more news. -/
  givenUp : Bool := false
  wait : Wait := .news
  deriving Repr

/-- One attempt to save. -/
structure Attempt where
  user : String
  rows : Times
  succeeded : Bool
  deriving Repr

namespace Saver

/-- A saver for a user whose stored times are `initial`. -/
def start (user : String) (initial : Times) : Saver :=
  { user, saved := initial, latest := initial }

/-- Tells the saver of a forward move. -/
def tell (s : Saver) (times : Times) : Saver :=
  { s with latest := times, unseen := true }

/-- Tells the saver that no more news will come. -/
def giveUp (s : Saver) : Saver :=
  { s with givenUp := true }

/-- What an attempt would save now. -/
def pending (s : Saver) : Times :=
  s.latest.changedSince s.saved

/-- Looks at the newest times and begins an attempt to save what is pending, a final one if it is
told how many are left. With nothing pending there is no attempt, and the saver is content. -/
def attempt (s : Saver) (left : Option Nat) : Saver :=
  let content := if left.isSome then Wait.over else Wait.news
  { s with
    unseen := false
    wait := if s.pending.isEmpty then content else .storing s.pending left }

/-- What the saver does at time `now` when something wakes it, if that is there. -/
def wake (s : Saver) (now : Nat) (cause : Cause) : Option Saver :=
  match cause, s.wait with
  | .news, .news | .news, .retry _ => if s.unseen then some (s.attempt none) else none
  | .close, .news | .close, .retry _ =>
    if s.givenUp ∧ s.unseen = false then some { s with wait := .final finalAttempts now } else none
  | .time, .retry due => if due ≤ now then some (s.attempt none) else none
  | .time, .final left due => if due ≤ now then some (s.attempt (some left)) else none
  | _, _ => none

/-- What the saver waits for after an attempt that ended at time `now`. -/
def after (now : Nat) (left : Option Nat) (works : Bool) : Wait :=
  match left with
  | none => if works then .news else .retry (now + retryDelay)
  | some left => if works || left ≤ 1 then .over else .final (left - 1) (now + retryDelay)

/-- The end of an attempt at time `now`; `works` says how it fared. -/
def conclude (s : Saver) (now : Nat) (works : Bool) : Saver × Option Attempt :=
  match s.wait with
  | .storing rows left =>
    let saved := if works then s.saved.putAll rows else s.saved
    ({ s with saved, wait := after now left works }, some ⟨s.user, rows, works⟩)
  | _ => (s, none)

/-- The causes in the order in which the saver looks for them. -/
def causes : List Cause :=
  [.news, .close, .time]

/-- Whether the saver can act at time `now`. -/
def isDue (s : Saver) (now : Nat) : Bool :=
  causes.any fun cause => (s.wake now cause).isSome

/-- One act at time `now`: the first cause that is there wakes the saver, and an attempt ends as
soon as it has begun. -/
def act (s : Saver) (now : Nat) (works : Bool) : Saver × Option Attempt :=
  match causes.findSome? (s.wake now) with
  | some s => s.conclude now works
  | none => (s, none)

/-- Lets the saver act at time `now` until it waits, while the next `failures` attempts fail.
Between two waits it acts three times at most: on news, on being given up, on a final attempt. -/
def settle (s : Saver) (now failures : Nat) : Saver × Nat × List Attempt :=
  go 4 s failures
where
  /-- Acts at most `fuel` times. -/
  go (fuel : Nat) (s : Saver) (failures : Nat) : Saver × Nat × List Attempt :=
    match fuel with
    | 0 => (s, failures, [])
    | fuel + 1 =>
      if s.isDue now then
        let (next, made) := s.act now (failures == 0)
        let failures := if made.isSome then failures - 1 else failures
        let (last, failures, attempts) := go fuel next failures
        (last, failures, made.toList ++ attempts)
      else (s, failures, [])

/-- The time at which the saver will act of itself. -/
def due? (s : Saver) : Option Nat :=
  match s.wait with
  | .retry due => some due
  | .final _ due => some due
  | _ => none

/-- Lets time pass from `now` to `later`, the saver acting whenever it is due. Two acts of itself
lie a whole delay apart, which bounds their number. -/
def advance (s : Saver) (now later failures : Nat) : Saver × Nat × List Attempt :=
  go ((later - now) / retryDelay + 2) s failures
where
  /-- Acts at most `fuel` times in between. -/
  go (fuel : Nat) (s : Saver) (failures : Nat) : Saver × Nat × List Attempt :=
    match fuel with
    | 0 => (s, failures, [])
    | fuel + 1 =>
      match s.due? with
      | some due =>
        if due ≤ later then
          let (s, failures, attempts) := s.settle due failures
          let (s, failures, more) := go fuel s failures
          (s, failures, attempts ++ more)
        else (s, failures, [])
      | none => (s, failures, [])

end Saver

end IrcGateway.Activity
