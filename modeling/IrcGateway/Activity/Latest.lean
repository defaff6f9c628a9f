/-!
# The latest time of each chat

The time stamp of the newest event of every chat, by the text of the chat's identifier. Times only
move forward.

* `get?_put`: putting a time changes that of its chat alone.
-/

namespace IrcGateway.Activity

/-- Times in Unix seconds by chat, each chat once. -/
abbrev Times := List (String × Int)

namespace Times

/-- The time of a chat. -/
def get? (times : Times) (chat : String) : Option Int :=
  times.lookup chat

/-- Sets the time of a chat. -/
def put : Times → String → Int → Times
  | [], chat, time => [(chat, time)]
  | (c, t) :: rest, chat, time =>
    if c = chat then (chat, time) :: rest else (c, t) :: put rest chat time

theorem get?_put (times : Times) (chat other : String) (time : Int) :
    get? (put times chat time) other = if other = chat then some time else get? times other := by
  simp only [get?]
  induction times with
  | nil =>
    by_cases h : other = chat
    · simp [put, h]
    · simp [put, List.lookup_cons, h, beq_eq_false_iff_ne.mpr h]
  | cons entry rest ih =>
    obtain ⟨c, t⟩ := entry
    -- the first entry is the one that is replaced, or it stays and may be the one that is asked for
    by_cases hc : c = chat
    · by_cases h : other = chat
      · simp [put, hc, h]
      · simp [put, hc, List.lookup_cons, h, beq_eq_false_iff_ne.mpr h]
    · by_cases ho : other = c
      · simp [put, hc, ho]
      · simp [put, hc, List.lookup_cons, beq_eq_false_iff_ne.mpr ho, ih]

/-- Sets the times of several chats in order. -/
def putAll (times : Times) (rows : Times) : Times :=
  rows.foldl (fun acc row => put acc row.1 row.2) times

/-- The entries that `saved` does not hold. -/
def changedSince (times saved : Times) : Times :=
  times.filter (fun row => saved.get? row.1 != some row.2)

/-- Records a time if it is later than the one known, and says whether it was. -/
def observe (times : Times) (chat : String) (time : Int) : Times × Bool :=
  match times.get? chat with
  | some last => if time ≤ last then (times, false) else (times.put chat time, true)
  | none => (times.put chat time, true)

end Times

end IrcGateway.Activity
