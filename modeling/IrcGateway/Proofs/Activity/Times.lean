import IrcGateway.Activity.Latest
import Mathlib.Data.List.Nodup

/-!
# Tables of latest times

Times are read through `get?`, and in a table that has each chat once (`Times.Distinct`) the rows
are exactly what is read (`mem_iff_get?`). One equation for each operation follows: several rows are
put at once (`get?_putAll`), and what one table has changed since another is read off both
(`mem_changedSince_iff`).

A table is ahead of another (`Times.Behind`) if it has a time at least as late for every chat of the
other. Recording a time only takes a table ahead (`behind_observe`): what is known of the chat is
the latest of what was known and the time (`get?_observe`).
-/

namespace IrcGateway.Activity.Times

/-- Each chat has one row. -/
def Distinct (times : Times) : Prop :=
  (times.map Prod.fst).Nodup

theorem get?_cons (row : String × Int) (times : Times) (chat : String) :
    get? (row :: times) chat = if chat = row.1 then some row.2 else get? times chat := by
  unfold get?
  rw [List.lookup_cons]
  by_cases h : chat = row.1
  · simp [h]
  · simp [h, beq_eq_false_iff_ne.mpr h]

/-- The chats of a table are those it has a time for. -/
theorem mem_chats_iff {times : Times} {chat : String} :
    chat ∈ times.map Prod.fst ↔ (times.get? chat).isSome = true := by
  induction times with
  | nil => simp [get?]
  | cons row rest ih =>
    rw [List.map_cons, List.mem_cons, get?_cons, ih]
    by_cases h : chat = row.1 <;> simp [h]

theorem get?_eq_none_of_notMem {times : Times} {chat : String} (h : chat ∉ times.map Prod.fst) :
    times.get? chat = none := by
  rwa [mem_chats_iff, Option.not_isSome_iff_eq_none] at h

theorem mem_iff_get? {times : Times} (h : times.Distinct) {chat : String} {time : Int} :
    (chat, time) ∈ times ↔ times.get? chat = some time := by
  induction times with
  | nil => simp [get?]
  | cons row rest ih =>
    obtain ⟨first, t⟩ := row
    obtain ⟨hfirst, hrest⟩ := List.nodup_cons.mp h
    rw [List.mem_cons, get?_cons, ih hrest, Prod.mk.injEq]
    rcases eq_or_ne chat first with rfl | hne
    · -- no further row is about the chat of the first
      rw [get?_eq_none_of_notMem hfirst]
      simp [eq_comm]
    · simp [hne]

/-! ### The latest of several times -/

theorem max?_toList (time? : Option Int) : time?.toList.max? = time? := by
  cases time? <;> rfl

/-- The latest of several times may be taken in two goes. -/
theorem max?_toList_max?_append (first rest : List Int) :
    (first.max?.toList ++ rest).max? = (first ++ rest).max? := by
  cases first with
  | nil => rfl
  | cons time more =>
    simp only [List.max?_cons', Option.toList_some, List.cons_append, List.nil_append,
      List.foldl_append]

/-- Neither the order of the times nor their repetition counts for the latest of them. -/
theorem max?_eq_of_mem_iff {first second : List Int} (h : ∀ time, time ∈ first ↔ time ∈ second) :
    first.max? = second.max? := by
  refine Option.ext fun latest => ?_
  rw [List.max?_eq_some_iff, List.max?_eq_some_iff, h]
  simp only [h]

/-! ### Operations -/

theorem chats_put (times : Times) (chat : String) (time : Int) :
    (times.put chat time).map Prod.fst
      = if chat ∈ times.map Prod.fst then times.map Prod.fst
        else times.map Prod.fst ++ [chat] := by
  induction times with
  | nil => rfl
  | cons row rest ih =>
    obtain ⟨c, t⟩ := row
    unfold put
    by_cases h : c = chat
    · simp [h]
    · have hne : chat ≠ c := Ne.symm h
      rw [if_neg h, List.map_cons, ih]
      by_cases hmem : chat ∈ rest.map Prod.fst <;> simp [hmem, hne]

theorem Distinct.put {times : Times} (h : times.Distinct) (chat : String) (time : Int) :
    (times.put chat time).Distinct := by
  unfold Distinct
  rw [chats_put]
  split
  · exact h
  · next hmem => exact List.Nodup.append h (List.nodup_singleton _) (by simpa using hmem)

theorem Distinct.changedSince {times : Times} (h : times.Distinct) (saved : Times) :
    (times.changedSince saved).Distinct :=
  List.Nodup.sublist (List.filter_sublist.map _) h

theorem Distinct.observe {times : Times} (h : times.Distinct) (chat : String) (time : Int) :
    (times.observe chat time).1.Distinct := by
  unfold Times.observe
  split
  · split
    · exact h
    · exact h.put chat time
  · exact h.put chat time

/-- Of several rows that are put those count that there are. -/
theorem get?_putAll {rows : Times} (h : rows.Distinct) (times : Times) (chat : String) :
    (times.putAll rows).get? chat = (rows.get? chat).or (times.get? chat) := by
  induction rows generalizing times with
  | nil => rfl
  | cons row rest ih =>
    obtain ⟨first, t⟩ := row
    obtain ⟨hfirst, hrest⟩ := List.nodup_cons.mp h
    have hput : times.putAll ((first, t) :: rest) = (times.put first t).putAll rest := rfl
    rw [hput, ih hrest, get?_put, get?_cons]
    rcases eq_or_ne chat first with rfl | hne
    · rw [get?_eq_none_of_notMem hfirst]
      simp
    · simp [hne]

theorem mem_changedSince_iff {times : Times} (h : times.Distinct) {saved : Times} {chat : String}
    {time : Int} :
    (chat, time) ∈ times.changedSince saved ↔
      times.get? chat = some time ∧ saved.get? chat ≠ some time := by
  unfold Times.changedSince
  rw [List.mem_filter, mem_iff_get? h]
  simp

theorem get?_changedSince_eq_some_iff {times : Times} (h : times.Distinct) {saved : Times}
    {chat : String} {time : Int} :
    (times.changedSince saved).get? chat = some time ↔
      times.get? chat = some time ∧ saved.get? chat ≠ some time := by
  rw [← mem_iff_get? (h.changedSince saved), mem_changedSince_iff h]

/-! ### Tables that are ahead -/

/-- The other table has a time at least as late for every chat of this one. -/
def Behind (times ahead : Times) : Prop :=
  ∀ chat time, times.get? chat = some time →
    ∃ later, ahead.get? chat = some later ∧ time ≤ later

theorem Behind.refl (times : Times) : times.Behind times :=
  fun _ time h => ⟨time, h, Int.le_refl time⟩

theorem Behind.trans {first second third : Times} (h : first.Behind second)
    (h' : second.Behind third) : first.Behind third := by
  intro chat time htime
  obtain ⟨later, hlater, hle⟩ := h chat time htime
  obtain ⟨last, hlast, hle'⟩ := h' chat later hlater
  exact ⟨last, hlast, Int.le_trans hle hle'⟩

/-- Rows that are behind a table can be put into one that is behind it. -/
theorem Behind.putAll {times ahead rows : Times} (h : times.Behind ahead)
    (hd : rows.Distinct) (hr : rows.Behind ahead) : (times.putAll rows).Behind ahead := by
  intro chat time htime
  rw [get?_putAll hd, Option.or_eq_some_iff] at htime
  rcases htime with hrow | ⟨-, hold⟩
  · exact hr chat time hrow
  · exact h chat time hold

theorem behind_changedSince {times : Times} (h : times.Distinct) (saved : Times) :
    (times.changedSince saved).Behind times := by
  intro chat time htime
  exact ⟨time, ((get?_changedSince_eq_some_iff h).mp htime).1, Int.le_refl time⟩

/-- A time that is not later leaves the table as it is. -/
theorem observe_of_not_moved {times : Times} {chat : String} {time : Int}
    (h : (times.observe chat time).2 = false) : (times.observe chat time).1 = times := by
  unfold Times.observe at h ⊢
  split at h
  · split at h
    · next hle => rw [if_pos hle]
    · simp at h
  · simp at h

/-- The time is later than the one known of the chat, if there is one. -/
def Later (times : Times) (chat : String) (time : Int) : Prop :=
  ∀ last, times.get? chat = some last → last < time

theorem observe_of_later {times : Times} {chat : String} {time : Int}
    (h : times.Later chat time) : times.observe chat time = (times.put chat time, true) := by
  unfold Times.observe
  split
  · next last hlast => rw [if_neg (Int.not_le.mpr (h last hlast))]
  · rfl

theorem observe_of_not_later {times : Times} {chat : String} {time : Int}
    (h : ¬ times.Later chat time) : times.observe chat time = (times, false) := by
  simp only [Later, not_forall] at h
  obtain ⟨last, hlast, hle⟩ := h
  unfold Times.observe
  rw [hlast]
  exact if_pos (Int.not_lt.mp hle)

/-- What is known of a chat after a time was recorded: the latest of what was known and the time. -/
theorem get?_observe (times : Times) (chat other : String) (time : Int) :
    (times.observe chat time).1.get? other =
      if other = chat then ((times.get? chat).toList ++ [time]).max? else times.get? other := by
  by_cases hlater : times.Later chat time
  · rw [observe_of_later hlater, get?_put]
    congr 1
    cases hlast : times.get? chat with
    | none => rfl
    | some last => exact congrArg some (Int.max_eq_right (Int.le_of_lt (hlater last hlast))).symm
  · rw [observe_of_not_later hlater]
    split
    · next heq =>
      subst heq
      -- the time is at most the one known, which therefore exists
      simp only [Later, not_forall] at hlater
      obtain ⟨last, hlast, hle⟩ := hlater
      rw [hlast]
      exact congrArg some (Int.max_eq_left (Int.not_lt.mp hle)).symm
    · rfl

theorem behind_observe (times : Times) (chat : String) (time : Int) :
    times.Behind (times.observe chat time).1 := by
  intro other last hlast
  unfold Times.observe
  split
  · next known hknown =>
    split
    · -- an older time is ignored
      exact ⟨last, hlast, Int.le_refl last⟩
    · next hnew =>
      rw [get?_put]
      by_cases hc : other = chat
      · subst hc
        obtain rfl : known = last := Option.some.inj (hknown.symm.trans hlast)
        exact ⟨time, if_pos rfl, by omega⟩
      · exact ⟨last, (if_neg hc).trans hlast, Int.le_refl last⟩
  · next hnone =>
    rw [get?_put]
    -- a chat without a time is not the one that has one
    have hc : other ≠ chat := by
      rintro rfl
      simp [hnone] at hlast
    exact ⟨last, (if_neg hc).trans hlast, Int.le_refl last⟩

/-- A table that is behind another, and from which the other has no change, is read alike. -/
theorem get?_eq_of_changedSince_eq_nil {times saved : Times} (hd : times.Distinct)
    (hb : saved.Behind times) (h : times.changedSince saved = []) (chat : String) :
    saved.get? chat = times.get? chat := by
  cases htime : times.get? chat with
  | some time =>
    by_contra hne
    have hmem := (mem_changedSince_iff hd).mpr ⟨htime, hne⟩
    simp [h] at hmem
  | none =>
    cases hsaved : saved.get? chat with
    | none => rfl
    | some time =>
      obtain ⟨later, hlater, -⟩ := hb chat time hsaved
      simp [htime] at hlater

end IrcGateway.Activity.Times
