import IrcGateway.Activity.Archive
import IrcGateway.Proofs.Activity.Run

/-!
# The archive holds the latest of all that was saved

Several connections may save times of one user, each what it knows and whenever it gets to it. What
the archive holds must not depend on who comes first or how often: it is the latest time saved for
each chat of a user.

A request is met in two steps. What it does to the archive is read off the saves that were completed
(`Archive.Ready.run`), because loading, closing and opening again leave the rows alone. That opening
does so rests on the migrations: once tables are up to date they stay as they are
(`migrate_eq_self`). And what saves do to the rows is one equation for the look-up of a chat
(`lookup_foldl_raiseAll`), in which the times saved occur under a maximum, so that neither order nor
repetition counts.
-/

namespace IrcGateway.Activity

/-! ### Opening again -/

namespace Tables

/-- The tables have every migration. -/
structure UpToDate (t : Tables) : Prop where
  recorded : t.versions.isSome = true
  current : ∀ m ∈ migrations, m.version ≤ t.version

theorem foldl_apply_of_le {had : Nat} {ms : List Migration} (h : ∀ m ∈ ms, m.version ≤ had)
    (t : Tables) : ms.foldl (apply had) t = t := by
  induction ms with
  | nil => rfl
  | cons m rest ih =>
    have hfirst : apply had t m = t := if_pos (h m List.mem_cons_self)
    rw [List.foldl_cons, hfirst]
    exact ih fun m hm => h m (List.mem_cons_of_mem _ hm)

/-- Tables that are up to date stay as they are. -/
theorem UpToDate.migrate_eq_self {t : Tables} (h : t.UpToDate) : t.migrate = t := by
  obtain ⟨versions, hv⟩ := Option.isSome_iff_exists.mp h.recorded
  have hsame : { t with versions := some (t.versions.getD []) } = t := by
    rw [hv, Option.getD_some, ← hv]
  rw [migrate, hsame]
  exact foldl_apply_of_le h.current t

/-- Migrations add their versions, unless these were there at first, and take none away. -/
theorem mem_versions_foldl_apply (had : Nat) (ms : List Migration) (t : Tables) :
    (∀ v ∈ t.versions.getD [], v ∈ (ms.foldl (apply had) t).versions.getD []) ∧
      ∀ m ∈ ms, m.version ≤ had ∨ m.version ∈ (ms.foldl (apply had) t).versions.getD [] := by
  induction ms generalizing t with
  | nil => simp
  | cons m rest ih =>
    obtain ⟨hkept, hadded⟩ := ih (apply had t m)
    rw [List.foldl_cons]
    by_cases hm : m.version ≤ had
    · -- a migration that was applied before is passed over
      have hfirst : apply had t m = t := if_pos hm
      rw [hfirst] at hkept hadded ⊢
      refine ⟨hkept, fun m' hm' => ?_⟩
      rcases List.mem_cons.mp hm' with rfl | hrest
      · exact .inl hm
      · exact hadded m' hrest
    · have hfirst : (apply had t m).versions.getD [] = t.versions.getD [] ++ [m.version] := by
        rw [apply, if_neg hm]
        rfl
      rw [hfirst] at hkept
      refine ⟨fun v hv => hkept v (List.mem_append_left _ hv), fun m' hm' => ?_⟩
      rcases List.mem_cons.mp hm' with rfl | hrest
      · exact .inr (hkept _ (List.mem_append_right _ (List.mem_singleton_self _)))
      · exact hadded m' hrest

theorem isSome_versions_foldl_apply {had : Nat} {ms : List Migration} {t : Tables}
    (h : t.versions.isSome = true) : (ms.foldl (apply had) t).versions.isSome = true := by
  induction ms generalizing t with
  | nil => exact h
  | cons m rest ih =>
    refine ih ?_
    unfold apply
    split
    · exact h
    · rfl

/-- **Migrating brings tables up to date**, whatever they were. -/
theorem upToDate_migrate (t : Tables) : t.migrate.UpToDate where
  recorded := isSome_versions_foldl_apply rfl
  current := by
    obtain ⟨hkept, hadded⟩ := mem_versions_foldl_apply t.version migrations
      { t with versions := some (t.versions.getD []) }
    -- what was there at first is there still, so that the version has not gone back
    have hle : t.version ≤ t.migrate.version := by
      unfold version
      cases hmax : (t.versions.getD []).max? with
      | none => exact Nat.zero_le _
      | some latest =>
        have hmem : latest ∈ t.versions.getD [] := List.max?_mem hmax
        exact List.le_max?_getD_of_mem (hkept latest hmem)
    intro m hm
    rcases hadded m hm with hhad | hnew
    · exact Nat.le_trans hhad hle
    · exact List.le_max?_getD_of_mem hnew

end Tables

/-! ### Rows -/

namespace Rows

theorem lookup_raise (key other : String × String) (time : Int) (rows : Rows) :
    (raise key time rows).lookup other =
      if other = key then ((rows.lookup key).toList ++ [time]).max? else rows.lookup other := by
  induction rows with
  | nil =>
    by_cases h : other = key
    · simp [raise, h]
    · simp [raise, List.lookup_cons, h, beq_eq_false_iff_ne.mpr h]
  | cons row rest ih =>
    obtain ⟨k, t⟩ := row
    by_cases hk : k = key
    · subst hk
      by_cases h : other = k
      · simp [raise, h]
      · simp [raise, List.lookup_cons, h, beq_eq_false_iff_ne.mpr h]
    · -- the row is of another key, and is read before the rest as it was
      have hkey : (key == k) = false := beq_eq_false_iff_ne.mpr (Ne.symm hk)
      rw [raise, if_neg hk, List.lookup_cons, List.lookup_cons, List.lookup_cons, hkey]
      by_cases h : other = k
      · simp [h, hk]
      · rw [beq_eq_false_iff_ne.mpr h]
        exact ih

theorem keys_raise (key : String × String) (time : Int) (rows : Rows) :
    (raise key time rows).map Prod.fst =
      if key ∈ rows.map Prod.fst then rows.map Prod.fst else rows.map Prod.fst ++ [key] := by
  induction rows with
  | nil => rfl
  | cons row rest ih =>
    obtain ⟨k, t⟩ := row
    by_cases hk : k = key
    · simp [raise, hk]
    · have hkey : key ≠ k := Ne.symm hk
      rw [raise, if_neg hk, List.map_cons, ih]
      by_cases hmem : key ∈ rest.map Prod.fst <;> simp [hmem, hkey]

/-- Each chat of a user has one row. -/
def Distinct (rows : Rows) : Prop :=
  (rows.map Prod.fst).Nodup

theorem Distinct.raise {rows : Rows} (h : rows.Distinct) (key : String × String) (time : Int) :
    Distinct (rows.raise key time) := by
  unfold Distinct
  rw [keys_raise]
  split
  · exact h
  · next hmem => exact List.Nodup.append h (List.nodup_singleton _) (by simpa using hmem)

theorem Distinct.raiseAll {rows : Rows} (h : rows.Distinct) (user : String) (times : Times) :
    (rows.raiseAll user times).Distinct := by
  induction times generalizing rows with
  | nil => exact h
  | cons row rest ih => exact ih (h.raise _ _)

/-- Loading the times of a user reads the rows of the user. -/
theorem get?_ofUser (rows : Rows) (user chat : String) :
    (rows.ofUser user).get? chat = rows.lookup (user, chat) := by
  induction rows with
  | nil => rfl
  | cons row rest ih =>
    obtain ⟨⟨u, c⟩, t⟩ := row
    by_cases hu : u = user
    · -- a row of the user is found by the chat alone
      subst hu
      have hfirst : ofUser (((u, c), t) :: rest) u = (c, t) :: ofUser rest u := by
        simp [ofUser]
      rw [hfirst, Times.get?_cons, ih, List.lookup_cons]
      by_cases hc : chat = c
      · simp [hc]
      · have hne : ((u, chat) == (u, c)) = false := by simp [hc]
        rw [if_neg hc, hne]
    · have hfirst : ofUser (((u, c), t) :: rest) user = ofUser rest user := by
        simp [ofUser, hu]
      have hne : ((user, chat) == (u, c)) = false := by simp [Ne.symm hu]
      rw [hfirst, ih, List.lookup_cons, hne]

theorem Distinct.ofUser {rows : Rows} (h : rows.Distinct) (user : String) :
    (rows.ofUser user).Distinct := by
  unfold Times.Distinct Rows.ofUser
  rw [List.map_map]
  -- the chats of one user are the keys less the user
  have hkeys : ((rows.filter fun row => row.1.1 == user).map Prod.fst).Nodup :=
    List.Nodup.sublist (List.filter_sublist.map _) h
  refine List.Nodup.of_map (fun chat => (user, chat)) ?_
  convert hkeys using 1
  rw [List.map_map]
  refine List.map_congr_left fun row hrow => ?_
  have huser : row.1.1 = user := by simpa using (List.mem_filter.mp hrow).2
  rw [← huser]
  rfl

end Rows

/-! ### Saves -/

/-- The times that rows have for a chat. -/
def Times.ofChat (times : Times) (chat : String) : List Int :=
  (times.filter (fun row => row.1 == chat)).map Prod.snd

/-- The times saved for a chat of a user. -/
def savedFor (user chat : String) (saves : List (String × Times)) : List Int :=
  saves.flatMap fun save => if save.1 = user then save.2.ofChat chat else []

theorem mem_savedFor_iff {user chat : String} {saves : List (String × Times)} {time : Int} :
    time ∈ savedFor user chat saves ↔
      ∃ times, (user, times) ∈ saves ∧ (chat, time) ∈ times := by
  unfold savedFor Times.ofChat
  constructor
  · intro h
    obtain ⟨⟨u, times⟩, hsave, htime⟩ := List.mem_flatMap.mp h
    by_cases hu : u = user
    · subst hu
      simp only [if_true] at htime
      obtain ⟨⟨c, t⟩, hrow, rfl⟩ := List.mem_map.mp htime
      obtain ⟨hmem, hc⟩ := List.mem_filter.mp hrow
      obtain rfl : c = chat := by simpa using hc
      exact ⟨times, hsave, hmem⟩
    · simp [hu] at htime
  · rintro ⟨times, hsave, hrow⟩
    refine List.mem_flatMap.mpr ⟨_, hsave, ?_⟩
    simpa using hrow

theorem Rows.lookup_raiseAll (rows : Rows) (user : String) (times : Times) (other chat : String) :
    (rows.raiseAll user times).lookup (other, chat) =
      ((rows.lookup (other, chat)).toList ++
        if user = other then times.ofChat chat else []).max? := by
  induction times generalizing rows with
  | nil =>
    have hnil : (if user = other then Times.ofChat [] chat else []) = [] := by
      unfold Times.ofChat
      simp
    rw [hnil, List.append_nil, Times.max?_toList]
    rfl
  | cons row rest ih =>
    obtain ⟨c, t⟩ := row
    have hstep : rows.raiseAll user ((c, t) :: rest)
        = Rows.raiseAll (rows.raise (user, c) t) user rest := rfl
    rw [hstep, ih, lookup_raise]
    by_cases hu : user = other
    · subst hu
      by_cases hc : chat = c
      · -- the row is of the chat: its time joins those that are stored later
        subst hc
        have hcons : Times.ofChat ((chat, t) :: rest) chat = t :: Times.ofChat rest chat := by
          simp [Times.ofChat]
        rw [if_pos rfl, if_pos rfl, if_pos rfl, Times.max?_toList_max?_append, hcons,
          List.append_assoc, List.singleton_append]
      · -- a row of another chat, or below of another user, is passed over
        have hcons : Times.ofChat ((c, t) :: rest) chat = Times.ofChat rest chat := by
          simp [Times.ofChat, Ne.symm hc]
        have hkey : (user, chat) ≠ (user, c) := by simp [hc]
        rw [if_neg hkey, if_pos rfl, if_pos rfl, hcons]
    · have hkey : (other, chat) ≠ (user, c) := by simp [Ne.symm hu]
      rw [if_neg hkey, if_neg hu, if_neg hu]

/-- **What saves make of the rows.** The time of a chat is the latest of the one that was stored and
all that were saved for the user. -/
theorem Rows.lookup_foldl_raiseAll (rows : Rows) (saves : List (String × Times))
    (user chat : String) :
    (saves.foldl (fun rows save => rows.raiseAll save.1 save.2) rows).lookup (user, chat) =
      ((rows.lookup (user, chat)).toList ++ savedFor user chat saves).max? := by
  induction saves generalizing rows with
  | nil =>
    rw [savedFor, List.flatMap_nil, List.append_nil, Times.max?_toList]
    rfl
  | cons save rest ih =>
    rw [List.foldl_cons, ih, lookup_raiseAll, Times.max?_toList_max?_append, List.append_assoc]
    rfl

/-! ### Requests -/

/-- What can be asked of an archive. -/
inductive Request where
  | save (user : String) (times : Times)
  | load (user : String)
  | close
  | reopen
  deriving DecidableEq, Repr

/-- The archive after a request. A save that is refused leaves it as it is. -/
def Request.apply (a : Archive) : Request → Archive
  | save user times => (a.save user times).getD a
  | load _ => a
  | close => a.close
  | reopen => a.reopen

/-- The save that a request completes. -/
def Request.completed (a : Archive) : Request → List (String × Times)
  | save user times => if (a.save user times).isSome then [(user, times)] else []
  | _ => []

namespace Archive

/-- The archive after some requests. -/
def run (a : Archive) (requests : List Request) : Archive :=
  requests.foldl Request.apply a

/-- The saves that are completed along some requests, in order. -/
def completed (a : Archive) : List Request → List (String × Times)
  | [] => []
  | request :: rest => request.completed a ++ completed (request.apply a) rest

/-- What an archive stores. -/
def rows (a : Archive) : Rows :=
  a.tables.times.getD []

/-- The archive can be asked: its tables are up to date, one of them is for the times, and each chat
of a user has one row there. -/
structure Ready (a : Archive) : Prop where
  upToDate : a.tables.UpToDate
  times : a.tables.times = some a.rows
  distinct : a.rows.Distinct

theorem ready_new : Ready {} where
  upToDate := Tables.upToDate_migrate {}
  times := rfl
  distinct := List.nodup_nil

variable {a : Archive}

theorem Ready.save (h : a.Ready) (user : String) (times : Times) :
    a.save user times =
      if a.isOpen then
        some { a with tables := { a.tables with times := some (a.rows.raiseAll user times) } }
      else none := by
  unfold Archive.save
  rw [h.times]
  cases a.isOpen <;> rfl

theorem Ready.load (h : a.Ready) (user : String) :
    a.load user = if a.isOpen then some (a.rows.ofUser user) else none := by
  unfold Archive.load
  rw [h.times]
  cases a.isOpen <;> rfl

/-- Opening again changes nothing that is stored. -/
theorem Ready.tables_reopen (h : a.Ready) : a.reopen.tables = a.tables :=
  h.upToDate.migrate_eq_self

theorem Ready.rows_reopen (h : a.Ready) : a.reopen.rows = a.rows :=
  congrArg (fun t => t.times.getD []) h.tables_reopen

/-- A request keeps the archive ready, and a completed save is all that changes its rows. -/
theorem Ready.apply (h : a.Ready) (request : Request) :
    (request.apply a).Ready ∧
      (request.apply a).rows =
        (request.completed a).foldl (fun rows save => rows.raiseAll save.1 save.2) a.rows := by
  cases request with
  | save user times =>
    -- only an open archive saves anything
    rw [Request.apply, Request.completed, h.save]
    cases a.isOpen with
    | false => exact ⟨h, rfl⟩
    | true =>
      have hupToDate : Tables.UpToDate
          { a.tables with times := some (a.rows.raiseAll user times) } :=
        ⟨h.upToDate.recorded, h.upToDate.current⟩
      exact ⟨⟨hupToDate, rfl, h.distinct.raiseAll user times⟩, rfl⟩
  | load user => exact ⟨h, rfl⟩
  | close => exact ⟨⟨h.upToDate, h.times, h.distinct⟩, rfl⟩
  | reopen =>
    -- the migrations find nothing to do
    refine ⟨⟨h.tables_reopen ▸ h.upToDate, ?_, h.rows_reopen ▸ h.distinct⟩, h.rows_reopen⟩
    change a.reopen.tables.times = some a.reopen.rows
    rw [h.rows_reopen, h.tables_reopen, h.times]

theorem Ready.run (h : a.Ready) (requests : List Request) :
    (a.run requests).Ready ∧
      (a.run requests).rows =
        (a.completed requests).foldl (fun rows save => rows.raiseAll save.1 save.2) a.rows := by
  induction requests generalizing a with
  | nil => exact ⟨h, rfl⟩
  | cons request rest ih =>
    obtain ⟨hready, hrows⟩ := h.apply request
    obtain ⟨hready', hrows'⟩ := ih hready
    refine ⟨hready', ?_⟩
    rw [completed, List.foldl_append, ← hrows]
    exact hrows'

/-- What a user is told of a chat: the latest time that was saved for it. -/
theorem get?_ofUser_run (requests : List Request) (user chat : String) :
    ((run {} requests).rows.ofUser user).get? chat =
      (savedFor user chat (completed {} requests)).max? := by
  have hrows := (ready_new.run requests).2
  rw [Rows.get?_ofUser, hrows, Rows.lookup_foldl_raiseAll]
  rfl

end Archive

/-! ### A tracker that starts from the archive -/

/-- Times only move forward along a run. -/
theorem Course.behind_run (c : Course) (moves : List Move) :
    c.times.Behind (c.run moves).times := by
  induction moves generalizing c with
  | nil => exact Times.Behind.refl _
  | cons move rest ih =>
    refine Times.Behind.trans ?_ (ih (move.apply c))
    -- of all moves only a time that is observed touches the times
    cases move with
    | observe chat time =>
      rcases Move.observe_cases c chat time with hsame | ⟨-, hmoved⟩
      · rw [hsame]
        exact Times.Behind.refl _
      · rw [hmoved]
        exact Times.behind_observe _ _ _
    | close => exact Times.Behind.refl _
    | wake cause => exact Times.Behind.refl _
    | conclude works =>
      simp only [Move.apply]
      split <;> exact Times.Behind.refl _
    | pass span => exact Times.Behind.refl _

/-- A time that is not later than one of the seed never counts as news. -/
theorem Course.not_moved_of_seed {seed : Times} {chat : String} {last time : Int}
    (hlast : seed.get? chat = some last) (hle : time ≤ last) (user : String) (moves : List Move) :
    (((Course.start user seed).run moves).tracker.observe chat time).2 = false := by
  obtain ⟨later, hlater, hle'⟩ := Course.behind_run (Course.start user seed) moves chat last hlast
  have hnot : ¬ ((Course.start user seed).run moves).times.Later chat time := by
    intro h
    have hlt : later < time := h later hlater
    omega
  have hsame := Times.observe_of_not_later hnot
  exact congrArg Prod.snd hsame

/-! ### The result -/

/-- **The archive is a maximum.** Ask anything of a new archive, in any order, for any users.

* Opening it once more, with its migrations, changes nothing that it stores.
* While it is open, and after it was opened again, a user is told each chat for which a save was
  completed, once, with the latest time that was saved for it, and no other chat. A closed archive
  tells nothing.
* What a user is told goes by which saves were completed for that user. Their order, their
  repetition, and what was saved for others does not count.
* A tracker that starts from what a user is told never takes a time for news that a completed save
  covers, whatever happens to the tracker and its saver in between. -/
theorem archive_is_maximum (requests : List Request) :
    let a := Archive.run {} requests
    let saves := Archive.completed {} requests
    a.reopen.tables = a.tables ∧
    (∀ user, ∃ times : Times, times.Distinct ∧
      (∀ chat, times.get? chat = (savedFor user chat saves).max?) ∧
      a.load user = (if a.isOpen then some times else none) ∧
      a.reopen.load user = some times) ∧
    (∀ requests' user times times',
      (∀ rows, (user, rows) ∈ saves ↔ (user, rows) ∈ Archive.completed {} requests') →
      a.load user = some times → (Archive.run {} requests').load user = some times' →
      times.Perm times') ∧
    ∀ user rows times, (user, rows) ∈ saves → a.load user = some times →
      ∀ moves, ∀ chat time earlier, (chat, time) ∈ rows → earlier ≤ time →
        (((Course.start user times).run moves).tracker.observe chat earlier).2 = false := by
  intro a saves
  have hready : a.Ready := (Archive.ready_new.run requests).1
  -- what a user is told is the same list in every clause
  have htold : ∀ {requests user times}, (Archive.run {} requests).load user = some times →
      times = (Archive.run {} requests).rows.ofUser user := by
    intro requests user times hload
    rw [(Archive.ready_new.run requests).1.load] at hload
    split at hload
    · exact (Option.some.inj hload).symm
    · simp at hload
  refine ⟨hready.tables_reopen, ?_, ?_, ?_⟩
  · intro user
    refine ⟨a.rows.ofUser user, hready.distinct.ofUser user,
      Archive.get?_ofUser_run requests user, hready.load user, ?_⟩
    have hready' : a.reopen.Ready := (hready.apply .reopen).1
    rw [hready'.load, hready.rows_reopen]
    rfl
  · intro requests' user times times' hsaves hload hload'
    obtain rfl := htold hload
    obtain rfl := htold hload'
    have hd := hready.distinct.ofUser user
    have hd' := (Archive.ready_new.run requests').1.distinct.ofUser user
    refine (List.perm_ext_iff_of_nodup (List.Nodup.of_map _ hd) (List.Nodup.of_map _ hd')).mpr ?_
    -- row by row: on both sides the time of a chat is the latest of the same times
    rintro ⟨chat, time⟩
    have hmem : ∀ t, t ∈ savedFor user chat saves ↔
        t ∈ savedFor user chat (Archive.completed {} requests') := by
      intro t
      rw [mem_savedFor_iff, mem_savedFor_iff]
      simp only [hsaves]
    rw [Times.mem_iff_get? hd, Times.mem_iff_get? hd', Archive.get?_ofUser_run,
      Archive.get?_ofUser_run, Times.max?_eq_of_mem_iff hmem]
  · -- a tracker that is seeded with the latest time does not move for an earlier one
    intro user rows times hsave hload moves chat time earlier hrow hle
    obtain rfl := htold hload
    have htime : time ∈ savedFor user chat saves := mem_savedFor_iff.mpr ⟨rows, hsave, hrow⟩
    cases hmax : (savedFor user chat saves).max? with
    | none =>
      rw [List.max?_eq_none_iff.mp hmax] at htime
      simp at htime
    | some last =>
      have hlast : (a.rows.ofUser user).get? chat = some last :=
        (Archive.get?_ofUser_run requests user chat).trans hmax
      have hle' : time ≤ last := (List.max?_eq_some_iff.mp hmax).2 time htime
      exact Course.not_moved_of_seed hlast (Int.le_trans hle hle') user moves

/-- Two connections of one user save in one order or in the other, one of them twice, another user
saves a later time, and a save to the closed archive is refused. The user is told the same, and a
tracker that starts from it takes the refused time for news but not the one that was saved. -/
theorem archive_is_maximum_for_two :
    let first := [Request.save "me" [("ann", 5)], .save "you" [("ann", 9)], .close,
      .save "me" [("ann", 7)], .reopen, .save "me" [("bob", -1), ("ann", 3)]]
    let second := [Request.save "me" [("bob", -1), ("ann", 3)], .save "me" [("ann", 5)], .load "me",
      .save "me" [("bob", -1), ("ann", 3)]]
    (Archive.run {} first).load "me" = some [("ann", 5), ("bob", -1)] ∧
    (Archive.run {} second).load "me" = some [("bob", -1), ("ann", 5)] ∧
    List.Perm [("ann", (5 : Int)), ("bob", -1)] [("bob", -1), ("ann", 5)] ∧
    ∀ moves, (((Course.start "me" [("ann", 5), ("bob", -1)]).run moves).tracker.observe "ann" 4).2
      = false := by
  intro first second
  have hload : (Archive.run {} first).load "me" = some [("ann", 5), ("bob", -1)] := by
    decide +kernel
  have hload' : (Archive.run {} second).load "me" = some [("bob", -1), ("ann", 5)] := by
    decide +kernel
  have hsaves : Archive.completed {} first =
      [("me", [("ann", 5)]), ("you", [("ann", 9)]), ("me", [("bob", -1), ("ann", 3)])] := by
    decide +kernel
  have hsaves' : Archive.completed {} second =
      [("me", [("bob", -1), ("ann", 3)]), ("me", [("ann", 5)]),
        ("me", [("bob", -1), ("ann", 3)])] := by
    decide +kernel
  obtain ⟨-, -, hperm, hseed⟩ := archive_is_maximum first
  refine ⟨hload, hload', hperm second "me" _ _ (fun rows => ?_) hload hload', fun moves => ?_⟩
  · rw [hsaves, hsaves']
    simp only [List.mem_cons, List.not_mem_nil, Prod.mk.injEq]
    tauto
  · refine hseed "me" [("ann", 5)] _ ?_ hload moves "ann" 5 4 List.mem_cons_self (by decide)
    rw [hsaves]
    exact List.mem_cons_self

end IrcGateway.Activity
