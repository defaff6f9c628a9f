import IrcGateway.Proofs.Session.Inbound

/-!
# Every command reaches the consumer

`InOrder` ties what the consumer has got at a point of a run to the bytes that the reader is done
with. This module says what it comes to in the end. Once a session has stopped, all that its client
said was taken or is in the queue (`InOrder.of_stopped`). The reader waits only for the consumer or
for the client (`InOrder.waits`), so that the two come to rest only when no whole line is left, and
after a QUIT or the end of input the session has stopped by then (`InOrder.stopped_of_atRest`).
Whichever of them acts, `remaining` goes down (`remaining_lt`): they do come to rest.

`inbound_in_order` puts all this together for every run from the start of a session.
-/

namespace IrcGateway.Session

open IrcGateway.Protocol

/-- A line in these bytes says QUIT, and its end is there too. -/
def SaysQuit (bytes : List UInt8) : Prop :=
  ∃ front, front <+: bytes ∧ front.getLast? = some 10 ∧ Quits front

/-- Neither reader nor consumer has anything to do. -/
def AtRest (s : Session) : Prop :=
  s.read = none ∧ s.queue = []

/-- A bound on what reader and consumer have left to do; a command that is read will also have to be
taken. -/
def remaining (s : Session) : Nat :=
  2 * s.workload + s.queue.length

/-- In these moves the reader and the consumer act, and each time one of them does something. -/
def Busy (s : Session) : List Move → Prop
  | [] => True
  | move :: rest =>
    (move = .read ∧ s.read ≠ none ∨ move = .take ∧ s.queue ≠ []) ∧ Busy (move.apply s) rest

theorem Busy.undisturbed {s : Session} {moves : List Move} (h : Busy s moves) :
    ∀ move ∈ moves, move.Undisturbed := by
  induction moves generalizing s with
  | nil => simp
  | cons move rest ih =>
    intro m hm
    rcases List.mem_cons.mp hm with rfl | hm
    · rcases h.1 with ⟨rfl, -⟩ | ⟨rfl, -⟩ <;> trivial
    · exact ih h.2 m hm

theorem Busy.heard_eq_nil {s : Session} {moves : List Move} (h : Busy s moves) :
    heard s moves = [] := by
  induction moves generalizing s with
  | nil => rfl
  | cons move rest ih =>
    rw [heard, ih h.2, List.append_nil]
    rcases h.1 with ⟨rfl, -⟩ | ⟨rfl, -⟩ <;> rfl

/-- The consumer is told the end exactly if nothing is left and nothing will come. -/
theorem take_eq_closed_iff {s : Session} (ha : s.abandoned = false) :
    s.take.1 = .closed ↔ s.stopped = true ∧ s.queue = [] := by
  unfold take
  cases s.queue <;> cases s.stopped <;> simp [ha]

namespace InOrder

variable {capacity : Nat} {heard done : List UInt8} {taken : List Message} {s : Session}

/-- All that was said before a session stopped was taken or is in the queue. -/
theorem of_stopped (h : InOrder capacity heard taken done s) (hs : s.stopped = true) :
    taken ++ s.queue = inbound heard := by
  obtain ⟨hheld, hend⟩ := h.ended hs
  have horder : taken ++ s.queue = inbound done := by simpa [hheld] using h.order
  rw [horder, h.whole]
  by_cases hunread : s.unread = []
  · rw [hunread, List.append_nil]
  · -- what is left unread was said after QUIT
    have hboundary := h.boundary.resolve_right fun hb => hunread hb.2
    have hquits := hend.resolve_right fun hb => hunread hb.2
    rw [inbound_append_of_quits hboundary hquits]

/-- Nor does it count what is said after a session stopped. -/
theorem of_stopped_append (h : InOrder capacity heard taken done s) (hs : s.stopped = true)
    {more : List UInt8} (hmore : s.inputEnded = true → more = []) :
    taken ++ s.queue = inbound (heard ++ more) := by
  by_cases he : s.inputEnded = true
  · rw [hmore he, List.append_nil]
    exact h.of_stopped hs
  · have hboundary := h.boundary.resolve_right fun hb => he hb.1
    have hquits := (h.ended hs).2.resolve_right fun hb => he hb.1
    rw [h.of_stopped hs, h.whole, List.append_assoc, inbound_append_of_quits hboundary hquits,
      inbound_append_of_quits hboundary hquits]

/-- The reader waits after the end, for room in the queue, or for the rest of a line. -/
theorem waits (h : InOrder capacity heard taken done s) (hread : s.read = none) :
    s.stopped = true ∨ (s.held.isSome = true ∧ s.queue.length = capacity) ∨
      (s.held = none ∧ s.inputEnded = false ∧ 10 ∉ s.unread) := by
  rcases read_eq_none hread with hs | ⟨hheld, hfull⟩ | ⟨hheld, hl, he⟩
  · exact .inl hs
  · rw [h.capacity_eq] at hfull
    exact .inr (.inl ⟨hheld, Nat.le_antisymm h.fits hfull⟩)
  · exact .inr (.inr ⟨hheld, he, (splitLine_eq_none hl).1⟩)

/-- A session at rest has stopped if its client has quit or ended its input. -/
theorem stopped_of_atRest (h : InOrder capacity heard taken done s) (hcapacity : 0 < capacity)
    (hrest : AtRest s) (hsaid : s.inputEnded = true ∨ SaysQuit heard) : s.stopped = true := by
  rcases h.waits hrest.1 with hs | ⟨-, hfull⟩ | ⟨-, he, hunread⟩
  · exact hs
  · rw [hrest.2] at hfull
    exact absurd hfull hcapacity.ne
  · obtain ⟨front, hfront, hlf, hquits⟩ := hsaid.resolve_left (by simp [he])
    by_contra hs
    rw [Bool.not_eq_true] at hs
    rw [h.whole] at hfront
    have hend : AtLineEnd front := .inr hlf
    -- no line ends in the unread bytes, so that the QUIT is one of those read
    rcases List.prefix_or_prefix_of_prefix hfront (List.prefix_append done s.unread) with
      ⟨back, rfl⟩ | ⟨more, rfl⟩
    · exact h.running hs ((quits_append hend back).mpr (.inl hquits))
    · have hmore : more <+: s.unread := (List.prefix_append_right_inj done).mp hfront
      by_cases hne : more = []
      · subst hne
        rw [List.append_nil] at hquits
        exact h.running hs hquits
      · rw [List.getLast?_append_of_ne_nil _ hne] at hlf
        exact hunread (hmore.subset (List.mem_of_getLast? hlf))

/-- **Whoever acts, less remains to be done.** -/
theorem remaining_lt (h : InOrder capacity heard taken done s) {move : Move}
    (hbusy : move = .read ∧ s.read ≠ none ∨ move = .take ∧ s.queue ≠ []) :
    (move.apply s).remaining < s.remaining := by
  rcases hbusy with ⟨rfl, hread⟩ | ⟨rfl, hqueue⟩
  · obtain ⟨s', hread⟩ := Option.ne_none_iff_exists'.mp hread
    rw [Move.apply, hread, Option.getD_some]
    -- reading may add a command to the queue, for which the work counts double
    have hwork := workload_lt_of_read hread
    have hqueue : s'.queue.length ≤ s.queue.length + 1 := by
      obtain ⟨hs, hreads⟩ := reads hread
      cases hreads with
      | gaveUp => exact Nat.le_succ _
      | queued => simp
      | @line line rest hm hl =>
        have hw : ({ s with unread := rest } : Session).writeFault = none :=
          h.writeFault_eq_none hs
        rw [(queue_inputEnded_handleLine hw line).1]
        exact Nat.le_succ _
      | ended => exact Nat.le_succ _
    unfold remaining
    omega
  · -- taking shortens the queue and touches nothing else
    obtain ⟨m, rest, hm⟩ := List.exists_cons_of_ne_nil hqueue
    have htake : s.take.2 = { s with queue := rest } := by rw [Session.take, hm]
    have hwork : ({ s with queue := rest } : Session).workload = s.workload := rfl
    rw [Move.apply, htake, remaining, remaining, hwork, hm, List.length_cons]
    dsimp only
    omega

theorem inputEnded_apply (h : InOrder capacity heard taken done s) {move : Move}
    (hbusy : move = .read ∧ s.read ≠ none ∨ move = .take ∧ s.queue ≠ []) :
    (move.apply s).inputEnded = s.inputEnded := by
  rcases hbusy with ⟨rfl, hread⟩ | ⟨rfl, -⟩
  · obtain ⟨s', hread⟩ := Option.ne_none_iff_exists'.mp hread
    rw [Move.apply, hread, Option.getD_some]
    obtain ⟨hs, hreads⟩ := reads hread
    cases hreads with
    | @line line rest hm hl =>
      have hw : ({ s with unread := rest } : Session).writeFault = none :=
        h.writeFault_eq_none hs
      exact (queue_inputEnded_handleLine hw line).2
    | _ => rfl
  · rw [Move.apply, Session.take]
    cases s.queue <;> rfl

theorem inputEnded_run (h : InOrder capacity heard taken done s) {more : List Move}
    (hbusy : Busy s more) : (s.run more).inputEnded = s.inputEnded := by
  induction more generalizing s heard taken done with
  | nil => rfl
  | cons move rest ih =>
    obtain ⟨done', hmove⟩ := h.apply (hbusy.undisturbed move List.mem_cons_self)
    rw [run_cons, ih hmove hbusy.2, h.inputEnded_apply hbusy.1]

/-- Reader and consumer cannot go on for ever. -/
theorem length_le_remaining (h : InOrder capacity heard taken done s) {more : List Move}
    (hbusy : Busy s more) : more.length ≤ s.remaining := by
  induction more generalizing s heard taken done with
  | nil => exact Nat.zero_le _
  | cons move rest ih =>
    obtain ⟨done', hmove⟩ := h.apply (hbusy.undisturbed move List.mem_cons_self)
    have hrest := ih hmove hbusy.2
    have hless := h.remaining_lt hbusy.1
    rw [List.length_cons]
    omega

/-- Reader and consumer do come to rest. -/
theorem exists_atRest (h : InOrder capacity heard taken done s) :
    ∃ more, Busy s more ∧ AtRest (s.run more) := by
  induction hn : s.remaining using Nat.strong_induction_on generalizing s heard taken done with
  | _ n ih =>
    by_cases hrest : AtRest s
    · exact ⟨[], trivial, hrest⟩
    · -- one of the two has something to do, and then less remains
      obtain ⟨move, hmove⟩ : ∃ move : Move,
          move = .read ∧ s.read ≠ none ∨ move = .take ∧ s.queue ≠ [] := by
        rcases not_and_or.mp hrest with hread | hqueue
        · exact ⟨.read, .inl ⟨rfl, hread⟩⟩
        · exact ⟨.take, .inr ⟨rfl, hqueue⟩⟩
      have hu : move.Undisturbed := by rcases hmove with ⟨rfl, -⟩ | ⟨rfl, -⟩ <;> trivial
      obtain ⟨done', happly⟩ := h.apply hu
      obtain ⟨more, hmore, hend⟩ := ih _ (hn ▸ h.remaining_lt hmove) happly rfl
      exact ⟨move :: more, ⟨hmove, hmore⟩, hend⟩

end InOrder

/-- **A client's commands are delivered whole and in order.** Let a new session be read and its
queue be emptied in any order, while its client sends what it likes and others write to it. Then at
every point what was taken, what is queued and what the reader holds are the commands, up to the
first QUIT, of the lines read so far. A line that says nothing is passed over. The reader waits for
nothing but a full queue and the rest of a line. Who is told that the queue is closed has got all.
And once the client has quit or ended its input, reader and consumer come to rest in whatever order
they act, with every command taken and the queue closed. -/
theorem inbound_in_order (queueSize : Nat) (moves : List Move)
    (undisturbed : ∀ move ∈ moves, move.Undisturbed) :
    let first := start queueSize
    let s := run first moves
    (∃ done, InOrder (max queueSize 1) (heard first moves) (taken first moves) done s) ∧
    (∀ line rest, s.stopped = false → s.held = none →
      splitLine s.inputEnded s.unread = some (line, rest) → lineMessage? line = none →
      s.read = some { s with unread := rest }) ∧
    (s.read = none → s.stopped = true ∨
      (s.held.isSome = true ∧ s.queue.length = max queueSize 1) ∨
      (s.held = none ∧ s.inputEnded = false ∧ 10 ∉ s.unread)) ∧
    (s.take.1 = .closed → taken first moves = inbound (heard first moves)) ∧
    (s.inputEnded = true ∨ SaysQuit (heard first moves) →
      (∃ more, Busy s more ∧ AtRest (run s more)) ∧
      ∀ more, Busy s more → more.length ≤ s.remaining ∧
        (AtRest (run s more) →
          taken first (moves ++ more) = inbound (heard first moves) ∧
          (run s more).take.1 = .closed)) := by
  intro first s
  obtain ⟨done, h⟩ := (InOrder.start queueSize).run undisturbed
  rw [List.nil_append, List.nil_append] at h
  refine ⟨⟨done, h⟩, ?_, h.waits, ?_, ?_⟩
  · intro line rest hs hheld hl hm
    rw [read, hs, hheld, hl]
    exact congrArg some (handleLine_eq_self hm)
  · -- the queue is closed once the session has stopped and nothing is left in it
    intro hclosed
    obtain ⟨hs, hqueue⟩ := (take_eq_closed_iff h.consumerStays).mp hclosed
    have hall := h.of_stopped hs
    rwa [hqueue, List.append_nil] at hall
  · -- behind the end of input or QUIT, what goes on comes to rest with everything taken
    intro hsaid
    refine ⟨h.exists_atRest, fun more hbusy => ⟨h.length_le_remaining hbusy, fun hrest => ?_⟩⟩
    obtain ⟨done', hmore⟩ := h.run hbusy.undisturbed
    rw [hbusy.heard_eq_nil, List.append_nil, ← taken_append] at hmore
    rw [← h.inputEnded_run hbusy] at hsaid
    have hs := hmore.stopped_of_atRest (by omega) hrest hsaid
    have hall := hmore.of_stopped hs
    rw [hrest.2, List.append_nil] at hall
    exact ⟨hall, (take_eq_closed_iff hmore.consumerStays).mpr ⟨hs, hrest.2⟩⟩

/-- The queue has room for one command, and the consumer is late. The reader holds JOIN meanwhile;
it passes over the blank line, answers PING, and does not read on after QUIT. -/
theorem join_arrives_before_quit :
    let say := fun text : String => Move.receive (text.toList.map fun c => c.toNat.toUInt8)
    let moves :=
      [say "user al\r", .read, say "\nPING\n\n JO", .read, .read, .read, .read,
        say "IN #a\r\nQU", .read, .read, .take, say "IT\nPART #a\n", .read, .read, .read, .take,
        .read, .take]
    let first := start 1
    (∀ move ∈ moves, move.Undisturbed) ∧
      (run first moves).take.1 = .closed ∧
      inbound (heard first moves) =
        [{ command := "USER", params := ["al"] }, { command := "JOIN", params := ["#a"] }] ∧
      taken first moves = inbound (heard first moves) := by
  intro say moves first
  have hu : ∀ move ∈ moves, move.Undisturbed := by
    simp [moves, say, Move.Undisturbed]
  have hstopped : (run first moves).stopped = true ∧ (run first moves).queue = [] := by
    decide +kernel
  have hclosed : (run first moves).take.1 = .closed :=
    (take_eq_closed_iff (by decide +kernel)).mpr hstopped
  exact ⟨hu, hclosed, by decide +kernel, (inbound_in_order 1 moves hu).2.2.2.1 hclosed⟩

end IrcGateway.Session
