import IrcGateway.Proofs.Session.Socket

/-!
# Lines reach the client whole and in turn

Whatever the schedule of the writers that share a socket, two invariants tie it to what was noted.

* `Whole`: only the writer that holds the socket is writing, and while the session is up the client
  has the lines that were finished, in the order in which they were, and the bytes that the holder
  has pushed of its line. If the client went away meanwhile these may be of a line that was given
  up.
* `InTurn`: of all lists that a writer was given it has finished the lines in order, each list up to
  where it failed, but for the list that it is at.

Each has a step lemma (`Whole.step`, `InTurn.turn`), and `run_induction` takes both along a run. For
the second it does not matter what a step does, but only what it is to one writer, and that is one
of four things (`Stepped.turns`).
-/

namespace IrcGateway

open IrcGateway.Protocol IrcGateway.Text IrcGateway.Time

theorem Outgoing.bytes_eq (x : Outgoing) :
    x.bytes = x.text.toList.flatMap String.utf8EncodeChar ++ [13, 10] := by
  rw [Outgoing.bytes, Sent.wire, List.flatMap_append]
  rfl

theorem Outgoing.bytes_ne_nil (x : Outgoing) : x.bytes ≠ [] := by
  rw [x.bytes_eq]
  simp

/-- The line that a write has begun with. -/
@[simp] def Stage.current : Stage → Option Outgoing
  | .idle => none
  | .waiting x => some x
  | .writing x _ => some x

/-- The lines that a writer has still to finish, the one that it is at first. -/
def Work.lines (work : Work) : List String :=
  (work.stage.current.map (·.sent.line)).toList ++ work.todo.map (·.2)

namespace Socket

/-- The lines finished among what is noted. -/
def finished (found : List Note) : List Outgoing :=
  found.filterMap fun note =>
    match note with
    | .finished _ x => some x
    | _ => none

/-- The session goes on with every step. -/
theorem Stepped.onward {s s' : Socket} {step : Step} {found : List Note}
    (h : Stepped s step s' found) : Session.Onward s.session s'.session := by
  -- besides these three no step touches the session
  cases h with
  | beside hb => exact (Session.unwritten_move s.session hb).toOnward
  | read hw hh => exact (Session.unwritten_hear hh).toOnward
  | finish => exact ⟨id, id, List.Subset.refl _⟩
  | _ => exact .refl _

/-- With work that goes on with the line under way, or with none, no other line comes under way. -/
theorem current_of_setWork {s : Socket} {v : Writer} {work : Work}
    (hwork : work.stage.current = none ∨ work.stage.current = (s.work v).stage.current) {w : Writer}
    {x : Outgoing} (hx : ((s.setWork v work).work w).stage.current = some x) :
    (s.work w).stage.current = some x := by
  by_cases hw : w = v
  · subst hw
    rw [work_setWork] at hx
    -- the line under way was there before, as no other comes with the work
    rcases hwork with hnone | hsame
    · rw [hnone] at hx
      cases hx
    · exact hsame ▸ hx
  · rwa [work_setWork_of_ne s work hw] at hx

/-- **How a writer comes to a line.** It was at that line before, or its write begins now. -/
theorem Stepped.current {s s' : Socket} {step : Step} {found : List Note}
    (h : Stepped s step s' found) {w : Writer} {x : Outgoing}
    (hx : (s'.work w).stage.current = some x) :
    ((s.work w).stage.current = some x ∧ ∀ y, .begun w y ∉ found) ∨
      ∃ time rest, step = .begin w x.clock ∧ s.work w = ⟨(time, x.sent.line) :: rest, .idle⟩ ∧
        s.session.stopped = false ∧ x.sent = s.session.tagged time x.sent.line ∧
        found = [.begun w x] := by
  -- a line comes under way where a write begins, and there alone
  cases h with
  | beside hb => exact .inl ⟨hx, by simp⟩
  | @read session line lines hw hh hl =>
    exact .inl ⟨current_of_setWork (s := { s with session }) (.inl rfl) hx, by simp⟩
  | give hw => exact .inl ⟨current_of_setWork (.inl rfl) hx, by simp⟩
  | @begin v clock time line rest hw hs =>
    by_cases hv : w = v
    · subst hv
      rw [work_setWork] at hx
      obtain rfl := Option.some.inj hx
      exact .inr ⟨time, rest, rfl, hw, hs, rfl, rfl⟩
    · rw [work_setWork_of_ne s _ hv] at hx
      exact .inl ⟨hx, by simp [hv]⟩
  | refuse hw hs => exact .inl ⟨current_of_setWork (.inl rfl) hx, by simp⟩
  | @lock v x' rest hw hh =>
    refine .inl ⟨current_of_setWork (s := { s with holder := some v }) (.inr ?_) hx, by simp⟩
    simp [hw]
  | @push v n x' left rest hw hc =>
    refine .inl ⟨current_of_setWork (s := { s with bytes := s.bytes ++ left.take n }) (.inr ?_) hx,
      by simp⟩
    simp [hw]
  | @finish v x' rest hw =>
    let session := { s.session with sent := s.session.sent ++ [x'.sent] }
    exact .inl ⟨current_of_setWork (s := { s with session, holder := none }) (.inl rfl) hx, by simp⟩
  | giveUp hw he => exact .inl ⟨current_of_setWork (.inl rfl) hx, by simp⟩
  | breakOff hw he =>
    exact .inl ⟨current_of_setWork (s := { s with holder := none }) (.inl rfl) hx, by simp⟩

/-! ### Whole lines -/

/-- The writer pushes the bytes of its line. -/
def IsWriting (s : Socket) (w : Writer) : Prop :=
  ∃ x left, (s.work w).stage = .writing x left

/-- These bytes were pushed of the line that is being written, if there is one. -/
def Pushed (s : Socket) (part : List UInt8) : Prop :=
  match s.holder with
  | none => part = []
  | some w => ∃ x left, (s.work w).stage = .writing x left ∧ x.bytes = part ++ left

/-- What the holder has pushed and what is left make up its line. -/
theorem Pushed.bytes_eq {s : Socket} {part : List UInt8} (h : s.Pushed part) {w : Writer}
    {x : Outgoing} {left : List UInt8} (hholder : s.holder = some w)
    (hstage : (s.work w).stage = .writing x left) : x.bytes = part ++ left := by
  simp only [Pushed, hholder, hstage] at h
  obtain ⟨x', left', heq, hbytes⟩ := h
  obtain ⟨rfl, rfl⟩ := Stage.writing.inj heq
  exact hbytes

/-- These bytes were pushed of a line that was given up, as the client is gone. No other line comes
to its end after that. -/
structure CutOff (s : Socket) (found : List Note) (part : List UInt8) : Prop where
  gone : s.session.clientGone = true
  part : ∃ w x, .begun w x ∈ found ∧ part <+: Outgoing.bytes x
  left : ∀ w x left, (s.work w).stage = .writing x left → left ≠ []

/-- The bytes that reached the client are those of whole lines and a part of the next. -/
structure Whole (s : Socket) (found : List Note) : Prop where
  begun : ∀ w x, (s.work w).stage.current = some x → .begun w x ∈ found
  sent : s.session.sent = (finished found).map (·.sent)
  holder : ∀ w, s.holder = some w ↔ s.IsWriting w
  bytes : s.session.stopped = false →
    ∃ part, s.bytes = (finished found).flatMap Outgoing.bytes ++ part ∧
      (s.Pushed part ∨ s.CutOff found part)

theorem Whole.start (queueSize : Nat) : Whole (start queueSize) [] where
  begun w x hx := by simp [Socket.start] at hx
  sent := rfl
  holder w := by simp [Socket.start, IsWriting]
  bytes _ := ⟨[], rfl, .inl rfl⟩

/-- What was begun stays so, and what a step begins is noted. -/
theorem Whole.begun_step {s s' : Socket} {step : Step} {before found : List Note}
    (h : Whole s before) (hstep : Stepped s step s' found) (w : Writer) (x : Outgoing)
    (hx : (s'.work w).stage.current = some x) : .begun w x ∈ before ++ found := by
  rcases hstep.current hx with ⟨hbefore, -⟩ | ⟨time, rest, -, -, -, -, hfound⟩
  · exact List.mem_append_left found (h.begun w x hbefore)
  · rw [hfound]
    exact List.mem_append_right before (List.mem_singleton_self _)

/-- The invariant is not touched where no line is and nobody comes to write or ceases to. -/
theorem Whole.still {s s' : Socket} {step : Step} {before found : List Note} (h : Whole s before)
    (hstep : Stepped s step s' found) (hsent : s'.session.sent = s.session.sent)
    (hholder : s'.holder = s.holder) (hbytes : s'.bytes = s.bytes) (hfound : finished found = [])
    (hstage : ∀ w x left,
      (s'.work w).stage = .writing x left ↔ (s.work w).stage = .writing x left) :
    Whole s' (before ++ found) := by
  have hdone : finished (before ++ found) = finished before := by
    rw [finished, List.filterMap_append, ← finished, ← finished, hfound, List.append_nil]
  refine ⟨h.begun_step hstep, ?_, ?_, ?_⟩
  · rw [hsent, h.sent, hdone]
  · intro w
    simp only [hholder, h.holder, IsWriting, hstage]
  · intro hup
    -- the session was up before, too
    obtain ⟨part, hpart, hpushed⟩ := h.bytes (hstep.onward.stopped_eq_false hup)
    refine ⟨part, by rw [hbytes, hpart, hdone], ?_⟩
    rcases hpushed with hpushed | ⟨hgone, ⟨w, x, hbegun, hprefix⟩, hleft⟩
    · left
      simpa only [Pushed, hholder, hstage] using hpushed
    · refine .inr ⟨hstep.onward.clientGone hgone, ⟨w, x, ?_, hprefix⟩, ?_⟩
      · exact List.mem_append_left found hbegun
      · simpa only [hstage] using hleft

/-- Work that is no writing, before and after, keeps the others as they are. -/
theorem stage_setWork_iff {s : Socket} {w : Writer} {work : Work}
    (hbefore : ∀ x left, (s.work w).stage ≠ .writing x left)
    (hafter : ∀ x left, work.stage ≠ .writing x left) (w' : Writer) (x : Outgoing)
    (left : List UInt8) :
    ((s.setWork w work).work w').stage = .writing x left ↔ (s.work w').stage = .writing x left := by
  by_cases hw : w' = w
  · subst hw
    rw [work_setWork]
    exact iff_of_false (hafter x left) (hbefore x left)
  · rw [work_setWork_of_ne s work hw]

/-- Once the holder of the socket has done, nobody writes. -/
theorem Whole.not_isWriting_setWork {s : Socket} {before : List Note} (h : Whole s before)
    {w : Writer} {x : Outgoing} {left : List UInt8} (hw : (s.work w).stage = .writing x left)
    {work : Work} (hafter : work.stage = .idle) (w' : Writer) :
    ¬ (s.setWork w work).IsWriting w' := by
  rintro ⟨x', left', hstage⟩
  by_cases heq : w' = w
  · subst heq
    rw [work_setWork, hafter] at hstage
    cases hstage
  · rw [work_setWork_of_ne s work heq] at hstage
    -- another writer would hold the socket as well
    have hholder := (h.holder w').mpr ⟨x', left', hstage⟩
    rw [(h.holder w).mpr ⟨x, left, hw⟩] at hholder
    exact heq (Option.some.inj hholder).symm

section Steps

variable {s : Socket} {before : List Note} {w : Writer} {x : Outgoing} {left : List UInt8}
  {rest : List (Stamp × String)}

/-- A writer gets the socket. -/
theorem Whole.lock (h : Whole s before) (hw : s.work w = ⟨rest, .waiting x⟩)
    (hh : s.holder = none) :
    Whole ({ s with holder := some w }.setWork w ⟨rest, .writing x x.bytes⟩) (before ++ []) := by
  have hbegun := h.begun_step (.lock hw hh)
  rw [List.append_nil] at hbegun ⊢
  refine ⟨hbegun, h.sent, fun w' => ?_, fun hup => ?_⟩
  · -- nobody held the socket, so nobody else writes
    by_cases heq : w' = w
    · subst heq
      exact iff_of_true rfl ⟨x, x.bytes, by rw [work_setWork]⟩
    · refine iff_of_false (fun hc => heq (Option.some.inj hc).symm) ?_
      rintro ⟨x', left', hstage⟩
      rw [work_setWork_of_ne _ _ heq] at hstage
      have hholder := (h.holder w').mpr ⟨x', left', hstage⟩
      simp [hh] at hholder
  · obtain ⟨part, hpart, hpushed⟩ := h.bytes hup
    rcases hpushed with hpushed | hcut
    · -- the client has whole lines only, and nothing is pushed of the next yet
      obtain rfl : part = [] := by simpa [Pushed, hh] using hpushed
      exact ⟨[], hpart, .inl ⟨x, x.bytes, by rw [work_setWork], rfl⟩⟩
    · -- the line will not be pushed, as the client is gone
      refine ⟨part, hpart, .inr ⟨hcut.gone, hcut.part, fun w' x' left' hstage => ?_⟩⟩
      by_cases heq : w' = w
      · subst heq
        rw [work_setWork] at hstage
        obtain ⟨rfl, rfl⟩ := Stage.writing.inj hstage
        exact x.bytes_ne_nil
      · rw [work_setWork_of_ne _ _ heq] at hstage
        exact hcut.left w' x' left' hstage

/-- The holder of the socket pushes. -/
theorem Whole.push (h : Whole s before) (hw : s.work w = ⟨rest, .writing x left⟩)
    (hc : s.session.clientGone = false) (n : Nat) :
    Whole ({ s with bytes := s.bytes ++ left.take n }.setWork w ⟨rest, .writing x (left.drop n)⟩)
      (before ++ []) := by
  have hbegun := h.begun_step (.push (n := n) hw hc)
  rw [List.append_nil] at hbegun ⊢
  have hstage : (s.work w).stage = .writing x left := by rw [hw]
  have hholder : s.holder = some w := (h.holder w).mpr ⟨x, left, hstage⟩
  refine ⟨hbegun, h.sent, fun w' => ?_, fun hup => ?_⟩
  · refine (h.holder w').trans ?_
    by_cases heq : w' = w
    · subst heq
      exact iff_of_true ⟨x, left, hstage⟩ ⟨x, left.drop n, by rw [work_setWork]⟩
    · unfold IsWriting
      rw [work_setWork_of_ne _ _ heq]
  · obtain ⟨part, hpart, hpushed⟩ := h.bytes hup
    have hbytes : x.bytes = part ++ left := by
      rcases hpushed with hpushed | hcut
      · exact hpushed.bytes_eq hholder hstage
      · simp [hcut.gone] at hc
    -- what is pushed goes over from what is left
    refine ⟨part ++ left.take n, ?_, .inl ?_⟩
    · change s.bytes ++ left.take n = _
      rw [hpart, List.append_assoc]
    · simp only [Pushed, setWork, hholder]
      refine ⟨x, left.drop n, by simp, ?_⟩
      rw [List.append_assoc, List.take_append_drop, hbytes]

/-- The holder of the socket has pushed its line. -/
theorem Whole.finish (h : Whole s before) (hw : s.work w = ⟨rest, .writing x []⟩) :
    Whole ({ s with
        session := { s.session with sent := s.session.sent ++ [x.sent] }
        holder := none }.setWork w ⟨rest, .idle⟩) (before ++ [.finished w x]) := by
  have hbegun := h.begun_step (.finish hw)
  have hstage : (s.work w).stage = .writing x [] := by rw [hw]
  have hholder : s.holder = some w := (h.holder w).mpr ⟨x, [], hstage⟩
  have hdone : finished (before ++ [.finished w x]) = finished before ++ [x] := by
    rw [finished, List.filterMap_append]
    rfl
  refine ⟨hbegun, ?_, fun w' => ?_, fun hup => ?_⟩
  · rw [hdone, List.map_append, ← h.sent]
    rfl
  · exact iff_of_false (by simp [setWork]) (h.not_isWriting_setWork hstage rfl w')
  · obtain ⟨part, hpart, hpushed⟩ := h.bytes hup
    have hbytes : x.bytes = part ++ [] := by
      rcases hpushed with hpushed | hcut
      · exact hpushed.bytes_eq hholder hstage
      · exact absurd rfl (hcut.left w x [] hstage)
    -- nothing is left of the line, which is a whole one now
    refine ⟨[], ?_, .inl rfl⟩
    rw [hdone, List.flatMap_append, List.flatMap_singleton, hbytes, List.append_nil,
      List.append_nil]
    exact hpart

/-- The holder of the socket fails. -/
theorem Whole.breakOff (h : Whole s before) (hw : s.work w = ⟨rest, .writing x left⟩)
    {e : WriteError} (he : s.session.writeFault = some e) :
    Whole ({ s with holder := none }.setWork w {}) (before ++ [.failed w e]) := by
  have hbegun := h.begun_step (.breakOff hw he)
  have hstage : (s.work w).stage = .writing x left := by rw [hw]
  have hholder : s.holder = some w := (h.holder w).mpr ⟨x, left, hstage⟩
  have hdone : finished (before ++ [.failed w e]) = finished before := by
    rw [finished, List.filterMap_append]
    exact List.append_nil _
  have hnobody : ∀ w', ¬ (s.setWork w {}).IsWriting w' := h.not_isWriting_setWork hstage rfl
  refine ⟨hbegun, by rw [hdone]; exact h.sent, fun w' => ?_, fun hup => ?_⟩
  · exact iff_of_false (by simp [setWork]) (hnobody w')
  · -- the session is up, so that the client is gone
    have hgone : s.session.clientGone = true := by
      change s.session.stopped = false at hup
      have hfault : s.session.clientGone = true ∧ WriteError.brokenPipe = e := by
        simpa [Session.writeFault, hup] using he
      exact hfault.1
    obtain ⟨part, hpart, hpushed⟩ := h.bytes hup
    refine ⟨part, by rw [hdone]; exact hpart, .inr ⟨hgone, ?_, ?_⟩⟩
    · rcases hpushed with hpushed | hcut
      · -- what this writer has pushed of its line is what is cut off
        have hbefore := h.begun w x (by rw [hstage]; rfl)
        refine ⟨w, x, List.mem_append_left _ hbefore, left, ?_⟩
        exact (hpushed.bytes_eq hholder hstage).symm
      · obtain ⟨w', x', hbefore, hprefix⟩ := hcut.part
        exact ⟨w', x', List.mem_append_left _ hbefore, hprefix⟩
    · intro w' x' left' hstage'
      exact absurd ⟨x', left', hstage'⟩ (hnobody w')

end Steps

/-- **Every step keeps lines whole.** -/
theorem Whole.step {s s' : Socket} {step : Step} {before found : List Note} (h : Whole s before)
    (hstep : Stepped s step s' found) : Whole s' (before ++ found) := by
  have hstill := h.still hstep
  -- only a writer that gets the socket, pushes, or gives it back touches the invariant
  cases hstep with
  | beside hb =>
    exact hstill (Session.unwritten_move s.session hb).sent rfl rfl rfl fun w x left => Iff.rfl
  | @read session line lines hw hh hl =>
    exact hstill (Session.unwritten_hear hh).sent rfl rfl rfl
      (stage_setWork_iff (s := { s with session }) (by simp [hw]) (by simp))
  | give hw => exact hstill rfl rfl rfl rfl (stage_setWork_iff (by simp [hw]) (by simp))
  | begin hw hs => exact hstill rfl rfl rfl rfl (stage_setWork_iff (by simp [hw]) (by simp))
  | refuse hw hs => exact hstill rfl rfl rfl rfl (stage_setWork_iff (by simp [hw]) (by simp))
  | giveUp hw he => exact hstill rfl rfl rfl rfl (stage_setWork_iff (by simp [hw]) (by simp))
  | lock hw hh => exact h.lock hw hh
  | @push _ n _ _ _ hw hc => exact h.push hw hc n
  | finish hw => exact h.finish hw
  | breakOff hw he => exact h.breakOff hw he

/-! ### Lines in turn -/

/-- The lists of lines that a writer was given. -/
def given (w : Writer) (found : List Note) : List (List String) :=
  found.filterMap fun note =>
    match note with
    | .given w' lines => if w' = w then some (lines.map (·.2)) else none
    | _ => none

/-- The lines that a writer has finished. -/
def finishedBy (w : Writer) (found : List Note) : List String :=
  found.filterMap fun note =>
    match note with
    | .finished w' x => if w' = w then some x.sent.line else none
    | _ => none

/-- What a step is to one writer. -/
inductive Turns (w : Writer) (ahead ahead' : List String) (found : List Note) : Prop where
  /-- It neither gets nor loses a line. -/
  | still (hahead : ahead' = ahead) (hg : given w found = []) (hf : finishedBy w found = [])
      (hx : failures w found = [])
  | given (hahead : ahead = []) (hg : given w found = [ahead']) (hf : finishedBy w found = [])
      (hx : failures w found = [])
  | finished {l : String} (hahead : ahead = l :: ahead') (hg : given w found = [])
      (hf : finishedBy w found = [l]) (hx : failures w found = [])
  /-- It fails with its line, and the others are given up. -/
  | failed {e : WriteError} (hahead : ahead ≠ []) (hnone : ahead' = []) (hg : given w found = [])
      (hf : finishedBy w found = []) (hx : failures w found = [e])

/-- How a writer stands with the lists that it was given. Of each list in `past` it has finished
some lines and will finish no more; of the list that it is at, it has finished `done`. -/
structure InTurn (w : Writer) (ahead : List String) (found : List Note)
    (past : List (List String × List String)) (done : List String) : Prop where
  given : given w found = past.map (·.1) ++ (if ahead = [] then [] else [done ++ ahead])
  finished : finishedBy w found = past.flatMap (·.2) ++ done
  first : ∀ p ∈ past, p.2 <+: p.1
  /-- A list is given up where a line of it fails, and nowhere else. -/
  failures : (failures w found).length = past.countP fun p => p.2 != p.1
  done : ahead = [] → done = []

theorem given_append (w : Writer) (before found : List Note) :
    given w (before ++ found) = given w before ++ given w found :=
  List.filterMap_append

theorem finishedBy_append (w : Writer) (before found : List Note) :
    finishedBy w (before ++ found) = finishedBy w before ++ finishedBy w found :=
  List.filterMap_append

theorem failures_append (w : Writer) (before found : List Note) :
    failures w (before ++ found) = failures w before ++ failures w found :=
  List.filterMap_append

variable {w : Writer} {ahead ahead' done : List String} {before found : List Note}
  {past : List (List String × List String)}

/-- A list that nothing is ahead of any more is past. -/
theorem exists_inTurn (hg : given w found = past.map (·.1) ++ [done ++ ahead])
    (hf : finishedBy w found = past.flatMap (·.2) ++ done) (hfirst : ∀ p ∈ past, p.2 <+: p.1)
    (hx : (failures w found).length = past.countP fun p => p.2 != p.1) :
    ∃ past done, InTurn w ahead found past done := by
  by_cases hahead : ahead = []
  · -- the list is finished, or was empty
    refine ⟨past ++ [(done, done)], [], ?_, ?_, ?_, ?_, fun _ => rfl⟩
    · simp [hg, hahead]
    · simp [hf]
    · simpa [or_imp, forall_and] using hfirst
    · simp [hx]
  · exact ⟨past, done, by rw [hg, if_neg hahead], hf, hfirst, hx, fun h => absurd h hahead⟩

/-- **Every turn keeps the order.** -/
theorem InTurn.turn (h : InTurn w ahead before past done) (hturn : Turns w ahead ahead' found) :
    ∃ past done, InTurn w ahead' (before ++ found) past done := by
  -- by what the turn is: the list that the writer is at stays, begins, goes on or is given up
  cases hturn with
  | still hahead hg hf hx =>
    subst hahead
    refine ⟨past, done, ?_, ?_, h.first, ?_, h.done⟩
    · rw [given_append, hg, List.append_nil, h.given]
    · rw [finishedBy_append, hf, List.append_nil, h.finished]
    · rw [failures_append, hx, List.append_nil, h.failures]
  | given hahead hg hf hx =>
    refine @exists_inTurn w ahead' [] _ past ?_ ?_ h.first ?_
    · rw [given_append, hg, h.given, if_pos hahead, List.append_nil, List.nil_append]
    · rw [finishedBy_append, hf, h.finished, h.done hahead, List.append_nil]
    · rw [failures_append, hx, List.append_nil, h.failures]
  | @finished l hahead hg hf hx =>
    refine @exists_inTurn w ahead' (done ++ [l]) _ past ?_ ?_ h.first ?_
    · rw [given_append, hg, List.append_nil, h.given, if_neg (by simp [hahead]), hahead,
        List.append_assoc, List.singleton_append]
    · rw [finishedBy_append, hf, h.finished, List.append_assoc]
    · rw [failures_append, hx, List.append_nil, h.failures]
  | @failed e hahead hnone hg hf hx =>
    -- the list is over with its first lines, and counts as cut short
    refine ⟨past ++ [(done ++ ahead, done)], [], ?_, ?_, ?_, ?_, fun _ => rfl⟩
    · rw [given_append, hg, List.append_nil, h.given, if_neg hahead, if_pos hnone]
      simp
    · rw [finishedBy_append, hf, h.finished]
      simp
    · simpa [or_imp, forall_and] using h.first
    · rw [failures_append, hx, List.length_append, h.failures]
      simp [hahead]

end Socket

end IrcGateway
