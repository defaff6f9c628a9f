import IrcGateway.Proofs.Session.Run

/-!
# A client's commands arrive whole and in order

The bytes of a client are cut into lines wherever they were cut into pieces, each line is read as a
message or passed over, and what is for the rest of the gateway goes through a queue to a consumer
that may be slow. `inbound` says what the consumer should get for some bytes: the commands for the
rest of the gateway up to the first QUIT.

At every point of a run there are bytes that the reader is done with, and these end where a line
ends. `InOrder` ties them to what was taken, what is in the queue and what the reader holds: in this
order the three are the commands of those bytes. Every move keeps that (`InOrder.apply`), so that it
holds along every run (`InOrder.run`).
-/

namespace IrcGateway.Session

open IrcGateway.Protocol IrcGateway.Text

/-! ### What a client said -/

/-- The lines of some bytes, each with its line feed. Bytes after the last line feed are a line as
well. -/
def byteLines : List UInt8 → List (List UInt8)
  | [] => []
  | b :: bs =>
    if b = 10 then [b] :: byteLines bs
    else
      match byteLines bs with
      | [] => [[b]]
      | line :: lines => (b :: line) :: lines

/-- What a line says, if it says anything. -/
def lineMessage? (line : List UInt8) : Option Message :=
  (Message.parse (String.ofList (Utf8.decodeLossy line))).toOption

/-- All that is said in some bytes. -/
def messages (bytes : List UInt8) : List Message :=
  (byteLines bytes).filterMap lineMessage?

/-- The commands for the rest of the gateway, up to the first QUIT. -/
def inbound (bytes : List UInt8) : List Message :=
  ((messages bytes).takeWhile fun m => m.command != "QUIT").filter isForwarded

/-- The client quits in these bytes. -/
def Quits (bytes : List UInt8) : Prop :=
  ∃ m ∈ messages bytes, m.command = "QUIT"

/-- The bytes end where a line ends. -/
def AtLineEnd (bytes : List UInt8) : Prop :=
  bytes = [] ∨ bytes.getLast? = some 10

theorem byteLines_of_notMem {bytes : List UInt8} (hne : bytes ≠ []) (h : 10 ∉ bytes) :
    byteLines bytes = [bytes] := by
  induction bytes with
  | nil => exact absurd rfl hne
  | cons b bs ih =>
    rw [List.mem_cons, not_or] at h
    rw [byteLines, if_neg (Ne.symm h.1)]
    cases bs with
    | nil => rfl
    | cons c cs => rw [ih (List.cons_ne_nil c cs) h.2]

theorem byteLines_concat {bytes : List UInt8} (h : 10 ∉ bytes) :
    byteLines (bytes ++ [10]) = [bytes ++ [10]] := by
  induction bytes with
  | nil => rfl
  | cons b bs ih =>
    rw [List.mem_cons, not_or] at h
    rw [List.cons_append, byteLines, if_neg (Ne.symm h.1), ih h.2]

/-- Bytes can be cut into lines from one line end to the next. -/
theorem byteLines_append {bytes : List UInt8} (h : AtLineEnd bytes) (more : List UInt8) :
    byteLines (bytes ++ more) = byteLines bytes ++ byteLines more := by
  induction bytes with
  | nil => rfl
  | cons b bs ih =>
    have hend : bs ≠ [] → AtLineEnd bs := by
      intro hne
      rcases h with hnil | hlast
      · simp at hnil
      · rw [List.getLast?_cons_of_ne_nil hne] at hlast
        exact .inr hlast
    rw [List.cons_append, byteLines, byteLines]
    split
    · -- a line ends here, and the rest is at the end of a line or empty
      rw [List.cons_append, List.cons.injEq]
      refine ⟨rfl, ?_⟩
      cases bs with
      | nil => rfl
      | cons c cs => exact ih (hend (List.cons_ne_nil c cs))
    · next hb =>
      -- the line goes on, so that there are further bytes
      have hne : bs ≠ [] := by
        rintro rfl
        rcases h with hnil | hlast
        · simp at hnil
        · exact hb (by simpa using hlast)
      have hlines : byteLines bs ≠ [] := by
        obtain ⟨c, cs, rfl⟩ := List.exists_cons_of_ne_nil hne
        rw [byteLines]
        split
        · simp
        · split <;> simp
      rw [ih (hend hne)]
      obtain ⟨line, lines, hcons⟩ := List.exists_cons_of_ne_nil hlines
      rw [hcons]
      rfl

theorem messages_append {bytes : List UInt8} (h : AtLineEnd bytes) (more : List UInt8) :
    messages (bytes ++ more) = messages bytes ++ messages more := by
  rw [messages, byteLines_append h, List.filterMap_append]
  rfl

theorem quits_append {bytes : List UInt8} (h : AtLineEnd bytes) (more : List UInt8) :
    Quits (bytes ++ more) ↔ Quits bytes ∨ Quits more := by
  unfold Quits
  rw [messages_append h]
  simp only [List.mem_append, or_and_right, exists_or]

theorem inbound_append {bytes : List UInt8} (h : AtLineEnd bytes) (hq : ¬ Quits bytes)
    (more : List UInt8) : inbound (bytes ++ more) = inbound bytes ++ inbound more := by
  have hall : ∀ m ∈ messages bytes, (m.command != "QUIT") = true := by
    intro m hmem
    simpa using fun hm => hq ⟨m, hmem, hm⟩
  unfold inbound
  rw [messages_append h, List.takeWhile_append_of_pos hall, List.filter_append,
    List.takeWhile_eq_self_iff.mpr hall]

/-- Nothing counts that is said after QUIT. -/
theorem inbound_append_of_quits {bytes : List UInt8} (h : AtLineEnd bytes) (hq : Quits bytes)
    (more : List UInt8) : inbound (bytes ++ more) = inbound bytes := by
  obtain ⟨m, hmem, hm⟩ := hq
  unfold inbound
  rw [messages_append h, List.takeWhile_append, if_neg]
  intro hlength
  -- nothing would be cut off, although QUIT is
  have hall := List.takeWhile_eq_self_iff.mp
    ((List.takeWhile_prefix _).eq_of_length hlength) m hmem
  simp [hm] at hall

section SingleLine

variable {line : List UInt8} (hl : byteLines line = [line])

include hl

theorem messages_of_line : messages line = (lineMessage? line).toList := by
  rw [messages, hl]
  cases h : lineMessage? line <;> simp [h]

theorem quits_of_line : Quits line ↔ ∃ m, lineMessage? line = some m ∧ m.command = "QUIT" := by
  unfold Quits
  rw [messages_of_line hl]
  simp [Option.mem_toList]

theorem inbound_of_line_none (hm : lineMessage? line = none) : inbound line = [] := by
  rw [inbound, messages_of_line hl, hm]
  rfl

theorem inbound_of_line_some {m : Message} (hm : lineMessage? line = some m) :
    inbound line = if m.command = "QUIT" then [] else if isForwarded m then [m] else [] := by
  rw [inbound, messages_of_line hl, hm, Option.toList_some]
  by_cases hquit : m.command = "QUIT"
  · simp [hquit]
  · by_cases hf : isForwarded m = true <;> simp [hquit, hf]

end SingleLine

/-! ### Lines as the reader takes them -/

/-- The reader takes the first line, which ends with a line feed unless it is the last. -/
theorem splitLine_eq_some {ended : Bool} {bytes line rest : List UInt8}
    (h : splitLine ended bytes = some (line, rest)) :
    bytes = line ++ rest ∧ byteLines line = [line] ∧
      (line.getLast? = some 10 ∨ (ended = true ∧ rest = [])) := by
  have hbefore : 10 ∉ bytes.takeWhile (· != 10) := fun hmem => by
    simpa using List.mem_takeWhile_imp hmem
  have hcut := List.takeWhile_append_dropWhile (p := (· != 10)) (l := bytes)
  unfold splitLine at h
  split at h
  · -- the line goes up to the first line feed
    next lf after hafter =>
    have hlf : lf = 10 := by
      have := List.head?_dropWhile_not (· != 10) bytes
      rw [hafter] at this
      simpa using this
    subst hlf
    rw [Option.some.injEq, Prod.mk.injEq] at h
    obtain ⟨rfl, rfl⟩ := h
    refine ⟨?_, byteLines_concat hbefore, .inl List.getLast?_concat⟩
    rw [List.append_assoc, List.singleton_append, ← hafter, hcut]
  · -- there is none, and all that is left is the last line
    next hnil =>
    split at h
    · next hended =>
      rw [Option.some.injEq, Prod.mk.injEq] at h
      obtain ⟨rfl, rfl⟩ := h
      rw [Bool.and_eq_true, Bool.not_eq_true', List.isEmpty_eq_false_iff] at hended
      rw [hnil, List.append_nil] at hcut
      rw [hcut] at hbefore
      exact ⟨(List.append_nil _).symm, byteLines_of_notMem hended.2 hbefore, .inr ⟨hended.1, rfl⟩⟩
    · simp at h

/-- The reader finds no line only in an unfinished one. -/
theorem splitLine_eq_none {ended : Bool} {bytes : List UInt8} (h : splitLine ended bytes = none) :
    10 ∉ bytes ∧ (ended = true → bytes = []) := by
  unfold splitLine at h
  split at h
  · simp at h
  · next hnil =>
    rw [List.dropWhile_eq_nil_iff] at hnil
    refine ⟨fun hmem => by simpa using hnil 10 hmem, fun hended => ?_⟩
    simpa [hended] using h

theorem parse_of_lineMessage {line : List UInt8} {m : Message} (h : lineMessage? line = some m) :
    Message.parse (String.ofList (Utf8.decodeLossy line)) = .ok m := by
  unfold lineMessage? at h
  cases hread : Message.parse (String.ofList (Utf8.decodeLossy line)) with
  | ok m' =>
    rw [hread] at h
    rw [← Option.some.inj h]
  | error e => simp [hread, Except.toOption] at h

theorem handleLine_eq_handle {s : Session} {line : List UInt8} {m : Message}
    (h : lineMessage? line = some m) : s.handleLine line = s.handle m := by
  rw [handleLine, parse_of_lineMessage h]

theorem handleLine_eq_self {s : Session} {line : List UInt8} (h : lineMessage? line = none) :
    s.handleLine line = s := by
  unfold lineMessage? at h
  unfold handleLine
  split
  · next m hm => simp [hm, Except.toOption] at h
  · rfl

theorem flow_handleLine {s : Session} (hw : s.writeFault = none) (line : List UInt8) :
    (s.handleLine line).flow = s.flow ∨ (s.handleLine line).flow = s.flow.stop ∨
      ∃ m, (s.handleLine line).flow = { s.flow with held := some m } := by
  cases hm : lineMessage? line with
  | none => exact .inl (by rw [handleLine_eq_self hm])
  | some m =>
    rw [handleLine_eq_handle hm, flow_handle hw]
    split
    · exact .inr (.inl rfl)
    · split
      · exact .inr (.inr ⟨m, rfl⟩)
      · exact .inl rfl

/-- Handling a line takes nothing from the queue and puts nothing into it, and it does not bring the
input to an end or back. -/
theorem queue_inputEnded_handleLine {s : Session} (hw : s.writeFault = none) (line : List UInt8) :
    (s.handleLine line).queue = s.queue ∧ (s.handleLine line).inputEnded = s.inputEnded := by
  rcases flow_handleLine hw line with h | h | ⟨m, h⟩
  all_goals
    have hqueue := congrArg Session.queue h
    have hended := congrArg Session.inputEnded h
    simp only [queue_flow, inputEnded_flow, stop] at hqueue hended
    exact ⟨hqueue, hended⟩

/-! ### The invariant -/

/-- How a session whose queue holds `capacity` commands stands to the bytes `heard` by it, the
commands `taken` from it, and the bytes `done` that its reader is done with. -/
structure InOrder (capacity : Nat) (heard : List UInt8) (taken : List Message) (done : List UInt8)
    (s : Session) : Prop where
  /-- No byte is lost. -/
  whole : heard = done ++ s.unread
  /-- No command is lost, repeated or overtaken. -/
  order : taken ++ s.queue ++ s.held.toList = inbound done
  /-- The reader stops at line ends only, and at the end of input. -/
  boundary : AtLineEnd done ∨ (s.inputEnded = true ∧ s.unread = [])
  /-- A session does not outlast a QUIT. -/
  running : s.stopped = false → ¬ Quits done
  /-- A session stops for QUIT or for the end of input, with nothing in hand. -/
  ended : s.stopped = true → s.held = none ∧ (Quits done ∨ (s.inputEnded = true ∧ s.unread = []))
  /-- The queue holds no more than it can. -/
  fits : s.queue.length ≤ capacity
  capacity_eq : s.capacity = capacity
  clientStays : s.clientGone = false
  consumerStays : s.abandoned = false

namespace InOrder

variable {capacity : Nat} {heard done : List UInt8} {taken : List Message} {s : Session}

theorem start (queueSize : Nat) :
    InOrder (max queueSize 1) [] [] [] (Session.start queueSize) where
  whole := rfl
  order := rfl
  boundary := .inl (.inl rfl)
  running := by simp [Quits, messages, byteLines]
  ended := by simp [Session.start]
  fits := Nat.zero_le _
  capacity_eq := rfl
  clientStays := rfl
  consumerStays := rfl

/-- Only the way of commands counts. -/
theorem of_flow {s' : Session} (h : InOrder capacity heard taken done s)
    (hflow : s'.flow = s.flow) : InOrder capacity heard taken done s' := by
  have hs : InOrder capacity heard taken done s.flow :=
    ⟨h.whole, h.order, h.boundary, h.running, h.ended, h.fits, h.capacity_eq, h.clientStays,
      h.consumerStays⟩
  rw [← hflow] at hs
  exact ⟨hs.whole, hs.order, hs.boundary, hs.running, hs.ended, hs.fits, hs.capacity_eq,
    hs.clientStays, hs.consumerStays⟩

theorem writeFault_eq_none (h : InOrder capacity heard taken done s) (hs : s.stopped = false) :
    s.writeFault = none := by
  simp [writeFault, hs, h.clientStays]

theorem receive (h : InOrder capacity heard taken done s) (bytes : List UInt8) :
    InOrder capacity (heard ++ (Move.receive bytes).heard s) taken done (s.receive bytes) := by
  unfold Session.receive Move.heard
  cases he : s.inputEnded with
  | true =>
    simp only [if_true]
    rw [List.append_nil]
    exact h
  | false =>
    -- an unfinished line is read, and a session stops without QUIT, only after the end of input
    have hopen : ¬ (s.inputEnded = true ∧ s.unread = []) := by simp [he]
    exact
      { h with
        whole := by rw [h.whole, List.append_assoc]; rfl
        boundary := .inl (h.boundary.resolve_right hopen)
        ended := fun hs => ⟨(h.ended hs).1, .inl ((h.ended hs).2.resolve_right hopen)⟩ }

theorem endInput (h : InOrder capacity heard taken done s) :
    InOrder capacity heard taken done s.endInput :=
  { h with
    boundary := h.boundary.imp_right fun hb => ⟨rfl, hb.2⟩
    ended := fun hs => (h.ended hs).imp_right (Or.imp_right fun hb => ⟨rfl, hb.2⟩) }

theorem take (h : InOrder capacity heard taken done s) :
    InOrder capacity heard (taken ++ Move.taken s .take) done s.take.2 := by
  rw [Move.taken_take, Session.take]
  cases hqueue : s.queue with
  | nil =>
    rw [List.head?_nil, Option.toList_none, List.append_nil]
    exact h
  | cons m rest =>
    have horder := h.order
    have hfits := h.fits
    rw [hqueue] at horder hfits
    exact
      { h with
        order := by simpa using horder
        fits := Nat.le_of_succ_le hfits }

/-- The reader goes on from one line end to the next. -/
theorem cut {line rest : List UInt8} (h : InOrder capacity heard taken done s)
    (hl : splitLine s.inputEnded s.unread = some (line, rest)) :
    heard = (done ++ line) ++ rest ∧ AtLineEnd done ∧ byteLines line = [line] ∧
      (AtLineEnd (done ++ line) ∨ (s.inputEnded = true ∧ rest = [])) := by
  obtain ⟨hunread, hline, hlast⟩ := splitLine_eq_some hl
  have hne : line ≠ [] := by
    rintro rfl
    simp [byteLines] at hline
  refine ⟨by rw [h.whole, hunread, List.append_assoc], ?_, hline, ?_⟩
  · refine h.boundary.resolve_right fun hb => ?_
    rw [hb.2] at hunread
    exact hne (List.append_eq_nil_iff.mp hunread.symm).1
  · exact hlast.imp_left fun hlf => .inr (by rw [List.getLast?_append_of_ne_nil _ hne, hlf])

/-- Without QUIT a line leaves the reader with the command in it, if there is one for the rest of
the gateway. -/
theorem hold {line rest : List UInt8} (h : InOrder capacity heard taken done s)
    (hs : s.stopped = false) (hheld : s.held = none)
    (hl : splitLine s.inputEnded s.unread = some (line, rest)) {held : Option Message}
    (hquiet : ¬ Quits line) (hcommand : inbound line = held.toList) :
    InOrder capacity heard taken (done ++ line) { s with unread := rest, held } := by
  obtain ⟨hwhole, hend, -, hboundary⟩ := h.cut hl
  have horder : taken ++ s.queue = inbound done := by simpa [hheld] using h.order
  exact
    { h with
      whole := hwhole
      order := by rw [inbound_append hend (h.running hs), hcommand, ← horder]
      boundary := hboundary
      running := fun _ hq => ((quits_append hend line).mp hq).elim (h.running hs) hquiet
      ended := fun hstop => by simp [hs] at hstop }

/-- A line that says QUIT leaves the session stopped. -/
theorem quit {line rest : List UInt8} (h : InOrder capacity heard taken done s)
    (hs : s.stopped = false) (hheld : s.held = none)
    (hl : splitLine s.inputEnded s.unread = some (line, rest)) (hquits : Quits line)
    (hnothing : inbound line = []) :
    InOrder capacity heard taken (done ++ line) ({ s with unread := rest } : Session).stop := by
  obtain ⟨hwhole, hend, -, hboundary⟩ := h.cut hl
  have horder : taken ++ s.queue ++ [] = inbound done := by simpa [hheld] using h.order
  exact
    { h with
      whole := hwhole
      order := by rw [inbound_append hend (h.running hs), hnothing, List.append_nil, ← horder]; rfl
      boundary := hboundary
      running := fun hrun => by simp [stop] at hrun
      ended := fun _ => ⟨rfl, .inl ((quits_append hend line).mpr (.inr hquits))⟩ }

/-- A line that was read joins the bytes that the reader is done with. -/
theorem readLine {line rest : List UInt8} (h : InOrder capacity heard taken done s)
    (hs : s.stopped = false) (hheld : s.held = none)
    (hl : splitLine s.inputEnded s.unread = some (line, rest)) :
    InOrder capacity heard taken (done ++ line) (handleLine { s with unread := rest } line) := by
  obtain ⟨-, -, hline, -⟩ := h.cut hl
  have hquits := quits_of_line hline
  have hpassed : ¬ Quits line → inbound line = [] →
      InOrder capacity heard taken (done ++ line) { s with unread := rest } := by
    intro hquiet hnothing
    rw [show ({ s with unread := rest } : Session) = { s with unread := rest, held := none } by
      rw [← hheld]]
    exact h.hold hs hheld hl hquiet hnothing
  cases hm : lineMessage? line with
  | none =>
    rw [handleLine_eq_self hm]
    exact hpassed (by simp [hquits, hm]) (inbound_of_line_none hline hm)
  | some m =>
    have hinbound := inbound_of_line_some hline hm
    have hfault : ({ s with unread := rest } : Session).writeFault = none :=
      h.writeFault_eq_none hs
    have hflow := flow_handle hfault m
    rw [handleLine_eq_handle hm]
    rw [hm] at hquits
    -- the client quits, or a command is held for the rest of the gateway, or it is answered here
    by_cases hquit : m.command = "QUIT"
    · rw [if_pos hquit] at hflow hinbound
      exact (h.quit hs hheld hl (hquits.mpr ⟨m, rfl, hquit⟩) hinbound).of_flow hflow
    · have hquiet : ¬ Quits line := by
        intro hq
        obtain ⟨m', hm', hquit'⟩ := hquits.mp hq
        exact hquit (Option.some.inj hm' ▸ hquit')
      rw [if_neg hquit] at hflow hinbound
      by_cases hf : isForwarded m = true
      · rw [if_pos hf] at hflow hinbound
        have hheld' : InOrder capacity heard taken (done ++ line)
            { s with unread := rest, held := some m } := h.hold hs hheld hl hquiet hinbound
        exact hheld'.of_flow hflow
      · rw [if_neg hf] at hflow hinbound
        exact (hpassed hquiet hinbound).of_flow hflow

/-- Each act of the reader keeps the order. -/
theorem read {s' : Session} (h : InOrder capacity heard taken done s) (hread : s.read = some s') :
    ∃ done', InOrder capacity heard taken done' s' := by
  obtain ⟨hs, hreads⟩ := reads hread
  cases hreads with
  | gaveUp _ ha => simp [h.consumerStays] at ha
  | queued hm _ hq =>
    -- the command goes from the reader's hand to the end of the queue
    rw [h.capacity_eq] at hq
    have horder := h.order
    rw [hm] at horder
    exact ⟨done,
      { h with
        order := by simpa using horder
        ended := fun hstop => by simp [hs] at hstop
        fits := by simpa using Nat.succ_le_of_lt hq }⟩
  | line hm hl => exact ⟨_, h.readLine hs hm hl⟩
  | ended hm hl he =>
    have hunread : s.unread = [] := (splitLine_eq_none hl).2 he
    exact ⟨done,
      { h with
        order := by simpa [stop, hm] using h.order
        running := fun hrun => by simp [stop] at hrun
        ended := fun _ => ⟨rfl, .inr ⟨he, hunread⟩⟩ }⟩

/-- **Every move keeps the order.** -/
theorem apply (h : InOrder capacity heard taken done s) {move : Move} (hu : move.Undisturbed) :
    ∃ done', InOrder capacity (heard ++ move.heard s) (taken ++ move.taken s) done'
      (move.apply s) := by
  have hsame : ∀ {done' : List UInt8} {s' : Session}, InOrder capacity heard taken done' s' →
      InOrder capacity (heard ++ []) (taken ++ []) done' s' := by
    intro done' s' hs'
    rwa [List.append_nil, List.append_nil]
  cases move with
  | receive bytes =>
    have hreceive := h.receive bytes
    rw [← List.append_nil taken] at hreceive
    exact ⟨done, hreceive⟩
  | endInput => exact ⟨done, hsame h.endInput⟩
  | read =>
    rw [Move.apply]
    cases hread : s.read with
    | none => exact ⟨done, hsame h⟩
    | some s' =>
      obtain ⟨done', h'⟩ := h.read hread
      exact ⟨done', hsame h'⟩
  | take =>
    have htake := h.take
    rw [← List.append_nil heard] at htake
    exact ⟨done, htake⟩
  | write time line => exact ⟨done, hsame (h.of_flow (flow_orUnchanged s time line))⟩
  -- the rest would disturb the session
  | dropClient => exact hu.elim
  | abandon => exact hu.elim
  | stop => exact hu.elim

/-- Every run keeps the order. -/
theorem run (h : InOrder capacity heard taken done s) {moves : List Move}
    (hu : ∀ move ∈ moves, move.Undisturbed) :
    ∃ done', InOrder capacity (heard ++ s.heard moves) (taken ++ s.taken moves) done'
      (s.run moves) := by
  induction moves generalizing s heard taken done with
  | nil => exact ⟨done, by simpa [Session.heard, Session.taken] using h⟩
  | cons move rest ih =>
    obtain ⟨done', hmove⟩ := h.apply (hu move (List.mem_cons_self ..))
    simpa [Session.heard, Session.taken] using
      ih hmove fun m hm => hu m (List.mem_cons_of_mem _ hm)

end InOrder

end IrcGateway.Session
