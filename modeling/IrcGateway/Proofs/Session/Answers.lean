import IrcGateway.Proofs.Session.Run

/-!
# What the reader answers by itself

The reader answers PING and CAP without the rest of the gateway. All that a client is told beyond
these answers is the `talk` of its session; no act of the reader adds to it (`talk_read`), and every
line that another party writes does, if it is no answer itself (`talk_write`).
-/

namespace IrcGateway.Session

open IrcGateway.Protocol IrcGateway.Time

/-- How an answer of the server to a command begins. -/
def answerHead (command : String) : List Char :=
  (":" ++ serverName ++ " " ++ command ++ " ").toList

/-- The line is an answer to PING or CAP. -/
def isAnswer (line : String) : Bool :=
  (answerHead "PONG").isPrefixOf line.toList || (answerHead "CAP").isPrefixOf line.toList

theorem isAnswer_pong (token : String) : isAnswer (Line.pong token).text = true := by
  have h : answerHead "PONG" <+: (Line.pong token).text.toList := by
    simp only [Line.text, String.toList_append]
    exact ⟨serverName.toList ++ (" :".toList ++ token.toList), by simp [answerHead]⟩
  simp [isAnswer, List.isPrefixOf_iff_prefix.mpr h]

theorem isAnswer_capabilities (subcommand : String) (tokens : List String) :
    isAnswer (Line.capabilities subcommand tokens).text = true := by
  have h : answerHead "CAP" <+: (Line.capabilities subcommand tokens).text.toList := by
    simp only [Line.text, String.toList_append]
    exact ⟨"* ".toList ++ (subcommand.toList ++ (" :".toList ++ (" ".intercalate tokens).toList)),
      by simp [answerHead]⟩
  simp [isAnswer, List.isPrefixOf_iff_prefix.mpr h]

/-- All that the client was told, the answers of the reader apart. -/
def talk (s : Session) : List String :=
  (s.sent.map (·.line)).filter fun line => !isAnswer line

theorem talk_eq_of_sent {s s' : Session} (h : s'.sent = s.sent) : s'.talk = s.talk := by
  rw [talk, talk, h]

/-- The gateway's own notices are no answers. -/
theorem isAnswer_status (nick body : String) :
    isAnswer (Line.privmsg statusNick nick body).text = false := by
  simp [isAnswer, Line.text, Line.spoken, Message.format, paramsText, answerHead, serverName,
    statusNick, List.isPrefixOf]

section Write

variable {s s' : Session} {time : Stamp} {line : String}

theorem talk_write (h : s.write time line = .ok s') :
    s'.talk = s.talk ++ if isAnswer line then [] else [line] := by
  rw [sent_of_write h]
  cases ha : isAnswer line <;> simp [talk, tagged, ha]

theorem talk_orUnchanged (s : Session) (time : Stamp) (line : String) :
    (s.orUnchanged (s.write time line)).talk
      = s.talk ++ if s.writeFault.isSome || isAnswer line then [] else [line] := by
  cases hfault : s.writeFault with
  | none =>
    have hw := write_of_up hfault time line
    rw [hw, orUnchanged, talk_write hw, Option.isSome_none, Bool.false_or]
  | some e => simp [write_of_fault hfault, orUnchanged]

theorem talk_answer (s : Session) (ha : isAnswer line = true) (time : Stamp) :
    (s.orUnchanged (s.write time line)).talk = s.talk := by
  simp [talk_orUnchanged, ha]

end Write

/-! ### The reader -/

theorem talk_handleCapability (s : Session) (m : Message) :
    (s.handleCapability m).talk = s.talk := by
  have hanswer : ∀ (s' : Session) subcommand tokens, s'.sent = s.sent →
      (s'.orUnchanged (s'.writeNow (Line.capabilities subcommand tokens).text)).talk = s.talk := by
    intro s' subcommand tokens hsent
    rw [writeNow, talk_answer s' (isAnswer_capabilities subcommand tokens), talk_eq_of_sent hsent]
  -- LS, LIST and REQ are answered, END may settle the password
  unfold handleCapability
  simp only
  split
  · exact hanswer _ _ _ rfl
  split
  · exact hanswer _ _ _ rfl
  split
  · exact hanswer _ _ _ rfl
  split
  · obtain ⟨password, h⟩ := exists_settle { s with capabilities := s.capabilities.start.finish }
    rw [h]
    rfl
  · rfl

theorem talk_handle (s : Session) (m : Message) : (s.handle m).talk = s.talk := by
  -- PONG is an answer, CAP is answered too, and no other command is told anything here
  unfold handle
  split
  · split
    · next h => simp [talk_write h, isAnswer_pong]
    · rfl
  split
  · rfl
  split
  · split
    · next nick more _ =>
      obtain ⟨password, h⟩ := exists_settle { s with nick, nickChanges := s.nickChanges + 1 }
      rw [h]
      rfl
    · rfl
  split
  · obtain ⟨password, h⟩ := exists_settle { s with userSeen := true }
    rw [h]
    rfl
  split
  · obtain ⟨password, h⟩ := exists_setPassword s (m.params.head?.getD "")
    rw [h]
    rfl
  split
  · exact talk_handleCapability s m
  · rfl

/-- **The reader tells the client nothing beyond its answers.** -/
theorem talk_read (s : Session) : (Move.apply s .read).talk = s.talk := by
  rw [Move.apply]
  cases hread : s.read with
  | none => rfl
  | some s' =>
    rw [Option.getD_some]
    cases (reads hread).2 with
    | gaveUp => rfl
    | queued => rfl
    | @line line rest =>
      unfold handleLine
      split
      · exact talk_handle _ _
      · rfl
    | ended => rfl

/-- Only a line that is written adds to what the client is told. -/
theorem talk_move (s : Session) {move : Move} (h : ∀ time line, move ≠ .write time line) :
    (move.apply s).talk = s.talk := by
  cases move with
  | receive bytes =>
    rw [Move.apply, receive]
    split <;> rfl
  | read => exact talk_read s
  | take =>
    rw [Move.apply, take]
    cases s.queue <;> rfl
  | write time line => exact absurd rfl (h time line)
  | _ => rfl

/-- A line that is told stays told. -/
theorem talk_prefix_run (s : Session) (moves : List Move) : s.talk <+: (s.run moves).talk := by
  induction moves generalizing s with
  | nil => exact List.prefix_rfl
  | cons move rest ih =>
    refine List.IsPrefix.trans ?_ (ih (move.apply s))
    by_cases hw : ∃ time line, move = .write time line
    · obtain ⟨time, line, rfl⟩ := hw
      rw [Move.apply, talk_orUnchanged]
      exact List.prefix_append _ _
    · have hsame := talk_move s fun time line h => hw ⟨time, line, h⟩
      exact hsame ▸ List.prefix_rfl

theorem stopped_move {s : Session} (h : s.stopped = true) (move : Move) :
    (move.apply s).stopped = true := by
  cases move with
  | receive bytes =>
    rw [Move.apply, receive]
    split <;> exact h
  | read => simp [Move.apply, read, h]
  | take =>
    rw [Move.apply, take]
    cases s.queue <;> exact h
  | write time line =>
    rw [Move.apply, write_stopped h]
    exact h
  | stop => rfl
  | _ => exact h

theorem stopped_run {s : Session} (h : s.stopped = true) (moves : List Move) :
    (s.run moves).stopped = true := by
  induction moves generalizing s with
  | nil => exact h
  | cons move rest ih => exact ih (stopped_move h move)

/-- The end of input stays, once the session has stopped. -/
theorem inputEnded_move {s : Session} (hs : s.stopped = true) (he : s.inputEnded = true)
    (move : Move) : (move.apply s).inputEnded = true := by
  cases move with
  | receive bytes => simp [Move.apply, receive, he]
  | read => simpa [Move.apply, read, hs] using he
  | take =>
    rw [Move.apply, take]
    cases s.queue <;> exact he
  | write time line =>
    rw [Move.apply, write_stopped hs]
    exact he
  | _ => first | exact he | rfl

theorem inputEnded_run_of_stopped {s : Session} (hs : s.stopped = true) (he : s.inputEnded = true)
    (moves : List Move) : (s.run moves).inputEnded = true := by
  induction moves generalizing s with
  | nil => exact he
  | cons move rest ih => exact ih (stopped_move hs move) (inputEnded_move hs he move)

end IrcGateway.Session
