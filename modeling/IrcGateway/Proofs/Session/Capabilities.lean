import IrcGateway.Proofs.Protocol.Capabilities
import IrcGateway.Proofs.Protocol.Hearing
import IrcGateway.Proofs.Session.Registration

/-!
# What a client has negotiated

A client opens and closes negotiations as it likes, and asks for capabilities in any number of
requests. `Requests` says of one command which tokens it asks for. At every point of a run the list
that the session keeps is in ascending order and holds what was requested so far, and nothing else
(`Negotiated`). That a token counts only while a negotiation is open takes nothing away, since every
capability command opens one before it is looked at.

A request and LIST are answered by a line with that list. What is in it are tokens, whatever the
client wrote, so that the client can read its list off the answer
(`capabilities_are_what_was_asked`).
-/

namespace IrcGateway.Session

open IrcGateway.Protocol IrcGateway.Text IrcGateway.Time

/-! ### What a capability command does -/

/-- Which capability command it is: LS, LIST, REQ or END. -/
def subcommand (m : Message) : String :=
  upper (m.params.head?.getD "")

/-- The tokens behind the subcommand, as they are written. -/
def asked (m : Message) : List String :=
  if 1 < m.params.length then (words m.trailing.toList).map String.ofList else []

/-- The command asks for a capability: it is CAP REQ with a further parameter, and the token is a
word of the last one, in lower case. -/
def Requests (m : Message) (token : String) : Prop :=
  m.command = "CAP" ∧ subcommand m = "REQ" ∧ 1 < m.params.length ∧
    ∃ word ∈ words m.trailing.toList, token = lower (String.ofList word)

theorem isToken_of_mem_asked {m : Message} {t : String} (ht : t ∈ asked m) : IsToken t := by
  unfold asked at ht
  split at ht
  · exact isToken_of_mem_words ht
  · simp at ht

theorem requests_iff {m : Message} {token : String} : Requests m token ↔
    m.command = "CAP" ∧ subcommand m = "REQ" ∧ token ∈ (asked m).map lower := by
  unfold Requests asked
  by_cases hlength : 1 < m.params.length
  · simp [hlength, eq_comm]
  · simp [hlength]

theorem Requests.isToken {m : Message} {token : String} (h : Requests m token) :
    IsToken token := by
  obtain ⟨-, -, hmem⟩ := requests_iff.mp h
  obtain ⟨t, ht, rfl⟩ := List.mem_map.mp hmem
  exact (isToken_of_mem_asked ht).lower

theorem capabilities_orUnchanged (s : Session) (time : Stamp) (line : String) :
    (s.orUnchanged (s.write time line)).capabilities = s.capabilities := by
  obtain ⟨sent, h⟩ := exists_orUnchanged s time line
  rw [h]

theorem capabilities_settle (s : Session) : s.settle.capabilities = s.capabilities := by
  obtain ⟨password, h⟩ := exists_settle s
  rw [h]

/-- A request is taken, and acknowledged with the list as it then is. -/
theorem handleCapability_of_req (s : Session) {m : Message} (h : subcommand m = "REQ") :
    let s' := { s with capabilities := s.capabilities.start.addAll (asked m) }
    s.handleCapability m
      = s'.orUnchanged (s'.writeNow (Line.capabilities "ACK" s'.capabilities.tokens).text) := by
  unfold subcommand at h
  simp [handleCapability, asked, h]

theorem handleCapability_of_list (s : Session) {m : Message} (h : subcommand m = "LIST") :
    let s' := { s with capabilities := s.capabilities.start }
    s.handleCapability m
      = s'.orUnchanged (s'.writeNow (Line.capabilities "LIST" s'.capabilities.tokens).text) := by
  unfold subcommand at h
  simp [handleCapability, h]

/-- Every capability command opens a negotiation; a request is then taken, and END closes it. -/
theorem capabilities_handleCapability (s : Session) (m : Message) :
    (s.handleCapability m).capabilities =
      if subcommand m = "REQ" then s.capabilities.start.addAll (asked m)
      else if subcommand m = "END" then s.capabilities.start.finish
      else s.capabilities.start := by
  by_cases hreq : subcommand m = "REQ"
  · rw [if_pos hreq, handleCapability_of_req s hreq]
    exact capabilities_orUnchanged _ _ _
  · -- every CAP starts the negotiation, also one that is not known
    rw [if_neg hreq]
    unfold subcommand at hreq ⊢
    unfold handleCapability
    simp only [if_neg hreq]
    split
    · next h => simp [h, writeNow, capabilities_orUnchanged]
    split
    · next h => simp [h, writeNow, capabilities_orUnchanged]
    split
    · exact capabilities_settle _
    · rfl

/-- Only capability commands change the capabilities. -/
theorem Heeds.capabilities_eq {s s' : Session} {m : Message} (h : Heeds s m s')
    (hcap : m.command ≠ "CAP") : s'.capabilities = s.capabilities := by
  cases h with
  | nick => exact capabilities_settle _
  | user => exact capabilities_settle _
  | password =>
    obtain ⟨password, h⟩ := exists_setPassword s (passwordIn m)
    rw [h]
  | capability h => exact absurd h hcap
  | other => rfl

theorem capabilities_handle {s : Session} {m : Message} (hcap : m.command ≠ "CAP") :
    (s.handle m).capabilities = s.capabilities :=
  (heeds s m).capabilities_eq hcap

theorem handle_capability (s : Session) {m : Message} (hcap : m.command = "CAP") :
    s.handle m = s.handleCapability m := by
  unfold handle
  simp [hcap]

/-- **What one command adds** is what it asks for. -/
theorem mem_tokens_handle (s : Session) (m : Message) {token : String} :
    token ∈ (s.handle m).capabilities.tokens ↔
      token ∈ s.capabilities.tokens ∨ Requests m token := by
  rw [requests_iff]
  by_cases hcap : m.command = "CAP"
  · rw [handle_capability s hcap, capabilities_handleCapability]
    by_cases hreq : subcommand m = "REQ"
    · rw [if_pos hreq, Capabilities.mem_tokens_addAll rfl fun t ht => isToken_of_mem_asked ht]
      simp [hcap, hreq, Capabilities.start]
    · rw [if_neg hreq]
      split <;> simp [hreq, Capabilities.start, Capabilities.finish]
  · simp [capabilities_handle hcap, hcap]

theorem ascending_handle {s : Session} (h : s.capabilities.tokens.Pairwise (· < ·)) (m : Message) :
    (s.handle m).capabilities.tokens.Pairwise (· < ·) := by
  by_cases hcap : m.command = "CAP"
  · rw [handle_capability s hcap, capabilities_handleCapability]
    split
    · exact Capabilities.addAll_ascending (c := s.capabilities.start) h _
    · split <;> exact h
  · rwa [capabilities_handle hcap]

/-! ### The list along a run -/

/-- The list stands as the commands so far say. -/
structure Negotiated (said : List Message) (s : Session) : Prop where
  ascending : s.capabilities.tokens.Pairwise (· < ·)
  mem : ∀ token, token ∈ s.capabilities.tokens ↔ ∃ m ∈ said, Requests m token

namespace Negotiated

variable {said : List Message} {s : Session}

theorem start (queueSize : Nat) : Negotiated [] (Session.start queueSize) where
  ascending := List.Pairwise.nil
  mem := by simp [Session.start]

theorem isToken (h : Negotiated said s) {token : String} (ht : token ∈ s.capabilities.tokens) :
    IsToken token := by
  obtain ⟨m, -, hm⟩ := (h.mem token).mp ht
  exact hm.isToken

/-- Every move keeps the list in step with what was said. -/
theorem apply (h : Negotiated said s) (move : Move) :
    Negotiated (said ++ move.said s) (move.apply s) := by
  rcases said_cases s move with ⟨hsaid, -, -, hsame, -⟩ | ⟨line, rest, m, -, -, -, hsaid, happly⟩
  · rw [hsaid, List.append_nil]
    exact ⟨hsame ▸ h.ascending, hsame ▸ h.mem⟩
  · rw [hsaid, happly]
    refine ⟨ascending_handle (s := { s with unread := rest }) h.ascending m, fun token => ?_⟩
    rw [mem_tokens_handle, h.mem]
    simp [or_and_right, exists_or]

theorem run (h : Negotiated said s) (moves : List Move) :
    Negotiated (said ++ Session.said s moves) (s.run moves) := by
  induction moves generalizing said s with
  | nil =>
    rw [Session.said, List.append_nil]
    exact h
  | cons move rest ih =>
    rw [Session.said, ← List.append_assoc, run_cons]
    exact ih (h.apply move)

end Negotiated

/-! ### The answers -/

theorem sent_orUnchanged {s : Session} (hs : s.stopped = false) (time : Stamp) (line : String) :
    (s.orUnchanged (s.write time line)).sent
      = s.sent ++ if s.clientGone then [] else [s.tagged time line] := by
  unfold orUnchanged write writeFault
  cases s.clientGone <;> simp [hs]

/-- **A request and LIST are answered** with the list as it then is. -/
theorem exists_answer {s : Session} (hs : s.stopped = false) {m : Message}
    (hcap : m.command = "CAP") (hsub : subcommand m = "REQ" ∨ subcommand m = "LIST") :
    ∃ name ∈ ["ACK", "LIST"], (s.handle m).sent = s.sent ++ if s.clientGone then [] else
      [(s.handle m).tagged .clock
        (Line.capabilities name (s.handle m).capabilities.tokens).text] := by
  -- the answer is made up, and tagged, with what has been negotiated by then
  have hwritten : ∀ (capabilities : Capabilities) (line : String),
      ({ s with capabilities }.orUnchanged ({ s with capabilities }.write .clock line)).sent
        = s.sent ++ if s.clientGone then [] else [{ s with capabilities }.tagged .clock line] :=
    fun capabilities => sent_orUnchanged (s := { s with capabilities }) hs .clock
  rw [handle_capability s hcap]
  rcases hsub with hreq | hlist
  · refine ⟨"ACK", by decide, ?_⟩
    rw [Session.tagged, capabilities_handleCapability, if_pos hreq, handleCapability_of_req s hreq]
    exact hwritten _ _
  · have hreq : subcommand m ≠ "REQ" := by simp [hlist]
    have hend : subcommand m ≠ "END" := by simp [hlist]
    refine ⟨"LIST", by decide, ?_⟩
    rw [Session.tagged, capabilities_handleCapability, if_neg hreq, if_neg hend,
      handleCapability_of_list s hlist]
    exact hwritten _ _

/-- A line with a list of tokens is read as a message with these words. -/
theorem exists_received_capabilities (s : Session) {name : String} (hname : name ∈ ["ACK", "LIST"])
    {tokens : List String} (htokens : ∀ t ∈ tokens, IsToken t) (clock : Int) :
    ∃ read, received (momentText clock) [s.tagged .clock (Line.capabilities name tokens).text]
        = [.ok read] ∧
      read.command = "CAP" ∧ (words read.trailing.toList).map String.ofList = tokens := by
  have hword : IsWord name ∧ OneLine name := by
    rcases List.mem_pair.mp hname with rfl | rfl <;>
      exact ⟨⟨by decide, by decide, by decide⟩, by decide⟩
  have hline : OneLine (Line.capabilities name tokens).text := by
    rw [Line.oneLine_text_iff, Line.parts, List.forall_mem_cons]
    exact ⟨hword.2, fun t ht => (htokens t ht).oneLine⟩
  let read := (capabilityMessage name tokens).withTags (dateTags s .clock (momentText clock))
  refine ⟨read, ?_, rfl, words_spaced htokens⟩
  rw [received_tagged hline, Line.parse_capabilities hword.1 htokens]
  rfl

/-- **What a client has negotiated.** At every point of a run of a session, the list of capabilities
is in strictly ascending order, and its tokens are the words, in lower case, of the last parameters
of all requests so far. Nothing is ever taken from it. A negotiation is open exactly if the last
capability command is there and was not END, and a capability counts as negotiated exactly if it is
in the list in lower case. A request or LIST is answered by one line, unless the client is gone, and
who reads that line finds in its last parameter the words of the list, whether there are many of
them, one or none. -/
theorem capabilities_are_what_was_asked (queueSize : Nat) (moves : List Move) :
    let first := start queueSize
    let s := run first moves
    let said := said first moves
    s.capabilities.tokens.Pairwise (· < ·) ∧
    (∀ token, token ∈ s.capabilities.tokens ↔ ∃ m ∈ said, m.command = "CAP" ∧
      upper (m.params.head?.getD "") = "REQ" ∧ 1 < m.params.length ∧
      ∃ word ∈ words m.trailing.toList, token = lower (String.ofList word)) ∧
    (∀ more, s.capabilities.tokens ⊆ (run s more).capabilities.tokens) ∧
    (s.capabilities.negotiating = true ↔ Negotiates said) ∧
    (∀ token, s.capabilities.has token = true ↔ lower token ∈ s.capabilities.tokens) ∧
    (∀ m, Move.said s .read = [m] → m.command = "CAP" →
      upper (m.params.head?.getD "") = "REQ" ∨ upper (m.params.head?.getD "") = "LIST" →
      let s' := Move.apply s .read
      ∃ answer : Sent, s'.sent = s.sent ++ (if s.clientGone then [] else [answer]) ∧
        ∀ clock, ∃ read, received (momentText clock) [answer] = [.ok read] ∧
          read.command = "CAP" ∧
          (words read.trailing.toList).map String.ofList = s'.capabilities.tokens) := by
  intro first s said
  have h : Negotiated said s := (Negotiated.start queueSize).run moves
  have hregistered : Registered said s := (Registered.start queueSize).run moves
  refine ⟨h.ascending, h.mem, ?stays, hregistered.negotiating, fun _ => List.contains_iff_mem,
    ?answered⟩
  case stays =>
    -- what was requested so far has been requested later
    intro more token htoken
    have hmore : Negotiated (said ++ Session.said s more) (run s more) := h.run more
    obtain ⟨m, hm, hrequests⟩ := (h.mem token).mp htoken
    exact (hmore.mem token).mpr ⟨m, List.mem_append_left _ hm, hrequests⟩
  case answered =>
    intro m hsaid hcap hsub s'
    have hs' : Negotiated (said ++ Move.said s .read) s' := h.apply .read
    rcases said_cases s .read with ⟨hnone, -⟩ | ⟨line, rest, m', -, -, hrun, hsaid', happly⟩
    · simp [hsaid] at hnone
    · obtain rfl : m = m' := by simpa [hsaid] using hsaid'
      obtain ⟨name, hname, hsent⟩ :=
        exists_answer (s := { s with unread := rest }) hrun hcap hsub
      refine ⟨_, ?_, exists_received_capabilities s' hname fun t ht => hs'.isToken ht⟩
      rw [← happly] at hsent
      exact hsent

/-- A client asks for a capability in capitals and for one twice, after it has listed what there is.
It is told both in small letters and in order. -/
theorem echo_and_dates_are_acknowledged :
    let say := fun text : String => Move.receive (text.toList.map fun c => c.toNat.toUInt8)
    let moves := [say "CAP LS\r\nCAP REQ :Server-Time  echo SERVER-TIME\r\n", .read]
    let request : Message :=
      { command := "CAP", params := ["REQ", "Server-Time  echo SERVER-TIME"] }
    let s := run (start 1) moves
    let s' := Move.apply s .read
    Move.said s .read = [request] ∧ s'.capabilities.tokens = ["echo", "server-time"] ∧
      ∃ answer : Sent, s'.sent = s.sent ++ [answer] ∧
        ∀ clock, ∃ read, received (momentText clock) [answer] = [.ok read] ∧
          read.command = "CAP" ∧
          (words read.trailing.toList).map String.ofList = ["echo", "server-time"] := by
  intro say moves request
  have hsaid : Move.said (run (start 1) moves) .read = [request] := by decide +kernel
  have htokens : (Move.apply (run (start 1) moves) .read).capabilities.tokens
      = ["echo", "server-time"] := by decide +kernel
  have hstays : ¬ (run (start 1) moves).clientGone = true := by decide +kernel
  obtain ⟨answer, hsent, hread⟩ :=
    (capabilities_are_what_was_asked 1 moves).2.2.2.2.2 request hsaid rfl (.inl (by decide))
  rw [if_neg hstays] at hsent
  refine ⟨hsaid, htokens, answer, hsent, fun clock => ?_⟩
  obtain ⟨read, hreceived, hcommand, hwords⟩ := hread clock
  exact ⟨read, hreceived, hcommand, hwords.trans htokens⟩

end IrcGateway.Session
