import IrcGateway.Proofs.Session.Capabilities
import IrcGateway.Proofs.Text.Utf8

/-!
# Requests in two forms

Tokens can be written behind `CAP REQ` in one parameter, which a colon marks, or each in a parameter
of its own. The reader takes its tokens from the last parameter alone, so that the first form asks
for all of them and the second for the last one only (`requests_in_two_forms`). For one token there
is no difference, which is how both forms come to be in use.

The lines are taken as the bytes that a client sends.
-/

namespace IrcGateway.Session

open IrcGateway.Protocol IrcGateway.Text IrcGateway.Time

/-- The line of a request, its tokens in one parameter. -/
def requestTogether (tokens : List String) : String :=
  "CAP REQ :" ++ " ".intercalate tokens ++ "\r\n"

/-- The line of a request, each token in a parameter of its own. -/
def requestApart (tokens : List String) : String :=
  "CAP REQ " ++ " ".intercalate tokens ++ "\r\n"

/-- A line of text is handled as the message that it is. -/
theorem handleLine_encode {s : Session} {line : String} {m : Message}
    (h : Message.parse line = .ok m) : s.handleLine (Utf8.encode line.toList) = s.handle m := by
  rw [handleLine, Utf8.decodeLossy_encode, String.ofList_toList, h]

/-- What a request for some tokens makes of a session. -/
def request (s : Session) (tokens : List String) : Session :=
  let s' := { s with capabilities := s.capabilities.start.addAll tokens }
  s'.orUnchanged (s'.writeNow (Line.capabilities "ACK" s'.capabilities.tokens).text)

theorem handle_request (s : Session) {tokens params : List String}
    (hasked : asked { command := "CAP", params := "REQ" :: params } = tokens) :
    s.handle { command := "CAP", params := "REQ" :: params } = s.request tokens := by
  have hreq : subcommand { command := "CAP", params := "REQ" :: params } = "REQ" := by
    change upper "REQ" = "REQ"
    decide
  rw [handle_capability s rfl, handleCapability_of_req s hreq, hasked]
  rfl

section Forms

variable {tokens : List String} (s : Session)

/-- In one parameter all tokens are asked for. -/
theorem handleLine_requestTogether (htokens : ∀ t ∈ tokens, IsToken t) :
    s.handleLine (Utf8.encode (requestTogether tokens).toList) = s.request tokens := by
  rw [requestTogether, handleLine_encode (parse_request_together htokens), handle_request]
  exact words_spaced htokens

/-- In parameters of their own only the last one is. -/
theorem handleLine_requestApart (hne : tokens ≠ [])
    (htokens : ∀ t ∈ tokens, IsToken t ∧ t.toList.head? ≠ some ':') :
    s.handleLine (Utf8.encode (requestApart tokens).toList)
      = s.request [tokens.getLast hne] := by
  rw [requestApart, handleLine_encode (parse_request_apart hne htokens), handle_request]
  have hlast : ∀ t ∈ [tokens.getLast hne], IsToken t := by
    simpa using (htokens _ (List.getLast_mem hne)).1
  have htrailing :
      Message.trailing { command := "CAP", params := "REQ" :: tokens } = tokens.getLast hne := by
    simp [Message.trailing, List.getLast?_cons, List.getLast?_eq_some_getLast hne]
  have hmore : 1 < ("REQ" :: tokens).length := by
    simpa using List.length_pos_iff.mpr hne
  rw [asked, if_pos hmore, htrailing]
  simpa using words_spaced hlast

end Forms

theorem capabilities_request (s : Session) (tokens : List String) :
    (s.request tokens).capabilities = s.capabilities.start.addAll tokens :=
  capabilities_orUnchanged _ _ _

theorem mem_tokens_request (s : Session) {tokens : List String} (htokens : ∀ t ∈ tokens, IsToken t)
    {x : String} : x ∈ (s.request tokens).capabilities.tokens ↔
      x ∈ s.capabilities.tokens ∨ x ∈ tokens.map lower := by
  rw [capabilities_request]
  exact Capabilities.mem_tokens_addAll rfl htokens

/-- Requests that leave the same tokens leave the same session. -/
theorem request_eq_of_mem_iff {s : Session} (hs : s.capabilities.tokens.Pairwise (· < ·))
    {tokens others : List String}
    (hmem : ∀ x, x ∈ (s.request tokens).capabilities.tokens ↔
      x ∈ (s.request others).capabilities.tokens) : s.request tokens = s.request others := by
  have hascending : ∀ ts, (s.capabilities.start.addAll ts).tokens.Pairwise (· < ·) :=
    Capabilities.addAll_ascending (c := s.capabilities.start) hs
  simp only [capabilities_request] at hmem
  have hsame : s.capabilities.start.addAll tokens = s.capabilities.start.addAll others :=
    Capabilities.eq_of_mem_iff (hascending _) (hascending _) (by simp) hmem
  rw [request, request, hsame]

theorem sent_request {s : Session} (hs : s.stopped = false) (tokens : List String) :
    let s' := s.request tokens
    s'.sent = s.sent ++ if s.clientGone then []
      else [s'.tagged .clock (Line.capabilities "ACK" s'.capabilities.tokens).text] := by
  intro s'
  rw [Session.tagged, show s'.capabilities = _ from capabilities_request s tokens]
  exact sent_orUnchanged (s := { s with capabilities := s.capabilities.start.addAll tokens }) hs
    .clock _

/-- **A request in two forms.** Tokens in one parameter are all taken, in lower case. Of tokens in
parameters of their own only the last one is. Either way the client is told the list as it then is.
So the two forms do the same exactly if every token is there already or is the last one, up to the
case of letters. -/
theorem requests_in_two_forms (queueSize : Nat) (moves : List Move) (tokens : List String)
    (hne : tokens ≠ []) (htokens : ∀ t ∈ tokens, IsToken t ∧ t.toList.head? ≠ some ':') :
    let s := run (start queueSize) moves
    let together := s.handleLine (Utf8.encode (requestTogether tokens).toList)
    let apart := s.handleLine (Utf8.encode (requestApart tokens).toList)
    (∀ x, x ∈ together.capabilities.tokens ↔
      x ∈ s.capabilities.tokens ∨ x ∈ tokens.map lower) ∧
    (∀ x, x ∈ apart.capabilities.tokens ↔
      x ∈ s.capabilities.tokens ∨ x = lower (tokens.getLast hne)) ∧
    (s.stopped = false → ∀ s' ∈ [together, apart], s'.sent = s.sent ++ if s.clientGone then []
      else [s'.tagged .clock (Line.capabilities "ACK" s'.capabilities.tokens).text]) ∧
    (together = apart ↔
      ∀ t ∈ tokens, lower t ∈ s.capabilities.tokens ∨ lower t = lower (tokens.getLast hne)) := by
  intro s together apart
  have hbare : ∀ t ∈ tokens, IsToken t := fun t ht => (htokens t ht).1
  have hlast : ∀ t ∈ [tokens.getLast hne], IsToken t := by
    simpa using hbare _ (List.getLast_mem hne)
  have htogether : together = s.request tokens := handleLine_requestTogether s hbare
  have hapart : apart = s.request [tokens.getLast hne] := handleLine_requestApart s hne htokens
  have hs : Negotiated _ s := (Negotiated.start queueSize).run moves
  -- from here on only that both are requests counts
  clear_value together apart s
  have hall : ∀ x, x ∈ together.capabilities.tokens ↔
      x ∈ s.capabilities.tokens ∨ x ∈ tokens.map lower := by
    intro x
    rw [htogether, mem_tokens_request s hbare]
  have hone : ∀ x, x ∈ apart.capabilities.tokens ↔
      x ∈ s.capabilities.tokens ∨ x = lower (tokens.getLast hne) := by
    intro x
    rw [hapart, mem_tokens_request s hlast, List.map_singleton, List.mem_singleton]
  refine ⟨hall, hone, ?told, ?same, ?conversely⟩
  case told =>
    intro hrun s' hs'
    rcases List.mem_pair.mp hs' with rfl | rfl
    · exact htogether ▸ sent_request hrun tokens
    · exact hapart ▸ sent_request hrun _
  case same =>
    -- what is asked for together is there, hence there apart
    intro heq t ht
    have hmem : lower t ∈ together.capabilities.tokens :=
      (hall _).mpr (.inr (List.mem_map_of_mem ht))
    rw [heq] at hmem
    exact (hone _).mp hmem
  case conversely =>
    -- the same tokens in the same order are the same session
    intro hthere
    have hmem : ∀ x, x ∈ together.capabilities.tokens ↔ x ∈ apart.capabilities.tokens := by
      intro x
      rw [hall, hone]
      constructor
      · rintro (hx | hx)
        · exact .inl hx
        · obtain ⟨t, ht, rfl⟩ := List.mem_map.mp hx
          exact hthere t ht
      · rintro (hx | rfl)
        · exact .inl hx
        · exact .inr (List.mem_map_of_mem (List.getLast_mem hne))
    rw [htogether, hapart] at hmem ⊢
    exact request_eq_of_mem_iff hs.ascending hmem

/-- A single token is taken in either form. -/
theorem one_token_in_two_forms :
    let s := start 10
    s.handleLine (Utf8.encode (requestTogether ["Server-Time"]).toList)
      = s.handleLine (Utf8.encode (requestApart ["Server-Time"]).toList) := by
  intro s
  have htoken : ∀ t ∈ ["Server-Time"], IsToken t ∧ t.toList.head? ≠ some ':' := by
    rw [List.forall_mem_singleton]
    exact ⟨by decide, by decide⟩
  have hforms := requests_in_two_forms 10 [] ["Server-Time"] (by decide) htoken
  exact hforms.2.2.2.mpr (by simp)

/-- **Two tokens in parameters of their own.** All that the gateway offers is asked for at once, and
dates are neither taken nor acknowledged. -/
theorem dates_are_not_taken_apart :
    let s := start 10
    let tokens := ["server-time", "whapp-irc/replay"]
    let together := s.handleLine (Utf8.encode (requestTogether tokens).toList)
    let apart := s.handleLine (Utf8.encode (requestApart tokens).toList)
    together.capabilities.tokens = tokens ∧ apart.capabilities.tokens = ["whapp-irc/replay"] ∧
      apart.capabilities.has serverTime = false ∧
      apart.sent = [⟨none, ":whapp-irc CAP * ACK :whapp-irc/replay"⟩] := by
  decide +kernel

end IrcGateway.Session
