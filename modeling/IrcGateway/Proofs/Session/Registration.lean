import IrcGateway.Proofs.Session.Nick

/-!
# When the password is settled

A client registers with NICK, USER, PASS and CAP, in any order and as often as it likes. Its
password is settled by PASS, or without one as soon as it has a nick, has sent USER and has no
negotiation open. `Complete` says this of the commands of a client, without regard to how a session
keeps track of them, and `registration_settles` says that the session's password is settled exactly
then.

The difficulty is that whether a client is registered is looked at only behind three commands, while
five pieces of what the session remembers have a part in it. The invariant is `Registered`: the
nick, USER and the negotiation stand as the commands so far say, and a password is there as soon as
they are complete. No command makes them complete behind which the session does not look
(`password_handle`).
-/

namespace IrcGateway.Session

open IrcGateway.Protocol IrcGateway.Text IrcGateway.Time

/-! ### What a client has said -/

/-- The command that the reader handles with a move. -/
def Move.said (s : Session) : Move → List Message
  | read =>
    if s.stopped || s.held.isSome then []
    else
      match splitLine s.inputEnded s.unread with
      | some (line, _) => (lineMessage? line).toList
      | none => []
  | _ => []

/-- The commands that the reader handles along a run. -/
def said (s : Session) : List Move → List Message
  | [] => []
  | move :: rest => move.said s ++ said (move.apply s) rest

theorem said_append (s : Session) (moves more : List Move) :
    said s (moves ++ more) = said s moves ++ said (run s moves) more := by
  induction moves generalizing s with
  | nil => rfl
  | cons move rest ih => simp [said, ih]

theorem Move.said_eq_nil {move : Move} (h : move ≠ .read) (s : Session) : move.said s = [] := by
  cases move with
  | read => exact absurd rfl h
  | _ => rfl

/-- The nick that a client has after some commands: what the last NICK says that says one. -/
def nickOf (said : List Message) : String :=
  (said.filterMap fun m => if m.command = "NICK" then m.params.head? else none).getLast?.getD ""

/-- The first parameter of a PASS, which may have none. -/
def passwordIn (m : Message) : String :=
  m.params.head?.getD ""

/-- A negotiation is open: the last CAP is not CAP END. -/
def Negotiates (said : List Message) : Prop :=
  ∃ m, (said.filter fun m => m.command = "CAP").getLast? = some m ∧
    upper (m.params.head?.getD "") ≠ "END"

/-- The client has a nick, has sent USER, and has no negotiation open. -/
def Complete (said : List Message) : Prop :=
  nickOf said ≠ "" ∧ (∃ m ∈ said, m.command = "USER") ∧ ¬ Negotiates said

/-- PASS was sent, or the commands were complete at some point so far. -/
def Settled (said : List Message) : Prop :=
  (∃ m ∈ said, m.command = "PASS") ∨ ∃ before, before <+: said ∧ Complete before

/-- The password is given with `m`: it is the first PASS, and the commands were not complete at any
point before. -/
def GivesPassword (said : List Message) (m : Message) : Prop :=
  ∃ before after, said = before ++ m :: after ∧ m.command = "PASS" ∧ ¬ Settled before

section Snoc

variable (said : List Message) (m : Message)

theorem nickOf_concat :
    nickOf (said ++ [m])
      = if m.command = "NICK" then m.params.head?.getD (nickOf said) else nickOf said := by
  unfold nickOf
  rw [List.filterMap_append]
  by_cases h : m.command = "NICK"
  · cases hp : m.params <;> simp [h, hp]
  · simp [h]

theorem exists_user_concat :
    (∃ x ∈ said ++ [m], x.command = "USER") ↔
      (∃ x ∈ said, x.command = "USER") ∨ m.command = "USER" := by
  simp [or_and_right, exists_or]

theorem negotiates_concat :
    Negotiates (said ++ [m]) ↔
      if m.command = "CAP" then upper (m.params.head?.getD "") ≠ "END" else Negotiates said := by
  unfold Negotiates
  rw [List.filter_append]
  by_cases h : m.command = "CAP" <;> simp [h]

theorem settled_concat :
    Settled (said ++ [m]) ↔ Settled said ∨ m.command = "PASS" ∨ Complete (said ++ [m]) := by
  unfold Settled
  simp only [List.prefix_concat_iff, List.mem_append, List.mem_singleton]
  constructor
  · rintro (⟨x, hx | rfl, hpass⟩ | ⟨before, rfl | hb, hc⟩)
    · exact .inl (.inl ⟨x, hx, hpass⟩)
    · exact .inr (.inl hpass)
    · exact .inr (.inr hc)
    · exact .inl (.inr ⟨before, hb, hc⟩)
  · rintro ((⟨x, hx, hpass⟩ | ⟨before, hb, hc⟩) | hpass | hc)
    · exact .inl ⟨x, .inl hx, hpass⟩
    · exact .inr ⟨before, .inr hb, hc⟩
    · exact .inl ⟨m, .inr rfl, hpass⟩
    · exact .inr ⟨_, .inl rfl, hc⟩

end Snoc

theorem GivesPassword.settled {said : List Message} {m : Message} (h : GivesPassword said m) :
    Settled said := by
  obtain ⟨before, after, rfl, hpass, -⟩ := h
  exact .inl ⟨m, by simp, hpass⟩

/-- Only a PASS that comes while nothing is settled gives the password. -/
theorem givesPassword_concat {said : List Message} {m x : Message} :
    GivesPassword (said ++ [x]) m ↔
      GivesPassword said m ∨ (m = x ∧ x.command = "PASS" ∧ ¬ Settled said) := by
  constructor
  · rintro ⟨before, after, hsplit, hpass, hopen⟩
    rcases List.eq_nil_or_concat after with rfl | ⟨front, last, rfl⟩
    · obtain ⟨rfl, hx⟩ := List.append_inj' hsplit rfl
      obtain rfl := List.singleton_inj.mp hx
      exact .inr ⟨rfl, hpass, hopen⟩
    · rw [List.concat_eq_append, ← List.cons_append, ← List.append_assoc] at hsplit
      obtain ⟨rfl, -⟩ := List.append_inj' hsplit rfl
      exact .inl ⟨before, front, rfl, hpass, hopen⟩
  · rintro (⟨before, after, rfl, hpass, hopen⟩ | ⟨rfl, hpass, hopen⟩)
    · exact ⟨before, after ++ [x], by simp, hpass, hopen⟩
    · exact ⟨said, [], rfl, hpass, hopen⟩

theorem Settled.append {said : List Message} (h : Settled said) (more : List Message) :
    Settled (said ++ more) := by
  rcases h with ⟨m, hm, hpass⟩ | ⟨before, hb, hc⟩
  · exact .inl ⟨m, List.mem_append_left _ hm, hpass⟩
  · exact .inr ⟨before, hb.trans (List.prefix_append _ _), hc⟩

/-- Nothing gives the password any more once it is settled. -/
theorem givesPassword_append {said : List Message} (h : Settled said) (more : List Message)
    {m : Message} : GivesPassword (said ++ more) m ↔ GivesPassword said m := by
  induction more using List.reverseRecOn with
  | nil => rw [List.append_nil]
  | append_singleton front x ih =>
    rw [← List.append_assoc, givesPassword_concat, ih]
    simp [h.append front]

/-! ### What a command changes -/

theorem password_setPassword (s : Session) (given : String) :
    (s.setPassword given).password = s.password.or (some given) := by
  unfold setPassword
  cases h : s.password <;> simp [h]

theorem password_settle (s : Session) :
    s.settle.password = s.password.or (if s.isRegistered then some "" else none) := by
  unfold settle
  split
  · exact password_setPassword s ""
  · simp

theorem isRegistered_settle (s : Session) : s.settle.isRegistered = s.isRegistered := by
  obtain ⟨password, h⟩ := exists_settle s
  rw [h]
  rfl

/-- Every capability command leaves a negotiation open, but for END, behind which the session looks
whether the client is registered. -/
theorem handleCapability_registration (s : Session) (m : Message) :
    (s.handleCapability m).userSeen = s.userSeen ∧
    ((s.handleCapability m).capabilities.negotiating = true
      ↔ upper (m.params.head?.getD "") ≠ "END") ∧
    (s.handleCapability m).password
      = s.password.or (if (s.handleCapability m).isRegistered then some "" else none) := by
  -- LS, LIST and REQ are answered in a negotiation, and an answer changes only what was sent
  have hanswer : ∀ capabilities : Capabilities, capabilities.negotiating = true → ∀ line,
      let s' := { s with capabilities }.orUnchanged ({ s with capabilities }.write .clock line)
      s'.userSeen = s.userSeen ∧ s'.capabilities.negotiating = true ∧
        s'.password = s.password.or (if s'.isRegistered then some "" else none) := by
    intro capabilities hc line
    obtain ⟨sent, h⟩ := exists_orUnchanged { s with capabilities } .clock line
    simp only [h]
    simp [hc, isRegistered]
  unfold handleCapability writeNow
  simp only
  split
  · next h => simpa [h] using hanswer _ rfl _
  split
  · next h => simpa [h] using hanswer _ rfl _
  split
  · next h =>
    have hopen : ∀ tokens, (s.capabilities.start.addAll tokens).negotiating = true := by
      simp [Capabilities.start]
    simpa [h] using hanswer _ (hopen _) _
  split
  · -- END closes the negotiation, by which the registration may be complete
    next h =>
    have hpassword := password_settle { s with capabilities := s.capabilities.start.finish }
    have hregistered := isRegistered_settle { s with capabilities := s.capabilities.start.finish }
    obtain ⟨password, hs⟩ := exists_settle { s with capabilities := s.capabilities.start.finish }
    rw [← hregistered] at hpassword
    rw [hs] at hpassword ⊢
    exact ⟨rfl, by simp [h, Capabilities.finish], hpassword⟩
  · next h => simp [h, Capabilities.start, isRegistered]

/-- What becomes of a session with a command, as far as the registration goes. -/
inductive Heeds (s : Session) (m : Message) : Session → Prop where
  | nick {nick : String} {more : List String} (hm : m.command = "NICK")
      (hp : m.params = nick :: more) :
      Heeds s m (settle { s with nick, nickChanges := s.nickChanges + 1 })
  | user (hm : m.command = "USER") :
      Heeds s m { settle { s with userSeen := true } with held := some m }
  | password (hm : m.command = "PASS") : Heeds s m (s.setPassword (passwordIn m))
  | capability (hm : m.command = "CAP") : Heeds s m (s.handleCapability m)
  /-- All other commands have no part in the registration, nor has NICK without a nick. -/
  | other (hnick : m.command = "NICK" → m.params = []) (huser : m.command ≠ "USER")
      (hpass : m.command ≠ "PASS") (hcap : m.command ≠ "CAP") (held : Option Message)
      (stopped closeSeen : Bool) (sent : List Sent) :
      Heeds s m { s with held, stopped, closeSeen, sent }

theorem heeds (s : Session) (m : Message) : Heeds s m (s.handle m) := by
  have hother : ∀ held stopped closeSeen sent, (m.command = "NICK" → m.params = []) →
      m.command ≠ "USER" → m.command ≠ "PASS" → m.command ≠ "CAP" →
      Heeds s m { s with held, stopped, closeSeen, sent } :=
    fun held stopped closeSeen sent hn hu hp hc => .other hn hu hp hc held stopped closeSeen sent
  -- PING and QUIT change only what the registration does not look at, as does a NICK without a
  -- nick and as do commands that are handed on
  unfold handle
  split
  · next hping =>
    have hsame := hother s.held s.stopped s.closeSeen
    split
    · next h =>
      rw [sent_of_write h]
      exact hsame _ (by simp [hping]) (by simp [hping]) (by simp [hping]) (by simp [hping])
    · exact hother _ _ _ s.sent (by simp [hping]) (by simp [hping]) (by simp [hping])
        (by simp [hping])
  split
  · next hquit =>
    exact hother _ _ _ s.sent (by simp [hquit]) (by simp [hquit]) (by simp [hquit])
      (by simp [hquit])
  split
  · next hnick =>
    cases hp : m.params with
    | nil =>
      exact hother s.held s.stopped s.closeSeen s.sent (fun _ => hp) (by simp [hnick])
        (by simp [hnick]) (by simp [hnick])
    | cons nick more => exact .nick hnick hp
  split
  · next huser => exact .user huser
  split
  · next hpass => exact .password hpass
  split
  · next hcap => exact .capability hcap
  · next hnick huser hpass hcap =>
    exact hother (some m) s.stopped s.closeSeen s.sent (fun h => absurd h hnick) huser hpass hcap

namespace Heeds

variable {s s' : Session} {m : Message}

theorem userSeen (h : Heeds s m s') :
    s'.userSeen = true ↔ s.userSeen = true ∨ m.command = "USER" := by
  cases h with
  | @nick nick more hm hp =>
    obtain ⟨password, h⟩ := exists_settle { s with nick, nickChanges := s.nickChanges + 1 }
    simp [h, hm]
  | user hm =>
    obtain ⟨password, h⟩ := exists_settle { s with userSeen := true }
    simp [h, hm]
  | password hm =>
    obtain ⟨password, h⟩ := exists_setPassword s (passwordIn m)
    simp [h, hm]
  | capability hm => simp [(handleCapability_registration s m).1, hm]
  | other hnick huser hpass hcap held stopped closeSeen sent => simp [huser]

theorem negotiating (h : Heeds s m s') :
    s'.capabilities.negotiating = true ↔
      if m.command = "CAP" then upper (m.params.head?.getD "") ≠ "END"
      else s.capabilities.negotiating = true := by
  cases h with
  | @nick nick more hm hp =>
    obtain ⟨password, h⟩ := exists_settle { s with nick, nickChanges := s.nickChanges + 1 }
    simp [h, hm]
  | user hm =>
    obtain ⟨password, h⟩ := exists_settle { s with userSeen := true }
    simp [h, hm]
  | password hm =>
    obtain ⟨password, h⟩ := exists_setPassword s (passwordIn m)
    simp [h, hm]
  | capability hm =>
    rw [if_pos hm]
    exact (handleCapability_registration s m).2.1
  | other hnick huser hpass hcap held stopped closeSeen sent => simp [hcap]

/-- **No command leaves a client registered without a password.** -/
theorem password_eq (h : Heeds s m s') (hs : s.isRegistered = true → s.password.isSome = true) :
    s'.password = s.password.or
      (if m.command = "PASS" then some (passwordIn m)
        else if s'.isRegistered then some "" else none) := by
  cases h with
  | nick hm hp =>
    rw [if_neg (by simp [hm]), isRegistered_settle]
    exact password_settle _
  | user hm =>
    rw [if_neg (by simp [hm])]
    have hregistered := isRegistered_settle { s with userSeen := true }
    have hpassword := password_settle { s with userSeen := true }
    rw [← hregistered] at hpassword
    exact hpassword
  | password hm =>
    rw [if_pos hm]
    exact password_setPassword s _
  | capability hm =>
    rw [if_neg (by simp [hm])]
    exact (handleCapability_registration s m).2.2
  | other hnick huser hpass hcap held stopped closeSeen sent =>
    -- the session does not look, and need not: it was registered before if it is now
    rw [if_neg hpass]
    change s.password = s.password.or (if s.isRegistered then some "" else none)
    cases hr : s.isRegistered with
    | false => simp
    | true =>
      obtain ⟨given, hgiven⟩ := Option.isSome_iff_exists.mp (hs hr)
      simp [hgiven]

end Heeds

/-! ### Moves as far as the client's commands go -/

/-- **What a move says.** A move says nothing, and then the registration stays, or it is the
reader's, and a line is handled. -/
theorem said_cases (s : Session) (move : Move) :
    (move.said s = [] ∧ (move.apply s).nick = s.nick ∧ (move.apply s).userSeen = s.userSeen ∧
      (move.apply s).capabilities = s.capabilities ∧ (move.apply s).password = s.password) ∨
    ∃ line rest m, splitLine s.inputEnded s.unread = some (line, rest) ∧
      lineMessage? line = some m ∧ s.stopped = false ∧ move.said s = [m] ∧
      move.apply s = handle { s with unread := rest } m := by
  by_cases hread : move = .read
  · subst hread
    rw [Move.apply]
    cases hnext : s.read with
    | none =>
      -- the reader waits, for one of three reasons
      refine .inl ⟨?_, rfl, rfl, rfl, rfl⟩
      rcases read_eq_none hnext with hs | ⟨hheld, -⟩ | ⟨-, hl, -⟩
      · simp [Move.said, hs]
      · simp [Move.said, hheld]
      · simp [Move.said, hl]
    | some s' =>
      obtain ⟨hs, hreads⟩ := reads hnext
      rw [Option.getD_some]
      cases hreads with
      | gaveUp hm ha => exact .inl ⟨by simp [Move.said, hm], rfl, rfl, rfl, rfl⟩
      | queued hm ha hq => exact .inl ⟨by simp [Move.said, hm], rfl, rfl, rfl, rfl⟩
      | @line line rest hm hl =>
        have hsaid : Move.said s .read = (lineMessage? line).toList := by
          simp [Move.said, hs, hm, hl]
        -- a line that is no message is read and forgotten
        cases hmessage : lineMessage? line with
        | none =>
          rw [hsaid, handleLine_eq_self hmessage, hmessage]
          exact .inl ⟨rfl, rfl, rfl, rfl, rfl⟩
        | some m =>
          rw [hsaid, handleLine_eq_handle hmessage, hmessage]
          exact .inr ⟨line, rest, m, hl, hmessage, hs, rfl, rfl⟩
      | ended hm hl he => exact .inl ⟨by simp [Move.said, hl], rfl, rfl, rfl, rfl⟩
  · -- all that others do leaves the registration alone
    refine .inl ⟨Move.said_eq_nil hread s, ?_⟩
    cases move with
    | read => exact absurd rfl hread
    | receive bytes =>
      rw [Move.apply, receive]
      split <;> exact ⟨rfl, rfl, rfl, rfl⟩
    | take =>
      rw [Move.apply, take]
      cases s.queue <;> exact ⟨rfl, rfl, rfl, rfl⟩
    | write time line =>
      obtain ⟨sent, hw⟩ := exists_orUnchanged s time line
      rw [Move.apply, hw]
      exact ⟨rfl, rfl, rfl, rfl⟩
    | _ => exact ⟨rfl, rfl, rfl, rfl⟩

/-! ### The registration along a run -/

/-- A session stands as the commands `said` so far say. -/
structure Registered (said : List Message) (s : Session) : Prop where
  nick : s.nick = nickOf said
  user : s.userSeen = true ↔ ∃ m ∈ said, m.command = "USER"
  negotiating : s.capabilities.negotiating = true ↔ Negotiates said
  settled : s.password.isSome = true ↔ Settled said
  given : ∀ m, GivesPassword said m → s.password = some (passwordIn m)
  empty : (∀ m, ¬ GivesPassword said m) → ∀ password, s.password = some password → password = ""

namespace Registered

variable {said : List Message} {s : Session}

theorem start (queueSize : Nat) : Registered [] (Session.start queueSize) where
  nick := rfl
  user := by simp [Session.start]
  negotiating := by simp [Session.start, Negotiates]
  settled := by simp [Session.start, Settled, Complete, nickOf]
  given := by
    rintro m ⟨before, after, hsplit, -⟩
    simp at hsplit
  empty := by simp [Session.start]

theorem complete_iff (h : Registered said s) : s.isRegistered = true ↔ Complete said := by
  unfold isRegistered Complete
  rw [← h.nick, ← h.user, ← h.negotiating]
  simp [and_assoc]

theorem isSome_of_isRegistered (h : Registered said s) (hr : s.isRegistered = true) :
    s.password.isSome = true :=
  h.settled.mpr (.inr ⟨said, List.prefix_rfl, h.complete_iff.mp hr⟩)

/-- Only these fields count. -/
theorem congr {s' : Session} (h : Registered said s) (hnick : s'.nick = s.nick)
    (huser : s'.userSeen = s.userSeen) (hcapabilities : s'.capabilities = s.capabilities)
    (hpassword : s'.password = s.password) : Registered said s' where
  nick := hnick ▸ h.nick
  user := huser ▸ h.user
  negotiating := hcapabilities ▸ h.negotiating
  settled := hpassword ▸ h.settled
  given := hpassword ▸ h.given
  empty := hpassword ▸ h.empty

/-- A command that is handled joins the commands so far. -/
theorem handle (h : Registered said s) (m : Message) :
    Registered (said ++ [m]) (s.handle m) := by
  have hheeds := heeds s m
  have hnick : (s.handle m).nick = nickOf (said ++ [m]) := by
    rw [nick_handle, nickOf_concat, h.nick]
  have huser : (s.handle m).userSeen = true ↔ ∃ x ∈ said ++ [m], x.command = "USER" := by
    rw [hheeds.userSeen, exists_user_concat, h.user]
  have hnegotiating :
      (s.handle m).capabilities.negotiating = true ↔ Negotiates (said ++ [m]) := by
    rw [hheeds.negotiating, negotiates_concat]
    split
    · rfl
    · exact h.negotiating
  have hcomplete : (s.handle m).isRegistered = true ↔ Complete (said ++ [m]) := by
    unfold isRegistered Complete
    rw [← hnick, ← huser, ← hnegotiating]
    simp [and_assoc]
  have hpassword := hheeds.password_eq h.isSome_of_isRegistered
  cases hgiven : s.password with
  | some password =>
    -- what is settled stays
    have hsettled : Settled said := h.settled.mp (by simp [hgiven])
    rw [hgiven, Option.some_or] at hpassword
    have hgives : ∀ x, GivesPassword (said ++ [m]) x ↔ GivesPassword said x := by
      intro x
      rw [givesPassword_concat]
      simp [hsettled]
    refine ⟨hnick, huser, hnegotiating, ?_, ?_, ?_⟩
    · simp [hpassword, settled_concat, hsettled]
    · intro x hx
      rw [hpassword, ← hgiven]
      exact h.given x ((hgives x).mp hx)
    · intro hnone
      rw [hpassword, ← hgiven]
      exact h.empty fun x hx => hnone x ((hgives x).mpr hx)
  | none =>
    -- this command may settle it, by giving it or by completing the registration
    have hopen : ¬ Settled said := fun hs => by simpa [hgiven] using h.settled.mpr hs
    rw [hgiven, Option.none_or] at hpassword
    have hgives : ∀ x, GivesPassword (said ++ [m]) x ↔ x = m ∧ m.command = "PASS" := by
      intro x
      rw [givesPassword_concat]
      simp only [hopen, not_false_eq_true, and_true, or_iff_right_iff_imp]
      exact fun hx => absurd hx.settled hopen
    refine ⟨hnick, huser, hnegotiating, ?_, ?_, ?_⟩
    · rw [settled_concat, ← hcomplete, hpassword]
      by_cases hpass : m.command = "PASS"
      · simp [hpass]
      · by_cases hr : (s.handle m).isRegistered = true <;> simp [hpass, hopen, hr]
    · intro x hx
      obtain ⟨rfl, hpass⟩ := (hgives x).mp hx
      rw [hpassword, if_pos hpass]
    · intro hnone password heq
      have hpass : m.command ≠ "PASS" := fun hpass => hnone m ((hgives m).mpr ⟨rfl, hpass⟩)
      rw [hpassword, if_neg hpass] at heq
      by_cases hr : (s.handle m).isRegistered = true
      · simpa [hr] using heq.symm
      · simp [hr] at heq

/-- Every move keeps the registration in step with what was said. -/
theorem apply (h : Registered said s) (move : Move) :
    Registered (said ++ move.said s) (move.apply s) := by
  rcases said_cases s move with
    ⟨hsaid, hnick, huser, hcapabilities, hpassword⟩ | ⟨line, rest, m, -, -, -, hsaid, happly⟩
  · rw [hsaid, List.append_nil]
    exact h.congr hnick huser hcapabilities hpassword
  · have hrest : Registered said { s with unread := rest } := h.congr rfl rfl rfl rfl
    rw [hsaid, happly]
    exact hrest.handle m

theorem run (h : Registered said s) (moves : List Move) :
    Registered (said ++ Session.said s moves) (s.run moves) := by
  induction moves generalizing said s with
  | nil =>
    rw [Session.said, List.append_nil]
    exact h
  | cons move rest ih =>
    rw [Session.said, ← List.append_assoc, run_cons]
    exact ih (h.apply move)

/-- A password that is settled stays. -/
theorem password_run (h : Registered said s) (hsome : s.password.isSome = true)
    (moves : List Move) : (s.run moves).password = s.password := by
  have hsettled := h.settled.mp hsome
  have hlater := h.run moves
  obtain ⟨password, hp⟩ := Option.isSome_iff_exists.mp hsome
  obtain ⟨later, hl⟩ :=
    Option.isSome_iff_exists.mp (hlater.settled.mpr (hsettled.append (Session.said s moves)))
  rw [hp, hl, Option.some.injEq]
  -- the command that gave the password is the same one later on, and if there was none, there is
  -- none later
  by_cases hgiven : ∃ m, GivesPassword said m
  · obtain ⟨m, hm⟩ := hgiven
    have hnow := hp.symm.trans (h.given m hm)
    have hthen := hl.symm.trans (hlater.given m ((givesPassword_append hsettled _).mpr hm))
    exact Option.some.inj (hthen.trans hnow.symm)
  · rw [not_exists] at hgiven
    rw [h.empty hgiven password hp]
    refine hlater.empty (fun m hm => hgiven m ?_) later hl
    exact (givesPassword_append hsettled _).mp hm

end Registered

/-- **When a client's password is settled.** At every point of a run of a session, the nick, USER
and the negotiation stand as the commands so far say. The password is settled exactly if one of them
was PASS or they were complete at some point. It is what the first PASS says, if that came before
any such point, and empty otherwise, and once it is settled it stays. So a client that has a nick,
has sent USER and has no negotiation open never waits for a password. -/
theorem registration_settles (queueSize : Nat) (moves : List Move) :
    let first := start queueSize
    let s := run first moves
    let said := said first moves
    (s.nick = nickOf said ∧ (s.userSeen = true ↔ ∃ m ∈ said, m.command = "USER") ∧
      (s.capabilities.negotiating = true ↔ Negotiates said)) ∧
    (s.password.isSome = true ↔
      (∃ m ∈ said, m.command = "PASS") ∨ ∃ before, before <+: said ∧ Complete before) ∧
    (∀ m, GivesPassword said m → s.password = some (m.params.head?.getD "")) ∧
    ((∀ m, ¬ GivesPassword said m) → s.password = none ∨ s.password = some "") ∧
    (s.password.isSome = true → ∀ more, (run s more).password = s.password) ∧
    ¬ (s.nick ≠ "" ∧ s.userSeen = true ∧ s.capabilities.negotiating = false ∧
      s.password = none) := by
  intro first s said
  have h : Registered said s := (Registered.start queueSize).run moves
  refine ⟨⟨h.nick, h.user, h.negotiating⟩, h.settled, h.given, ?_, h.password_run, ?_⟩
  · intro hnone
    cases hp : s.password with
    | none => exact .inl rfl
    | some password => exact .inr (congrArg some (h.empty hnone password hp))
  · rintro ⟨hnick, huser, hclosed, hpassword⟩
    have hr : s.isRegistered = true := by simp [isRegistered, hnick, huser, hclosed]
    have hsome := h.isSome_of_isRegistered hr
    simp [hpassword] at hsome

/-- LS opens a negotiation, so that NICK and USER settle nothing. It is END that does, and the PASS
that follows comes too late. -/
theorem password_late_after_end :
    let say := fun text : String => Move.receive (text.toList.map fun c => c.toNat.toUInt8)
    let first := start 1
    let moves := [say "CAP LS\nNICK al\nUSER al\n", .read, .read, .read]
    let ending := [say "cap end\nPASS late\n", .read, .take, .read]
    (run first moves).password = none ∧ ¬ Settled (said first moves) ∧
      (run first (moves ++ ending)).password = some "" ∧
      (run (run first (moves ++ ending)) [.read]).password = some "" := by
  intro say first moves ending
  have hnone : (run first moves).password = none := by decide +kernel
  have hempty : (run first (moves ++ ending)).password = some "" := by decide +kernel
  have hbefore := registration_settles 1 moves
  have hafter := registration_settles 1 (moves ++ ending)
  refine ⟨hnone, ?_, hempty, ?_⟩
  · exact fun hs => by simpa [first, hnone] using hbefore.2.1.mpr hs
  · rw [← hempty]
    exact hafter.2.2.2.2.1 (by simp [first, hempty]) _

end IrcGateway.Session
