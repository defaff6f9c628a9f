import IrcGateway.Proofs.Gateway.Run

/-!
# Nothing passes before the login

Until the service has accepted the login, a client hears nothing but answers to PING and CAP, and
none of its commands is acted on. Then it is greeted, and only then its messages and those of the
service are relayed.

The invariant is `Gate`: at each phase it says what was asked of others, what the client was told,
and that nothing was handled before the greeting is complete. Every act keeps it (`Gate.apply`).
That the greeting does come to its end is a matter of the turns: from an accepted login on there is
always exactly one that goes on (`run_greet`). `login_gate` is what this comes to along every run.
-/

namespace IrcGateway.Gateway

open IrcGateway.Activity IrcGateway.Chat IrcGateway.Protocol IrcGateway.Relay IrcGateway.Service
open IrcGateway.Session (isAnswer)

theorem isAnswer_of_mem_greeting {nick line : String} (h : line ∈ greeting nick) :
    isAnswer line = false := by
  simp only [greeting, List.mem_cons, List.not_mem_nil, or_false] at h
  rcases h with rfl | rfl | rfl | rfl | rfl <;>
    simp [isAnswer, Line.text, Line.numeric, Message.format, paramsText, Session.answerHead,
      serverName, List.isPrefixOf]

/-- The client is logged in, once, and was greeted with its nick. -/
def Greeted (g : Gateway) : Prop :=
  ∃ nick password more, g.calls = .login nick password :: more ∧
    (∀ call ∈ more, isLogin call = false) ∧ greeting nick <+: g.session.talk

theorem Greeted.mono {g g' : Gateway} (h : g.Greeted) {more : List Call}
    (hcalls : g'.calls = g.calls ++ more) (hmore : ∀ call ∈ more, isLogin call = false)
    (htalk : g.session.talk <+: g'.session.talk) : g'.Greeted := by
  obtain ⟨nick, password, before, hc, hbefore, ht⟩ := h
  refine ⟨nick, password, before ++ more, by rw [hcalls, hc, List.cons_append], ?_, ht.trans htalk⟩
  intro call hmem
  exact (List.mem_append.mp hmem).elim (hbefore call) (hmore call)

/-- What holds at each phase, after these events and commands were handled. -/
def Gate (handled : List Event) (acted : List Message) (g : Gateway) : Prop :=
  match g.phase with
  | .login password =>
    handled = [] ∧ acted = [] ∧ g.calls = [] ∧ g.session.talk = [] ∧
      ∀ settled, password = some settled → g.session.password = some settled
  | .connecting nick password =>
    handled = [] ∧ acted = [] ∧ g.calls = [.login nick password] ∧ g.session.talk = []
  | .greeting _ lines =>
    handled = [] ∧ acted = [] ∧ ∃ nick password, g.calls = [.login nick password] ∧
      g.session.talk ++ lines = greeting nick
  | .serving _ => g.Greeted
  | .finished result =>
    g.session.stopped = true ∧
    match result with
    | .error .loginAborted =>
      handled = [] ∧ acted = [] ∧ g.session.talk = [] ∧
        (g.calls = [] ∨ ∃ nick password, g.calls = [.login nick password])
    | .error (.connect _) =>
      handled = [] ∧ acted = [] ∧ g.session.talk.length ≤ 1 ∧
        ∃ nick password, g.calls = [.login nick password]
    | .error (.write _) =>
      g.Greeted ∨ handled = [] ∧ acted = [] ∧ ∃ nick password, g.calls = [.login nick password] ∧
        g.session.talk <+: greeting nick
    | .ok () => g.Greeted

namespace Gate

variable {handled : List Event} {acted : List Message} {g g' : Gateway}

theorem start (queueSize : Nat) (provider : Map.Provider) (keepsTimes : Bool) (store : Media.Store)
    (timeline : Timeline) :
    Gate [] [] (Gateway.start queueSize provider keepsTimes store timeline) := by
  simp [Gate, Gateway.start, Session.talk, Session.start, Gateway.session]

/-- Whatever leaves the phase, what was asked and what was told as they are keeps it. -/
theorem congr (h : Gate handled acted g) (hphase : g'.phase = g.phase) (hcalls : g'.calls = g.calls)
    (htalk : g'.session.talk = g.session.talk)
    (hpassword : ∀ password, g.session.password = some password →
      g'.session.password = some password)
    (hstopped : g.session.stopped = true → g'.session.stopped = true) : Gate handled acted g' := by
  unfold Gate Greeted at h ⊢
  rw [hphase, hcalls, htalk]
  cases hp : g.phase with
  | login password =>
    rw [hp] at h
    obtain ⟨hh, ha, hc, ht, hs⟩ := h
    exact ⟨hh, ha, hc, ht, fun settled heq => hpassword settled (hs settled heq)⟩
  | finished result =>
    rw [hp] at h
    exact ⟨hstopped h.1, h.2⟩
  | _ =>
    rw [hp] at h
    exact h

theorem of_serving {account : Account} (hp : g.phase = .serving account) (h : g.Greeted) :
    Gate handled acted g := by
  unfold Gate
  rw [hp]
  exact h

/-- A gateway that served its client has finished because a line could not be written. -/
theorem of_broken {e : WriteError} (hp : g.phase = .finished (.error (.write e)))
    (hs : g.session.stopped = true) (h : g.Greeted) : Gate handled acted g := by
  unfold Gate
  rw [hp]
  exact ⟨hs, .inl h⟩

/-- **Every turn keeps it.** -/
theorem turned (h : Gate handled acted g) {client : Client} {token : String} {t : Turn}
    (ht : Turned g client token t g') :
    Gate (handled ++ tended g t) (acted ++ obeyed g t) g' := by
  have htalk := ht.talk_prefix
  unfold Gate at h
  unfold obeyed
  cases ht with
  | logIn hp hn =>
    simp only [hp] at h ⊢
    obtain ⟨rfl, rfl, hc, ht, -⟩ := h
    exact ⟨rfl, rfl, by rw [hc]; rfl, ht⟩
  | seePassword hp hs =>
    simp only [hp] at h ⊢
    obtain ⟨rfl, rfl, hc, ht, -⟩ := h
    exact ⟨rfl, rfl, hc, ht, fun settled heq => hs.trans heq⟩
  | abort hp ht =>
    have hnothing : tended g t = [] := by rcases ht with rfl | ⟨rfl, -⟩ <;> rfl
    rw [hnothing]
    rcases hp with ⟨password, hp⟩ | ⟨nick, password, hp⟩
    · simp only [hp] at h ⊢
      obtain ⟨rfl, rfl, hc, ht, -⟩ := h
      exact ⟨rfl, rfl, rfl, ht, .inl hc⟩
    · simp only [hp] at h ⊢
      obtain ⟨rfl, rfl, hc, ht⟩ := h
      exact ⟨rfl, rfl, rfl, ht, .inr ⟨nick, password, hc⟩⟩
  | ignore hp hq =>
    simp only [hp] at h
    obtain ⟨rfl, rfl, hc, ht, hs⟩ := h
    simp only [Gate, phase_withSession, hp]
    exact ⟨rfl, rfl, hc, ht, hs⟩
  | accept hp ha =>
    simp only [hp] at h ⊢
    obtain ⟨rfl, rfl, hc, ht⟩ := h
    -- nothing was told yet, and the whole greeting is still to be written
    exact ⟨rfl, rfl, _, _, hc, congrArg (· ++ greeting _) ht⟩
  | @refuse nick password fault hp ha =>
    simp only [hp] at h ⊢
    obtain ⟨rfl, rfl, hc, ht⟩ := h
    refine ⟨rfl, rfl, rfl, ?_, nick, password, hc⟩
    -- the status is the only line, if it can be written at all
    have htold := Session.talk_orUnchanged g.session .clock
      (Line.privmsg statusNick g.session.nick ("error while connecting: " ++ fault.message)).text
    rw [ht] at htold
    refine (congrArg List.length htold).trans_le ?_
    split <;> simp
  | @greet account line rest s hp hw =>
    simp only [hp] at h ⊢
    obtain ⟨rfl, rfl, nick, password, hc, ht⟩ := h
    -- no line of the greeting reads like an answer of the reader, so it counts as told
    have hmem : line ∈ greeting nick := by
      rw [← ht]
      simp
    have hline : isAnswer line = false := isAnswer_of_mem_greeting hmem
    have htold : s.talk = g.session.talk ++ [line] := by
      rw [Session.talk_write hw, hline]
      rfl
    refine ⟨rfl, rfl, nick, password, hc, ?_⟩
    rw [← ht]
    exact (congrArg (· ++ rest) htold).trans (by simp)
  | @unheard account line rest e hp hw =>
    simp only [hp] at h ⊢
    obtain ⟨rfl, rfl, nick, password, hc, ht⟩ := h
    -- what was told is how the greeting begins
    exact ⟨rfl, .inr ⟨rfl, rfl, nick, password, hc, line :: rest, ht⟩⟩
  | @begin account hp =>
    simp only [hp] at h ⊢
    obtain ⟨rfl, rfl, nick, password, hc, ht⟩ := h
    rw [List.append_nil] at ht
    refine ⟨nick, password, if g.keepsTimes then [.storedTimes account.id.text] else [], ?_, ?_,
      ht ▸ List.prefix_rfl⟩
    · simp only [beginServing, hc]
      cases g.keepsTimes <;> rfl
    · cases g.keepsTimes <;> simp [isLogin]
  | leave hp hs =>
    simp only [hp] at h ⊢
    exact ⟨rfl, h⟩
  | @event account e rest hp hs he =>
    simp only [hp] at h
    have hrelayed := relayed_handleEvent { g with events := rest } client token account e
    obtain ⟨more, hcalls, hmore⟩ := hrelayed.calls
    -- events are relayed without another login, and what was told stays told
    exact of_serving (hrelayed.phase.trans hp)
      (Greeted.mono h hcalls (fun call hmem => (hmore call hmem).1) htalk)
  | lose hp hs he hend =>
    simp only [hp] at h ⊢
    exact ⟨rfl, Greeted.mono h (List.append_nil _).symm (by simp) htalk⟩
  | @command account m rest hp hs he hend hq =>
    simp only [hp] at h
    have hcalls := calls_handleCommand (g.withSession { g.session with queue := rest }) client m
    have hgreeted := Greeted.mono h hcalls (fun call hmem => (isSend_of_mem_wanted hmem).1) htalk
    rcases phase_handleCommand (g.withSession { g.session with queue := rest }) client m with
      hphase | ⟨e, hphase, hstopped⟩
    · exact of_serving (hphase.trans hp) hgreeted
    · exact of_broken hphase hstopped hgreeted

/-- **Every act keeps it.** -/
theorem apply (h : Gate handled acted g) {said : List Message}
    (hr : Session.Registered said g.session) (act : Act) :
    Gate (handled ++ act.ofTurn tended g) (acted ++ act.ofTurn obeyed g) (act.apply g) := by
  cases happens g act with
  | turn hact happly ht hnote =>
    rw [hnote, hnote, happly]
    exact h.turned ht
  | beside hphase hcalls htalk hstopped hnote =>
    rw [hnote, hnote, List.append_nil, List.append_nil]
    -- of what others do only a new password could matter, and one that is settled stays
    exact h.congr hphase hcalls htalk (fun password hp => password_apply hr hp act) hstopped

theorem run (h : Gate handled acted g) {said : List Message}
    (hr : Session.Registered said g.session) (acts : List Act) :
    Gate (handled ++ along (Act.ofTurn tended) g acts) (acted ++ along (Act.ofTurn obeyed) g acts)
      (g.run acts) := by
  induction acts generalizing handled acted g said with
  | nil => simpa [along] using h
  | cons act rest ih =>
    rw [along, along, ← List.append_assoc, ← List.append_assoc, run_cons]
    exact ih (h.apply hr act) (registered_apply hr act)

end Gate

theorem Greeted.login_once {g : Gateway} (h : g.Greeted) : (g.calls.filter isLogin).length = 1 := by
  obtain ⟨nick, password, more, hc, hmore, -⟩ := h
  have hrest : more.filter isLogin = [] := by
    rw [List.filter_eq_nil_iff]
    intro call hmem
    simp [hmore call hmem]
  rw [hc, List.filter_cons_of_pos rfl, hrest]
  rfl

theorem Gate.login_once {handled : List Event} {acted : List Message} {g : Gateway}
    (h : Gate handled acted g) : (g.calls.filter isLogin).length ≤ 1 := by
  have hone : ∀ {nick password}, g.calls = [.login nick password] →
      (g.calls.filter isLogin).length ≤ 1 := by
    intro nick password hc
    rw [hc]
    rfl
  unfold Gate at h
  split at h
  · -- nick and password are awaited
    simp [h.2.2.1]
  · -- the answer to the login is
    exact hone h.2.2.1
  · -- greeting
    obtain ⟨-, -, nick, password, hc, -⟩ := h
    exact hone hc
  · -- serving
    exact h.login_once.le
  · -- the session is over, by each of the ways that it can end in
    obtain ⟨-, h⟩ := h
    split at h
    · rcases h.2.2.2 with hc | ⟨nick, password, hc⟩
      · simp [hc]
      · exact hone hc
    · obtain ⟨-, -, -, nick, password, hc⟩ := h
      exact hone hc
    · rcases h with h | ⟨-, -, nick, password, hc, -⟩
      · exact h.login_once.le
      · exact hone hc
    · exact h.login_once.le

/-! ### The call for the login -/

/-- A login is called for in one kind of turn. -/
theorem Turned.login_mem {g g' : Gateway} {client : Client} {token : String} {t : Turn}
    (h : Turned g client token t g') {nick password : String}
    (hmem : Call.login nick password ∈ g'.calls) :
    Call.login nick password ∈ g.calls ∨
      (t = .logIn ∧ g.phase = .login (some password) ∧ g.session.nick = nick ∧ nick ≠ "") := by
  -- serving a client asks for times, for members and files and for what is to be sent
  cases h with
  | logIn hp hn =>
    rcases List.mem_append.mp hmem with hmem | hmem
    · exact .inl hmem
    · obtain ⟨rfl, rfl⟩ := Call.login.inj (List.mem_singleton.mp hmem)
      exact .inr ⟨rfl, hp, rfl, hn⟩
  | begin hp =>
    left
    unfold beginServing at hmem
    cases hk : g.keepsTimes <;> simpa [hk] using hmem
  | @event account e rest hp hs he =>
    have hrelayed := relayed_handleEvent { g with events := rest } client token account e
    obtain ⟨more, hcalls, hmore⟩ := hrelayed.calls
    rw [hcalls, List.mem_append] at hmem
    exact .inl (hmem.resolve_right fun hnew => by simpa [isLogin] using hmore _ hnew)
  | @command account m rest hp hs he hend hq =>
    rw [calls_handleCommand, List.mem_append] at hmem
    exact .inl (hmem.resolve_right fun hnew => by simpa [isLogin] using isSend_of_mem_wanted hnew)
  | _ => exact .inl hmem

theorem login_of_mem_calls {first : Gateway} (hfirst : Gate [] [] first)
    (hr : Session.Registered [] first.session) (hcalls : first.calls = []) {acts : List Act}
    {nick password : String} (hmem : Call.login nick password ∈ (first.run acts).calls) :
    ∃ before client token after, acts = before ++ .turn client token .logIn :: after ∧
      nick ≠ "" ∧ (first.run before).session.nick = nick ∧
      (first.run before).session.password = some password := by
  obtain ⟨before, act, after, rfl, hbefore, hafter⟩ :=
    exists_act_of_run (p := fun g => .login nick password ∈ g.calls) (by simp [hcalls]) hmem
  cases happens (first.run before) act with
  | turn hact happly ht =>
    rw [happly] at hafter
    -- the password it logs in with was seen before, and is the session's still
    obtain ⟨rfl, hphase, hnick, hne⟩ := (ht.login_mem hafter).resolve_left hbefore
    have hgate := hfirst.run hr before
    simp only [Gate, hphase] at hgate
    obtain ⟨-, -, -, -, hpassword⟩ := hgate
    exact ⟨before, _, _, after, by rw [hact], hne, hnick, hpassword password rfl⟩
  | beside hphase hcalls => exact absurd (hcalls ▸ hafter) hbefore

/-- Events and commands are handled while the client is served. -/
theorem serving_of_noted {g : Gateway} {act : Act}
    (h : act.ofTurn tended g ≠ [] ∨ act.ofTurn obeyed g ≠ []) :
    ∃ account, g.phase = .serving account := by
  cases happens g act with
  | turn hact happly ht hnote =>
    rw [hnote, hnote] at h
    -- an event is handled, or a command
    rcases h with h | h
    · cases ht with
      | event hp => exact ⟨_, hp⟩
      | lose hp => exact ⟨_, hp⟩
      | abort hp ht => rcases ht with rfl | ⟨rfl, -⟩ <;> exact absurd rfl h
      | _ => exact absurd rfl h
    · unfold obeyed at h
      split at h
      · next account hp => exact ⟨account, hp⟩
      · exact absurd rfl h
  | beside hphase hcalls htalk hstopped hnote => simp [hnote] at h

/-! ### What comes of the login -/

/-- Before the login is accepted at most the login itself was asked for. -/
theorem isLogin_of_mem_calls {g : Gateway}
    (h : g.calls = [] ∨ ∃ nick password, g.calls = [.login nick password]) :
    ∀ call ∈ g.calls, isLogin call = true := by
  intro call hmem
  rcases h with hc | ⟨nick, password, hc⟩
  · simp [hc] at hmem
  · rw [hc, List.mem_singleton] at hmem
    rw [hmem]
    rfl

/-- Before the login is accepted nothing was handled and the client was told nothing. -/
theorem Gate.of_early {handled : List Event} {acted : List Message} {g : Gateway}
    (h : Gate handled acted g) (hearly : g.Early) :
    (handled = [] ∧ acted = [] ∧ ∀ call ∈ g.calls, isLogin call = true) ∧ g.session.talk = [] := by
  unfold Gate at h
  rcases hearly with ⟨password, hp⟩ | ⟨nick, password, hp⟩
  · simp only [hp] at h
    obtain ⟨hh, ha, hc, ht, -⟩ := h
    exact ⟨⟨hh, ha, isLogin_of_mem_calls (.inl hc)⟩, ht⟩
  · simp only [hp] at h
    obtain ⟨hh, ha, hc, ht⟩ := h
    exact ⟨⟨hh, ha, isLogin_of_mem_calls (.inr ⟨nick, password, hc⟩)⟩, ht⟩

/-- Before the login is accepted a command that is taken is thrown away, or none is to come. -/
theorem Early.of_turn_command {g g' : Gateway} (hearly : g.Early) {client : Client} {token : String}
    (hturn : g.turn client token .command = some g') :
    g' = g.withSession { g.session with queue := g.session.queue.tail } ∨
      g' = g.finish (.error .loginAborted) := by
  cases turned hturn with
  | abort => exact .inr rfl
  | ignore hp hq => exact .inl (by rw [hq, List.tail_cons])
  | command hp => obtain ⟨password, hp'⟩ | ⟨nick, password, hp'⟩ := hearly <;> simp [hp] at hp'

/-- A client that is greeted hears the next line, or is served after the last. -/
theorem exists_greet {g : Gateway} {account : Account} {lines : List String}
    (hp : g.phase = .greeting account lines) (client : Client) (token : String) :
    ∃ g', g.turn client token .greet = some g' ∧
      (g.session.writeFault = none →
        (∃ line rest, lines = line :: rest ∧ g'.phase = .greeting account rest ∧
          g'.session.writeFault = none ∧
          g'.session.talk = g.session.talk ++ if isAnswer line then [] else [line]) ∨
        (lines = [] ∧ g'.phase = .serving account ∧ g'.session.talk = g.session.talk)) := by
  cases lines with
  | nil => exact ⟨g.beginServing client account, by simp [turn, hp], fun _ => .inr ⟨rfl, rfl, rfl⟩⟩
  | cons line rest =>
    cases hfault : g.session.writeFault with
    | none =>
      -- the client can still be written to after the line
      obtain ⟨s, hw, hs⟩ : ∃ s, g.session.writeNow line = .ok s ∧ s.writeFault = none :=
        ⟨_, Session.write_of_up hfault .clock line, hfault⟩
      exact ⟨{ g.withSession s with phase := .greeting account rest }, by simp [turn, hp, hw],
        fun _ => .inl ⟨line, rest, rfl, rfl, hs, Session.talk_write hw⟩⟩
    | some e =>
      have hw : g.session.writeNow line = .error e := Session.write_of_fault hfault .clock line
      exact ⟨g.finish (.error (.write e)), by simp [turn, hp, hw], fun hup => by simp at hup⟩

/-- Nothing but the greeting happens until it is complete. -/
theorem turn_of_greeting {g : Gateway} {account : Account} {lines : List String}
    (hp : g.phase = .greeting account lines) (client : Client) (token : String) {t : Turn}
    (ht : t ≠ .greet) : g.turn client token t = none := by
  cases t with
  | greet => exact absurd rfl ht
  | _ => simp [turn, hp]

/-- A client that can be written to is greeted line by line to the end, and then served. -/
theorem run_greet {g : Gateway} {account : Account} {lines : List String}
    (hp : g.phase = .greeting account lines) (hup : g.session.writeFault = none)
    (hlines : ∀ line ∈ lines, isAnswer line = false) (client : Client) (token : String) :
    let g' := g.run (.replicate (lines.length + 1) (.turn client token .greet))
    g'.phase = .serving account ∧ g'.session.talk = g.session.talk ++ lines := by
  induction lines generalizing g with
  | nil =>
    obtain ⟨g', hturn, hgoes⟩ := exists_greet hp client token
    have happly : Act.apply g (.turn client token .greet) = g' := by simp [Act.apply, hturn]
    obtain ⟨line, rest, hnil, -⟩ | ⟨-, hphase, htalk⟩ := hgoes hup
    · simp at hnil
    · simpa [happly] using ⟨hphase, htalk⟩
  | cons line rest ih =>
    obtain ⟨g', hturn, hgoes⟩ := exists_greet hp client token
    have happly : Act.apply g (.turn client token .greet) = g' := by simp [Act.apply, hturn]
    obtain ⟨_, _, hcons, hphase, hup', htalk⟩ | ⟨hnil, -⟩ := hgoes hup
    · obtain ⟨rfl, rfl⟩ := List.cons.inj hcons
      obtain ⟨hserving, hrest⟩ := ih hphase hup' fun l hl => hlines l (List.mem_cons_of_mem _ hl)
      -- what is told grows by the line, as it is no answer to a command
      rw [hlines line List.mem_cons_self, if_neg Bool.false_ne_true] at htalk
      refine ⟨?_, ?_⟩
      · rw [List.length_cons, List.replicate_succ, run_cons, happly]
        exact hserving
      · rw [List.length_cons, List.replicate_succ, run_cons, happly, hrest, htalk,
          List.append_assoc, List.singleton_append]
    · simp at hnil

/-- A refusal ends serving, and the client is told if it can be told. -/
theorem exists_refuse {g : Gateway} {nick password : String} {client : Client} {fault : Fault}
    (hp : g.phase = .connecting nick password) (ht : g.session.talk = [])
    (ha : client.login nick password = some (.error fault)) (token : String) :
    ∃ g', g.turn client token .hearAnswer = some g' ∧
      g'.phase = .finished (.error (.connect fault)) ∧
      g'.session.talk = if g.session.writeFault = none then
        [(Line.privmsg statusNick g.session.nick
          ("error while connecting: " ++ fault.message)).text] else [] := by
  refine ⟨(g.withSession (g.session.orUnchanged
    (g.session.status ("error while connecting: " ++ fault.message)))).finish
      (.error (.connect fault)), by simp [turn, hp, ha], rfl, ?_⟩
  have htold := Session.talk_orUnchanged g.session .clock
    (Line.privmsg statusNick g.session.nick ("error while connecting: " ++ fault.message)).text
  rw [ht, Session.isAnswer_status, List.nil_append] at htold
  refine Eq.trans htold ?_
  cases g.session.writeFault <;> rfl

/-- **Nothing passes before the login.** Take any run of a gateway from the moment that a client
connects.

* The login is called for at most once, with a nick that the client had and that is not empty, and
  with the password that was settled.
* While it is not accepted the client is told nothing beyond the answers of the reader, and a
  command that the gateway takes is thrown away.
* If it is accepted, serving goes on to the greeting: the five lines 001, 002, 003, 004 and 422 for
  the nick that logged in. As long as lines can be written the client hears them one after the
  other, nothing else happens in between, and then the client is served.
* No event and no command is handled before the whole greeting was written.
* If it is refused, serving ends with that error, and the client is told so if it can be told. If
  the client leaves before, serving ends as aborted. Nothing was handled in either case. -/
theorem login_gate (queueSize : Nat) (provider : Map.Provider) (keepsTimes : Bool)
    (store : Media.Store) (timeline : Timeline) (acts : List Act) :
    let first := start queueSize provider keepsTimes store timeline
    let g := first.run acts
    let handled := along (Act.ofTurn tended) first acts
    let acted := along (Act.ofTurn obeyed) first acts
    let idle := handled = [] ∧ acted = [] ∧ ∀ call ∈ g.calls, isLogin call = true
    let welcome := fun nick : String =>
      [(Line.numeric "001" [nick, "Welcome to " ++ serverName ++ ", " ++ nick ++ "!"]).format,
        (Line.numeric "002"
          [nick, "Your host is " ++ serverName ++ ", running version " ++ serverVersion]).format,
        (Line.numeric "003" [nick, "This server was created today"]).format,
        (Line.numeric "004" [nick, serverName, serverVersion, "o", "o"]).format,
        (Line.numeric "422" [nick, "MOTD File is missing"]).format]
    ((g.calls.filter isLogin).length ≤ 1 ∧
      ∀ nick password, .login nick password ∈ g.calls →
        ∃ before client token after, acts = before ++ .turn client token .logIn :: after ∧
          nick ≠ "" ∧ (first.run before).session.nick = nick ∧
          (first.run before).session.password = some password ∧
          Session.Registered (along Act.said first before) (first.run before).session) ∧
    (g.Early → idle ∧ g.session.talk = [] ∧
      ∀ client token g', g.turn client token .command = some g' →
        g' = g.withSession { g.session with queue := g.session.queue.tail } ∨
        g' = g.finish (.error .loginAborted)) ∧
    (∀ nick password client token account, g.phase = .connecting nick password →
      client.login nick password = some (.ok account) →
      g.turn client token .hearAnswer
        = some { g with phase := .greeting account (welcome nick) } ∧
      (g.session.writeFault = none →
        let served := g.run (.turn client token .hearAnswer ::
          .replicate 6 (.turn client token .greet))
        served.phase = .serving account ∧ served.session.talk = welcome nick)) ∧
    (∀ account lines, g.phase = .greeting account lines →
      idle ∧ (∃ nick password, g.calls = [.login nick password] ∧
        g.session.talk ++ lines = welcome nick) ∧
      ∀ client token,
        (∀ t, t ≠ .greet → g.turn client token t = none) ∧
        ∃ g', g.turn client token .greet = some g' ∧
          (g.session.writeFault = none →
            (∃ line rest, lines = line :: rest ∧ g'.phase = .greeting account rest ∧
              g'.session.talk = g.session.talk ++ [line]) ∨
            (lines = [] ∧ g'.phase = .serving account))) ∧
    (∀ act : Act, act.ofTurn tended g ≠ [] ∨ act.ofTurn obeyed g ≠ [] →
      ∃ nick password more, g.calls = .login nick password :: more ∧
        (∀ call ∈ more, isLogin call = false) ∧ welcome nick <+: g.session.talk) ∧
    (∀ nick password client token fault, g.phase = .connecting nick password →
      client.login nick password = some (.error fault) →
      ∃ g', g.turn client token .hearAnswer = some g' ∧
        g'.phase = .finished (.error (.connect fault)) ∧
        g'.session.talk = if g.session.writeFault = none then
          [(Line.privmsg statusNick g.session.nick
            ("error while connecting: " ++ fault.message)).text] else []) ∧
    (∀ fault, g.phase = .finished (.error (.connect fault)) →
      idle ∧ g.session.talk.length ≤ 1 ∧ g.session.stopped = true) ∧
    (g.phase = .finished (.error .loginAborted) → idle ∧ g.session.talk = []) := by
  intro first g handled acted idle welcome
  have hfirst : Gate [] [] first := Gate.start ..
  have hr : Session.Registered [] first.session := Session.Registered.start queueSize
  have hgate : Gate handled acted g := hfirst.run hr acts
  refine ⟨⟨hgate.login_once, ?_⟩, ?_, ?_, ?_, ?_, ?_, ?_, ?_⟩
  · -- what the login is called for with
    intro nick password hmem
    obtain ⟨before, client, token, after, hacts, hrest⟩ := login_of_mem_calls hfirst hr rfl hmem
    have hregistered := registered_run hr before
    rw [List.nil_append] at hregistered
    exact ⟨before, client, token, after, hacts, hrest.1, hrest.2.1, hrest.2.2, hregistered⟩
  · -- before the login is accepted
    intro hearly
    obtain ⟨hidle, ht⟩ := hgate.of_early hearly
    exact ⟨hidle, ht, fun client token g' hturn => hearly.of_turn_command hturn⟩
  · -- the login is accepted
    intro nick password client token account hp ha
    have hturn : g.turn client token .hearAnswer
        = some { g with phase := .greeting account (welcome nick) } := by
      simp only [turn, hp, ha]
      rfl
    refine ⟨hturn, fun hup => ?_⟩
    intro served
    have hserved : served = ({ g with phase := .greeting account (welcome nick) } : Gateway).run
        (.replicate 6 (.turn client token .greet)) := by
      simp only [served, run_cons, Act.apply, hturn, Option.getD_some]
    have hlines : ∀ line ∈ greeting nick, isAnswer line = false :=
      fun line hmem => isAnswer_of_mem_greeting hmem
    obtain ⟨hphase, htalk⟩ := run_greet (g := { g with phase := .greeting account (welcome nick) })
      rfl hup hlines client token
    -- the client was told nothing before the greeting
    have hquiet := (hgate.of_early (.inr ⟨nick, password, hp⟩)).2
    rw [hserved]
    exact ⟨hphase, htalk.trans (congrArg (· ++ welcome nick) hquiet)⟩
  · -- the greeting is being written
    intro account lines hp
    simp only [Gate, hp] at hgate
    obtain ⟨hh, ha, nick, password, hc, ht⟩ := hgate
    refine ⟨⟨hh, ha, isLogin_of_mem_calls (.inr ⟨nick, password, hc⟩)⟩, ⟨nick, password, hc, ht⟩,
      fun client token => ⟨fun t => turn_of_greeting hp client token, ?_⟩⟩
    obtain ⟨g', hturn, hgoes⟩ := exists_greet hp client token
    refine ⟨g', hturn, fun hup => ?_⟩
    obtain ⟨line, rest, rfl, hphase, -, htalk⟩ | ⟨hnil, hphase, -⟩ := hgoes hup
    · have hmem : line ∈ greeting nick := by
        rw [← ht]
        simp
      rw [isAnswer_of_mem_greeting hmem, if_neg Bool.false_ne_true] at htalk
      exact .inl ⟨line, rest, rfl, hphase, htalk⟩
    · exact .inr ⟨hnil, hphase⟩
  · -- an event or a command is handled
    intro act hact
    obtain ⟨account, hp⟩ := serving_of_noted hact
    simp only [Gate, hp] at hgate
    exact hgate
  · -- the login is refused
    intro nick password client token fault hp ha
    exact exists_refuse hp (hgate.of_early (.inr ⟨nick, password, hp⟩)).2 ha token
  · -- after a refusal
    intro fault hp
    simp only [Gate, hp] at hgate
    obtain ⟨hs, hh, ha, ht, hc⟩ := hgate
    exact ⟨⟨hh, ha, isLogin_of_mem_calls (.inr hc)⟩, ht, hs⟩
  · -- after the client has left
    intro hp
    simp only [Gate, hp] at hgate
    obtain ⟨-, hh, ha, ht, hc⟩ := hgate
    exact ⟨⟨hh, ha, isLogin_of_mem_calls hc⟩, ht⟩

namespace Sample

/-- Once the service has let her in, Alice hears five lines and is served. Only then the news that
has come for her is handled. -/
theorem alice_is_greeted :
    let asking := first.run (entering.take 5)
    let served := asking.run (take .hearAnswer :: .replicate 6 (take .greet))
    let waiting := first.run entering.dropLast
    let five := [":whapp-irc 001 alice :Welcome to whapp-irc, alice!",
      ":whapp-irc 002 alice :Your host is whapp-irc, running version 0.1.0",
      ":whapp-irc 003 alice :This server was created today",
      ":whapp-irc 004 alice whapp-irc 0.1.0 o o",
      ":whapp-irc 422 alice :MOTD File is missing"]
    (asking.phase = .connecting "alice" "secret" ∧ asking.session.writeFault = none) ∧
      served.phase = .serving Relay.Sample.alice ∧ served.session.talk = five ∧
      ((take .event).ofTurn tended waiting).map (·.id) = ["n1"] ∧
      five <+: waiting.session.talk := by
  intro asking served waiting five
  have hp : asking.phase = .connecting "alice" "secret" := by decide +kernel
  have hup : asking.session.writeFault = none := by decide +kernel
  have htended : ((take .event).ofTurn tended waiting).map (·.id) = ["n1"] := by decide +kernel
  have hcalls : waiting.calls = [.login "alice" "secret"] := by decide +kernel
  -- the login is accepted
  obtain ⟨-, -, haccepted, -⟩ := login_gate 10 .openStreetMap false default {} (entering.take 5)
  obtain ⟨hphase, htalk⟩ := (haccepted _ _ client "t" Relay.Sample.alice hp rfl).2 hup
  -- an event is handled
  obtain ⟨-, -, -, -, hhandled, -⟩ :=
    login_gate 10 .openStreetMap false default {} entering.dropLast
  obtain ⟨nick, password, more, hlogin, -, hstart⟩ :=
    hhandled (take .event) (.inl fun hnone => by
      have hmap := congrArg (List.map Event.id) hnone
      exact absurd (htended.symm.trans hmap) (by simp))
  obtain ⟨rfl, -⟩ := Call.login.inj (List.cons.inj (hlogin.symm.trans hcalls)).1
  exact ⟨⟨hp, hup⟩, hphase, htalk, htended, hstart⟩

end Sample

end IrcGateway.Gateway
