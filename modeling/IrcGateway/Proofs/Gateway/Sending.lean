import IrcGateway.Proofs.Gateway.Login
import IrcGateway.Proofs.Session.Delivery

/-!
# What becomes of a client's messages

The commands of a client reach the gateway whole and in order, and once the client is logged in the
gateway sends on each private message as it takes it from the queue. Not all of them are taken: the
reader may be ahead of the gateway by a whole queue when it reads QUIT or the end of input, and the
gateway looks whether the session has stopped before it looks into the queue. So what is sent is how
all that was due begins, and what is still in the queue then is never sent (`sent_before_leaving`).
-/

namespace IrcGateway.Gateway

open IrcGateway.Activity IrcGateway.Chat IrcGateway.Protocol IrcGateway.Relay IrcGateway.Service

/-- What a turn asks the service to send. -/
def asked (g : Gateway) (t : Turn) : List Call :=
  (obeyed g t).flatMap (wanted g.connection.relay.roster)

/-- **What a turn sends.** -/
theorem Turned.sends {g g' : Gateway} {client : Client} {token : String} {t : Turn}
    (h : Turned g client token t g') :
    g'.calls.filter isSend = g.calls.filter isSend ++ asked g t := by
  -- only a command of a client that is served asks to send anything
  have hquiet : asked g t = [] → g'.calls.filter isSend = g.calls.filter isSend →
      g'.calls.filter isSend = g.calls.filter isSend ++ asked g t := by
    intro hnothing hsame
    rw [hnothing, hsame, List.append_nil]
  cases h with
  | logIn hp hn => exact hquiet (by simp [asked, obeyed, hp]) (by simp [isSend])
  | seePassword hp hs => exact hquiet (by simp [asked, obeyed, hp]) rfl
  | abort hp ht =>
    refine hquiet ?_ rfl
    rcases hp with ⟨password, hp⟩ | ⟨nick, password, hp⟩ <;> simp [asked, obeyed, hp]
  | ignore hp hq => exact hquiet (by simp [asked, obeyed, hp]) rfl
  | accept hp ha => exact hquiet (by simp [asked, obeyed, hp]) rfl
  | refuse hp ha => exact hquiet (by simp [asked, obeyed, hp]) rfl
  | greet hp hw => exact hquiet (by simp [asked, obeyed, hp]) rfl
  | unheard hp hw => exact hquiet (by simp [asked, obeyed, hp]) rfl
  | begin hp =>
    refine hquiet (by simp [asked, obeyed, hp]) ?_
    unfold beginServing
    cases g.keepsTimes <;> simp [isSend]
  | leave hp hs => exact hquiet (by simp [asked, obeyed, hp, took]) rfl
  | @event account e rest hp hs he =>
    have hrelayed := relayed_handleEvent { g with events := rest } client token account e
    obtain ⟨more, hcalls, hmore⟩ := hrelayed.calls
    refine hquiet (by simp [asked, obeyed, hp, took]) ?_
    -- relaying asks for members and files
    have hnone : more.filter isSend = [] := by
      rw [List.filter_eq_nil_iff]
      intro call hmem
      simp [(hmore call hmem).2]
    rw [hcalls, List.filter_append, hnone, List.append_nil]
  | lose hp hs he hend => exact hquiet (by simp [asked, obeyed, hp, took]) rfl
  | @command account m rest hp hs he hend hq =>
    have hasked : asked g .command = wanted g.connection.relay.roster m := by
      simp [asked, obeyed, hp, took, hq]
    have hall : (wanted g.connection.relay.roster m).filter isSend
        = wanted g.connection.relay.roster m :=
      List.filter_eq_self.mpr fun call hmem => (isSend_of_mem_wanted hmem).2
    rw [calls_handleCommand, List.filter_append, hasked]
    exact congrArg (_ ++ ·) hall

theorem sends_run (g : Gateway) (acts : List Act) :
    (g.run acts).calls.filter isSend
      = g.calls.filter isSend ++ along (Act.ofTurn asked) g acts := by
  induction acts generalizing g with
  | nil => simp [along]
  | cons act rest ih =>
    have hact : (act.apply g).calls.filter isSend
        = g.calls.filter isSend ++ act.ofTurn asked g := by
      cases happens g act with
      | turn hact happly ht hnote =>
        rw [hnote, happly]
        exact ht.sends
      | beside hphase hcalls htalk hstopped hnote => rw [hnote, hcalls, List.append_nil]
    rw [run_cons, ih, hact, along, List.append_assoc]

/-! ### The way of commands -/

/-- Nobody but the client brings the connection to its end, and the client does so by what it
sends. -/
def Act.Quiet : Act → Prop
  | dropClient => False
  | cancel => False
  | endEvents => False
  | _ => True

theorem finished_apply {g : Gateway} (h : g.Finished) (act : Act) : (act.apply g).Finished := by
  obtain ⟨moves, hmoves⟩ := exists_comesTo g act
  cases hmoves.goes with
  | on hs hf => exact hf.mpr h
  | finishes hs hf => exact hf

theorem finished_run {g : Gateway} (h : g.Finished) (acts : List Act) : (g.run acts).Finished := by
  induction acts generalizing g with
  | nil => exact h
  | cons act rest ih => exact ih (finished_apply h act)

/-- A gateway that has finished takes no turn. -/
theorem along_of_finished {α : Type} (note : Gateway → Turn → List α) {g : Gateway}
    (h : g.Finished) (acts : List Act) : along (Act.ofTurn note) g acts = [] := by
  induction acts generalizing g with
  | nil => rfl
  | cons act rest ih =>
    rw [along, ih (finished_apply h act), List.append_nil]
    cases happens g act with
    | turn hact happly ht => exact absurd h ht.not_finished
    | beside hphase hcalls htalk hstopped hnote => exact hnote note

section InOrder

variable {capacity : Nat} {heard done : List UInt8} {taken : List Message} {g : Gateway}

theorem inOrder_apply (h : Session.InOrder capacity heard taken done g.session) {act : Act}
    (hquiet : act.Quiet) (hf : ¬ (act.apply g).Finished) :
    ∃ done', Session.InOrder capacity (heard ++ act.heard g) (taken ++ act.ofTurn took g) done'
      (act.apply g).session := by
  obtain ⟨moves, hmoves⟩ := exists_comesTo g act
  -- the act is quiet, and so are the gateway's own moves
  have hundisturbed : ∀ move ∈ moves, move.Undisturbed := by
    intro move hmem
    rcases hmoves.own move hmem with hmove | hown
    · cases act <;> simp_all [Act.move?, Act.Quiet] <;> subst hmove <;> trivial
    · cases move <;> trivial
  cases hmoves.goes with
  | on hs =>
    rw [hs, ← hmoves.taken, ← hmoves.heard]
    exact h.run hundisturbed
  | finishes hs hfinished => exact absurd hfinished hf

/-- While the gateway serves, the client's commands are in order. -/
theorem inOrder_run (h : Session.InOrder capacity heard taken done g.session) {acts : List Act}
    (hquiet : ∀ act ∈ acts, act.Quiet) (hf : ¬ (g.run acts).Finished) :
    ∃ done', Session.InOrder capacity (heard ++ along Act.heard g acts)
      (taken ++ along (Act.ofTurn took) g acts) done' (g.run acts).session := by
  induction acts generalizing heard taken done g with
  | nil => exact ⟨done, by simpa [along] using h⟩
  | cons act rest ih =>
    -- a gateway that has not finished at the end has not finished before
    have hfirst : ¬ (act.apply g).Finished := fun hfinished => hf (finished_run hfinished rest)
    obtain ⟨done', hact⟩ := inOrder_apply h (hquiet act List.mem_cons_self) hfirst
    rw [along, along, ← List.append_assoc, ← List.append_assoc]
    exact ih hact (fun a ha => hquiet a (List.mem_cons_of_mem _ ha)) hf

end InOrder

/-- A command is thrown away or acted on. -/
theorem took_eq {g g' : Gateway} {client : Client} {token : String} {t : Turn}
    (h : Turned g client token t g') : took g t = ignored g t ++ obeyed g t := by
  have hnothing : took g t = [] → took g t = ignored g t ++ obeyed g t := by
    intro ht
    unfold ignored obeyed
    cases g.phase <;> simp [ht]
  cases h with
  | abort hp ht =>
    refine hnothing ?_
    rcases ht with rfl | ⟨rfl, hq⟩
    · rfl
    · simp [took, hq]
  | ignore hp hq => simp [ignored, obeyed, hp]
  | command hp hs he hend hq => simp [ignored, obeyed, hp]
  | _ => exact hnothing rfl

theorem ofTurn_took (g : Gateway) (act : Act) :
    act.ofTurn took g = act.ofTurn ignored g ++ act.ofTurn obeyed g := by
  cases happens g act with
  | turn hact happly ht hnote => simpa only [hnote] using took_eq ht
  | beside hphase hcalls htalk hstopped hnote => simp [hnote]

/-- No command is thrown away once one was acted on. -/
theorem along_took {first : Gateway} (hfirst : Gate [] [] first)
    (hr : Session.Registered [] first.session) (acts : List Act) :
    along (Act.ofTurn took) first acts
      = along (Act.ofTurn ignored) first acts ++ along (Act.ofTurn obeyed) first acts := by
  induction acts using List.reverseRecOn with
  | nil => rfl
  | append_singleton front act ih =>
    have hgate := hfirst.run hr front
    simp only [along_append, along, List.append_nil, List.nil_append] at hgate ⊢
    rw [ih, ofTurn_took]
    by_cases hignored : act.ofTurn ignored (first.run front) = []
    · simp [hignored]
    · -- before the login none was acted on
      have hphase : ∃ password, (first.run front).phase = .login password := by
        cases hp : (first.run front).phase with
        | login password => exact ⟨password, rfl⟩
        | _ => cases act <;> simp [Act.ofTurn, ignored, hp] at hignored
      obtain ⟨password, hp⟩ := hphase
      simp only [Gate, hp] at hgate
      simp [hgate.2.1]

/-! ### The end -/

theorem eventsEnded_run {g : Gateway} {acts : List Act} (hquiet : ∀ act ∈ acts, act.Quiet) :
    (g.run acts).eventsEnded = g.eventsEnded := by
  induction acts generalizing g with
  | nil => rfl
  | cons act rest ih =>
    rw [run_cons, ih fun a ha => hquiet a (List.mem_cons_of_mem _ ha)]
    have hact := hquiet act List.mem_cons_self
    -- only the end of the events, which is not quiet, is noted there
    cases act with
    | turn client token t =>
      cases hturn : g.turn client token t with
      | none => simp [Act.apply, hturn]
      | some g' => simpa [Act.apply, hturn] using (turned hturn).eventsEnded
    | deliver e =>
      obtain ⟨events, happly⟩ := exists_deliverEvent_eq g e
      rw [Act.apply, happly]
    | endEvents => exact hact.elim
    | _ => rfl

/-- A gateway that has served its client to the end noticed that the session had stopped. -/
theorem leave_of_finished {first : Gateway} (hfirst : ¬ first.Finished)
    (hopen : first.eventsEnded = false) {acts : List Act} (hquiet : ∀ act ∈ acts, act.Quiet)
    (hok : (first.run acts).phase = .finished (.ok ())) :
    ∃ before client token after account, acts = before ++ .turn client token .noticeStop :: after ∧
      (first.run before).phase = .serving account ∧ (first.run before).session.stopped = true := by
  obtain ⟨before, act, after, rfl, hbefore, hafter⟩ :=
    exists_act_of_run (p := fun g => g.phase = .finished (.ok ())) (fun h => hfirst ⟨_, h⟩) hok
  cases happens (first.run before) act with
  | beside hphase => exact absurd (hphase ▸ hafter) hbefore
  | @turn client token t g' hact happly ht =>
    have hquiet' : ∀ a ∈ before, a.Quiet := fun a ha => hquiet a (List.mem_append_left _ ha)
    rw [happly] at hafter
    -- all other turns go on, finish with an error, or find the events ended, which nobody has done
    cases ht with
    | @leave account hp hs => exact ⟨before, client, token, after, account, by rw [hact], hp, hs⟩
    | lose hp hs he hend => simp [eventsEnded_run hquiet', hopen] at hend
    | event hp hs he => simp [(relayed_handleEvent _ _ _ _ _).phase, hp] at hafter
    | @command account m rest hp hs he hend hq =>
      rcases phase_handleCommand
          ((first.run before).withSession { (first.run before).session with queue := rest })
          client m with hphase | ⟨e, hphase, -⟩
      · exact absurd (hphase.symm.trans hafter) (by simp [hp])
      · exact absurd (hphase.symm.trans hafter) (by simp)
    | ignore hp hq => simp [hp] at hafter
    | _ => simp [finish, beginServing] at hafter

/-- Nothing more is heard once the session has stopped for the end of input. -/
theorem heard_of_ended {g : Gateway} (hs : g.session.stopped = true)
    (he : g.session.inputEnded = true) (acts : List Act) : along Act.heard g acts = [] := by
  induction acts generalizing g with
  | nil => rfl
  | cons act rest ih =>
    -- behind the end of the input nothing is received
    have hact : act.heard g = [] := by
      cases act with
      | receive bytes => simp [Act.heard, Session.Move.heard, he]
      | _ => rfl
    obtain ⟨moves, hmoves⟩ := exists_comesTo g act
    have hstopped := Session.stopped_run hs moves
    have hended := Session.inputEnded_run_of_stopped hs he moves
    have hnext : (act.apply g).session.stopped = true ∧
        (act.apply g).session.inputEnded = true := by
      cases hmoves.goes with
      | on hs' => exact hs' ▸ ⟨hstopped, hended⟩
      | finishes hs' => exact hs' ▸ ⟨rfl, hended⟩
    rw [along, hact, ih hnext.1 hnext.2, List.append_nil]

/-- **What was sent when a client has left.** Serve a client to the end of its connection, which
nobody but the client brings about.

* Every command of the client, up to QUIT, was thrown away before the login, or acted on, or is in
  the queue as the gateway notices that the session has stopped, and they stand in the order in
  which they were said. The queue holds no more than it can.
* What was sent is what the commands acted on wanted, each once.
* It is all that was due exactly if no command in the queue wants anything. -/
theorem sent_before_leaving (queueSize : Nat) (provider : Map.Provider) (keepsTimes : Bool)
    (store : Media.Store) (timeline : Timeline) (acts : List Act)
    (quiet : ∀ act ∈ acts, act.Quiet)
    (ok : ((start queueSize provider keepsTimes store timeline).run acts).phase
      = .finished (.ok ())) :
    let first := start queueSize provider keepsTimes store timeline
    ∃ before client token after account, acts = before ++ .turn client token .noticeStop :: after ∧
      let g := first.run before
      let sends := (first.run acts).calls.filter isSend
      let due := sends ++ g.session.queue.flatMap (wanted g.connection.relay.roster)
      (g.phase = .serving account ∧ g.session.stopped = true) ∧
      along (Act.ofTurn ignored) first acts ++ along (Act.ofTurn obeyed) first acts
          ++ g.session.queue = Session.inbound (along Act.heard first acts) ∧
      g.session.queue.length ≤ max queueSize 1 ∧
      sends = along (Act.ofTurn asked) first acts ∧
      (sends = due ↔ ∀ m ∈ g.session.queue, wanted g.connection.relay.roster m = []) := by
  intro first
  have hgate : Gate [] [] first := Gate.start ..
  have hr : Session.Registered [] first.session := Session.Registered.start queueSize
  have hlogin : first.phase = .login none := rfl
  obtain ⟨before, client, token, after, account, rfl, hp, hs⟩ :=
    leave_of_finished (not_finished_of_phase hlogin (by simp)) rfl quiet ok
  refine ⟨before, client, token, after, account, rfl, ⟨hp, hs⟩, ?_⟩
  obtain ⟨done, horder⟩ := inOrder_run (Session.InOrder.start queueSize)
    (fun act ha => quiet act (List.mem_append_left _ ha))
    (not_finished_of_phase (g := first.run before) hp (by simp))
  rw [List.nil_append, List.nil_append] at horder
  -- the gateway finishes as it notices the stop, and takes nothing from then on
  have hleave : (first.run before).turn client token .noticeStop
      = some ((first.run before).finish (.ok ())) := by
    simp [turn, hp, hs]
  have hover : (Act.apply (first.run before) (.turn client token .noticeStop)).Finished := by
    simp only [Act.apply, hleave]
    exact ⟨_, rfl⟩
  have htook : along (Act.ofTurn took) first (before ++ .turn client token .noticeStop :: after)
      = along (Act.ofTurn took) first before := by
    rw [along_append, along, along_of_finished _ hover]
    simp [Act.ofTurn, took]
  refine ⟨?_, horder.fits, ?_, ?_⟩
  · rw [← along_took hgate hr, htook, along_append]
    exact horder.of_stopped_append hs fun he => heard_of_ended hs he _
  · exact sends_run first _
  · rw [List.self_eq_append_right, List.flatMap_eq_nil_iff]

/-! ### A client that leaves -/

namespace Sample

/-- The gateway takes the message before the reader comes to QUIT. -/
theorem bye_is_sent :
    let acts := entering ++ [say "PRIVMSG #family :bye\r\nQUIT\r\n", .read, .read, take .command,
      .read, take .noticeStop]
    ((∀ act ∈ acts, act.Quiet) ∧ (first.run acts).phase = .finished (.ok ())) ∧
      (first.run acts).calls.filter isSend = [.send Relay.Sample.family.id "bye"] ∧
      ∃ left : List Message, left.length ≤ 10 ∧
        along (Act.ofTurn ignored) first acts ++ along (Act.ofTurn obeyed) first acts ++ left
          = Session.inbound (along Act.heard first acts) := by
  intro acts
  have hquiet : ∀ act ∈ acts, act.Quiet := by
    simp [acts, entering, say, take, Act.Quiet]
  have hok : (first.run acts).phase = .finished (.ok ()) := by decide +kernel
  obtain ⟨before, -, -, -, -, -, -, hall, hfits, -⟩ :=
    sent_before_leaving 10 .openStreetMap false default {} acts hquiet hok
  exact ⟨⟨hquiet, hok⟩, by decide +kernel, _, hfits, hall⟩

/-- Where the reader comes to QUIT before the gateway takes the message, the message is lost: the
group is known and the message waits in the queue, but the gateway looks for the stop first. -/
theorem bye_is_lost :
    let before := entering ++ [say "PRIVMSG #family :bye\r\nQUIT\r\n", .read, .read, .read]
    let acts := before ++ [take .command, take .noticeStop]
    let bye : Message := { command := "PRIVMSG", params := ["#family", "bye"] }
    ((∀ act ∈ acts, act.Quiet) ∧ (first.run acts).phase = .finished (.ok ())) ∧
      Session.inbound (along Act.heard first acts) = [bye] ∧
      (first.run before).session.queue = [bye] ∧
      wanted (first.run before).connection.relay.roster bye
        = [.send Relay.Sample.family.id "bye"] ∧
      (first.run acts).calls.filter isSend = [] := by
  intro before acts bye
  have hquiet : ∀ act ∈ acts, act.Quiet := by
    simp [acts, before, entering, say, take, Act.Quiet]
  exact ⟨⟨hquiet, by decide +kernel⟩, by decide +kernel⟩

end Sample

end IrcGateway.Gateway
