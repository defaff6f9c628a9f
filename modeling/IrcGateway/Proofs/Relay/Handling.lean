import IrcGateway.Proofs.Chat.Naming
import IrcGateway.Relay.State

/-!
# What handling an event can do

`handle` has five ways through: the event is internal, the members of a new chat cannot be asked
for, the client cannot be brought into the channel, the event was handled before, or it is handled
now. `Handled` names them with everything that holds on the way, and `handled` says that there are
no others. All that later modules say of an event is read off these cases.
-/

namespace IrcGateway.Relay

open IrcGateway.Activity IrcGateway.Chat IrcGateway.Media IrcGateway.Service

/-! ### Writing lines -/

/-- Every line can be written. -/
def Circumstances.Up (c : Circumstances) : Prop :=
  ∀ k, c.writeFault k = none

theorem deliver_of_up {fault : Nat → Option WriteError} (h : ∀ k, fault k = none) (k : Nat)
    (lines : List Dated) : deliver fault k lines = (lines, none) := by
  induction lines generalizing k with
  | nil => rfl
  | cons line rest ih => simp [deliver, h, ih]

/-- What is written of lines is how they begin. -/
theorem written_deliver (fault : Nat → Option WriteError) (k : Nat) (lines : List Dated) :
    (deliver fault k lines).1 <+: lines := by
  induction lines generalizing k with
  | nil => exact List.prefix_rfl
  | cons line rest ih =>
    unfold deliver
    split
    · exact List.nil_prefix
    · exact (List.prefix_cons_inj line).mpr (ih (k + 1))

/-- Lines of which none failed are written. -/
theorem deliver_eq_of_none {fault : Nat → Option WriteError} {k : Nat} {lines : List Dated}
    (h : (deliver fault k lines).2 = none) : deliver fault k lines = (lines, none) := by
  induction lines generalizing k with
  | nil => rfl
  | cons line rest ih =>
    unfold deliver at h ⊢
    split at h
    · simp at h
    · next hf => simp [ih h]

/-- News that the client leaves takes it out of the channel. -/
theorem ite_leaves_eq_update (leaves : Bool) (chat : ContactId) (roster : Roster) :
    (if leaves then roster.update chat (fun room => { room with joined := false }) else roster)
      = roster.update chat (Room.stay !leaves) := by
  cases leaves with
  | false => exact (roster.update_stay_true chat).symm
  | true =>
    have hout : Room.stay false = fun room => { room with joined := false } := by
      funext room
      simp [Room.stay]
    exact hout ▸ rfl

/-- Giving out news changes nothing but whether the client is in the channel, and neither that nor
what is written depends on the roster. -/
theorem exists_deliverNews (fault : Nat → Option WriteError) (chat : ContactId) (k : Nat)
    (news : List News) :
    ∃ stays lines failed, ∀ roster, deliverNews fault chat k roster news =
      (roster.update chat (Room.stay stays), lines, failed) := by
  induction news generalizing k with
  | nil =>
    refine ⟨true, [], none, fun roster => ?_⟩
    rw [roster.update_stay_true]
    rfl
  | cons first rest ih =>
    -- the client stays through all news if it stays through the first and through the rest
    have hrest : ∀ k', ∃ stays lines failed, ∀ roster : Roster,
        deliverNews fault chat k' (roster.update chat (Room.stay !first.leaves)) rest =
          (roster.update chat (Room.stay stays), lines, failed) := by
      intro k'
      obtain ⟨stays, lines, failed, h⟩ := ih k'
      refine ⟨!first.leaves && stays, lines, failed, fun roster => ?_⟩
      rw [h, Roster.update_update (Room.keeps_stay _), Room.stay_comp_stay]
    unfold deliverNews
    simp only [ite_leaves_eq_update]
    cases first.line with
    | none => exact hrest k
    | some line =>
      cases hf : fault k with
      | some e =>
        -- the line failed, and the client was not yet taken out
        refine ⟨true, [], some e, fun roster => ?_⟩
        rw [roster.update_stay_true]
      | none =>
        obtain ⟨stays, lines, failed, h⟩ := hrest (k + 1)
        exact ⟨stays, line :: lines, failed, fun roster => by simp only [h]⟩

/-- If every line can be written, all news is given out, and the client stays unless some of it says
that it leaves. -/
theorem deliverNews_of_up {fault : Nat → Option WriteError} (h : ∀ k, fault k = none)
    (chat : ContactId) (k : Nat) (roster : Roster) (news : List News) :
    deliverNews fault chat k roster news =
      (roster.update chat (Room.stay !news.any (·.leaves)), news.filterMap (·.line), none) := by
  induction news generalizing k roster with
  | nil =>
    change (roster, [], none) = (roster.update chat (Room.stay true), [], none)
    rw [roster.update_stay_true]
  | cons first rest ih =>
    -- the room is left if the first piece of news leaves it or one of the rest does
    have hrest : ∀ k', deliverNews fault chat k' (roster.update chat (Room.stay !first.leaves)) rest
        = (roster.update chat (Room.stay !(first :: rest).any (·.leaves)),
          rest.filterMap (·.line), none) := by
      intro k'
      rw [ih, Roster.update_update (Room.keeps_stay _), Room.stay_comp_stay, List.any_cons,
        Bool.not_or]
    unfold deliverNews
    rw [ite_leaves_eq_update]
    split
    · next hl => rw [hrest, List.filterMap_cons_none hl]
    · next line hl =>
      simp only [h]
      rw [hrest, List.filterMap_cons_some hl]

/-! ### Registering -/

theorem register_of_known {c : Circumstances} {roster : Roster} {chat : Service.Chat} {room : Room}
    (h : roster.byId? chat.id = some room) : register c roster chat = ([], .ok roster) := by
  unfold register
  rw [h]

theorem register_of_fault {c : Circumstances} {roster : Roster} {chat : Service.Chat}
    {fault : Fault} (h : roster.byId? chat.id = none) (hm : c.client.members chat = .error fault) :
    register c roster chat = ([.members chat.id], .error fault) := by
  unfold register
  rw [h, hm]

theorem register_of_members {c : Circumstances} {roster : Roster} {chat : Service.Chat}
    {members : List Participant} (h : roster.byId? chat.id = none)
    (hm : c.client.members chat = .ok members) :
    register c roster chat =
      ([.members chat.id], .ok (roster.insert (Room.ofChat chat members))) := by
  unfold register
  rw [h, hm]

/-- The chat of the event is registered: `calls` were made for that, and it has its room in
`roster`. -/
structure Registered (c : Circumstances) (s : State) (e : Event) (calls : List Call)
    (roster : Roster) (room : Room) : Prop where
  kind : e.kind ≠ internalKind
  register : register c s.roster e.chat = (calls, .ok roster)
  room : roster.byId? e.chat.id = some room

/-- Registering either finds the chat's room or makes a new one, in which nothing was handled. -/
theorem Registered.cases {c : Circumstances} {s : State} {e : Event} {calls : List Call}
    {roster : Roster} {room : Room} (h : Registered c s e calls roster room) :
    (s.roster.byId? e.chat.id = some room ∧ calls = [] ∧ roster = s.roster) ∨
    (s.roster.byId? e.chat.id = none ∧ calls = [.members e.chat.id] ∧ room.joined = false ∧
      room.seen = [] ∧ ∃ members, c.client.members e.chat = .ok members ∧
        roster = s.roster.insert (Room.ofChat e.chat members)) := by
  cases hr : s.roster.byId? e.chat.id with
  | some known =>
    have hreg := h.register
    rw [register_of_known hr, Prod.mk.injEq, Except.ok.injEq] at hreg
    obtain ⟨rfl, rfl⟩ := hreg
    exact .inl ⟨hr ▸ h.room, rfl, rfl⟩
  | none =>
    have hreg := h.register
    cases hm : c.client.members e.chat with
    | error fault =>
      -- then nothing would have been registered
      rw [register_of_fault hr hm] at hreg
      simp at hreg
    | ok members =>
      rw [register_of_members hr hm, Prod.mk.injEq, Except.ok.injEq] at hreg
      obtain ⟨rfl, rfl⟩ := hreg
      -- the room is the one that was just made, and is as `Room.ofChat` makes it
      have hroom := h.room
      rw [Roster.byId?_insert, if_pos (show e.chat.id = (Room.ofChat e.chat members).id from rfl),
        hr, Option.getD_none, Option.some.injEq] at hroom
      subst hroom
      exact .inr ⟨rfl, rfl, rfl, rfl, members, rfl, rfl⟩

/-- The chat of the event is new and its members cannot be asked for. -/
def Unanswered (c : Circumstances) (s : State) (e : Event) : Prop :=
  s.roster.byId? e.chat.id = none ∧ ∃ fault, c.client.members e.chat = .error fault

theorem registered_or_unanswered (c : Circumstances) (s : State) {e : Event}
    (hk : e.kind ≠ internalKind) :
    (∃ calls roster room, Registered c s e calls roster room) ∨ Unanswered c s e := by
  cases hr : s.roster.byId? e.chat.id with
  | some room => exact .inl ⟨_, _, room, hk, register_of_known hr, hr⟩
  | none =>
    cases hm : c.client.members e.chat with
    | error fault => exact .inr ⟨hr, fault, hm⟩
    | ok members =>
      have hroom :=
        (s.roster.byId?_insert (Room.ofChat e.chat members) e.chat.id).trans (if_pos rfl)
      exact .inl ⟨_, _, _, hk, register_of_members hr hm, hroom⟩

theorem Registered.not_unanswered {c : Circumstances} {s : State} {e : Event} {calls : List Call}
    {roster : Roster} {room : Room} (h : Registered c s e calls roster room) :
    ¬ Unanswered c s e := by
  rintro ⟨hnew, fault, hm⟩
  have hreg := h.register
  rw [register_of_fault hnew hm] at hreg
  simp at hreg

/-! ### The ways through -/

/-- The lines that bring the client into the channel of a room where it is not yet. -/
def burst (c : Circumstances) (room : Room) : List Dated :=
  if room.isGroup && !room.joined then joinLines c.nick c.account room else []

theorem handleIn_of_fault {c : Circumstances} {s : State} {room : Room} {e : Event}
    {lines : List Dated} {error : WriteError}
    (hd : deliver c.writeFault 0 (burst c room) = (lines, some error)) :
    handleIn c s room e =
      { state := { s with roster := s.roster.update room.id fun r => r.see e.id }
        lines, result := .error (.join room.identifier error) } := by
  unfold burst at hd
  simp only [handleIn, hd]

theorem handleIn_of_seen {c : Circumstances} {s : State} {room : Room} {e : Event}
    (hd : deliver c.writeFault 0 (burst c room) = (burst c room, none))
    (hs : room.hasSeen e.id = true) :
    handleIn c s room e =
      { state := { s with roster := s.roster.update room.id Room.enter }
        lines := burst c room } := by
  unfold burst at hd ⊢
  simp only [handleIn, hd, hs, if_true]
  rfl

theorem handleIn_of_new {c : Circumstances} {s : State} {room : Room} {e : Event}
    (hd : deliver c.writeFault 0 (burst c room) = (burst c room, none))
    (hs : room.hasSeen e.id = false) :
    handleIn c s room e =
      let o := handleFirst c (burst c room).length
        { s with roster := s.roster.update room.id Room.enter } room e
      { o with lines := burst c room ++ o.lines } := by
  unfold burst at hd ⊢
  simp only [handleIn, hd, hs]
  rfl

theorem burst_eq_nil (c : Circumstances) {room : Room}
    (h : room.isGroup = true → room.joined = true) : burst c room = [] := by
  unfold burst
  rw [if_neg]
  cases hg : room.isGroup with
  | false => simp
  | true => simp [h hg]

theorem burst_of_out (c : Circumstances) {room : Room} (hg : room.isGroup = true)
    (hj : room.joined = false) : burst c room = joinLines c.nick c.account room := by
  unfold burst
  rw [hg, hj]
  rfl

/-- What can come of an event, each way with all that holds on it. -/
inductive Handled (c : Circumstances) (s : State) (e : Event) : Outcome → Prop where
  | internal (hk : e.kind = internalKind) : Handled c s e { state := s }
  | unanswered {fault : Fault} (hk : e.kind ≠ internalKind)
      (hnew : s.roster.byId? e.chat.id = none) (hm : c.client.members e.chat = .error fault) :
      Handled c s e
        { state := s, calls := [.members e.chat.id], result := .error (.service fault) }
  | unjoined {calls : List Call} {roster : Roster} {room : Room} {lines : List Dated}
      {error : WriteError} (h : Registered c s e calls roster room)
      (hd : deliver c.writeFault 0 (burst c room) = (lines, some error)) :
      Handled c s e
        { state := { s with roster := roster.update e.chat.id fun r => r.see e.id }
          calls, lines, result := .error (.join room.identifier error) }
  | repeated {calls : List Call} {roster : Roster} {room : Room}
      (h : Registered c s e calls roster room)
      (hd : deliver c.writeFault 0 (burst c room) = (burst c room, none))
      (hs : room.hasSeen e.id = true) :
      Handled c s e
        { state := { s with roster := roster.update e.chat.id Room.enter }
          calls, lines := burst c room }
  | first {calls : List Call} {roster : Roster} {room : Room} {o : Outcome}
      (h : Registered c s e calls roster room)
      (hd : deliver c.writeFault 0 (burst c room) = (burst c room, none))
      (hs : room.hasSeen e.id = false)
      (ho : o = handleFirst c (burst c room).length
        { s with roster := roster.update e.chat.id Room.enter } room e) :
      Handled c s e { o with calls := calls ++ o.calls, lines := burst c room ++ o.lines }

/-- Handling an event of a registered chat. -/
theorem handle_of_registered {c : Circumstances} {s : State} {e : Event} {calls : List Call}
    {roster : Roster} {room : Room} (h : Registered c s e calls roster room) :
    handle c s e =
      let o := handleIn c { s with roster } room e
      { o with calls := calls ++ o.calls } := by
  unfold handle
  rw [if_neg h.kind, h.register]
  simp only [h.room]

/-- **The ways an event can go.** -/
theorem handled (c : Circumstances) (s : State) (e : Event) : Handled c s e (handle c s e) := by
  by_cases hk : e.kind = internalKind
  · rw [handle, if_pos hk]
    exact .internal hk
  rcases registered_or_unanswered c s hk with ⟨calls, roster, room, h⟩ | ⟨hnew, fault, hm⟩
  · have hid : room.id = e.chat.id := Roster.id_of_byId? h.room
    rw [handle_of_registered h]
    -- the burst comes first, and only behind it stands the check for repeats
    rcases hd : deliver c.writeFault 0 (burst c room) with ⟨lines, none | error⟩
    · have hall := deliver_eq_of_none (congrArg Prod.snd hd)
      cases hs : room.hasSeen e.id with
      | true =>
        rw [handleIn_of_seen hall hs, hid]
        simpa using Handled.repeated h hall hs
      | false =>
        rw [handleIn_of_new hall hs, hid]
        exact .first h hall hs rfl
    · rw [handleIn_of_fault hd, hid]
      simpa using Handled.unjoined h hd
  · rw [handle, if_neg hk, register_of_fault hnew hm]
    exact .unanswered hk hnew hm

/-! ### Where a line comes from -/

/-- A line of a message is a private message that holds a line of a text. -/
theorem exists_privmsg_of_mem_messageLines {render : Event → String} {nick : String}
    {roster : Roster} {room : Room} {e : Event} {d : Dated}
    (h : d ∈ messageLines render nick roster room e) :
    ∃ mark text line, (mark = quoteMark ∨ mark = "") ∧ line ∈ textLines text ∧
      d = ⟨e.stamp, (Protocol.Line.privmsg (speaker nick roster room e) (target nick room e)
        (mark ++ line)).text⟩ := by
  unfold messageLines at h
  simp only at h
  rcases List.mem_append.mp h with h | h
  · split at h
    · obtain ⟨line, hline, rfl⟩ := List.mem_map.mp h
      exact ⟨_, _, line, .inl rfl, hline, rfl⟩
    · simp at h
  · obtain ⟨line, hline, rfl⟩ := List.mem_map.mp h
    exact ⟨_, _, line, .inr rfl, hline, rfl⟩

/-- Giving out news writes lines of the news alone. -/
theorem exists_news_of_mem_deliverNews {fault : Nat → Option WriteError} {chat : ContactId}
    {k : Nat} {roster : Roster} {news : List News} {d : Dated}
    (h : d ∈ (deliverNews fault chat k roster news).2.1) : ∃ n ∈ news, n.line = some d := by
  induction news generalizing k roster with
  | nil => simp [deliverNews] at h
  | cons first rest ih =>
    unfold deliverNews at h
    simp only at h
    split at h
    · obtain ⟨n, hn, hd⟩ := ih h
      exact ⟨n, List.mem_cons_of_mem _ hn, hd⟩
    · -- a line of its own, if that could be written
      next line hline =>
      split at h
      · simp at h
      · rcases List.mem_cons.mp h with rfl | h
        · exact ⟨first, List.mem_cons_self, hline⟩
        · obtain ⟨n, hn, hd⟩ := ih h
          exact ⟨n, List.mem_cons_of_mem _ hn, hd⟩

/-- What an event itself writes is news of its notification, or what is said in it. -/
theorem of_mem_handleFirst {c : Circumstances} {k : Nat} {s : State} {room : Room} {e : Event}
    {d : Dated} (h : d ∈ (handleFirst c k s room e).lines) :
    let roster := s.roster.update room.id fun r => r.see e.id
    (e.isNotification = true ∧ ∃ n ∈ news c.nick c.account roster room e, n.line = some d) ∨
      (e.isNotification = false ∧ ∃ render, d ∈ messageLines render c.nick roster room e) := by
  intro roster
  unfold handleFirst at h
  simp only at h
  split at h
  · simp at h
  split at h
  · next hn =>
    unfold relayNotification at h
    split at h
    · simp at h
    · exact .inl ⟨hn, exists_news_of_mem_deliverNews h⟩
  · next hn =>
    unfold relayMessage at h
    simp only at h
    split at h
    · simp at h
    · exact .inr ⟨by simpa using hn, _, List.IsPrefix.subset (written_deliver _ _ _) h⟩

/-! ### What the service is asked -/

section Calls

variable {c : Circumstances} {s : State} {e : Event} {call : Call}

theorem exists_download_of_mem_storeMedia {store : Store}
    (h : call ∈ (storeMedia c store e).calls) : ∃ event hash, call = .download event hash := by
  unfold storeMedia at h
  split at h
  · simp at h
  · next media _ =>
    have hdownload : call ∈ [Call.download e.id media.fileHash] →
        ∃ event hash, call = .download event hash :=
      fun hmem => ⟨_, _, List.mem_singleton.mp hmem⟩
    split at h
    · simp at h
    simp only at h
    split at h
    · exact hdownload h
    · split at h <;> exact hdownload h

/-- In a registered chat files are all that is asked for. -/
theorem exists_download_of_mem_handleIn {room : Room} (h : call ∈ (handleIn c s room e).calls) :
    ∃ event hash, call = .download event hash := by
  rcases hd : deliver c.writeFault 0 (burst c room) with ⟨lines, none | error⟩
  · have hall := deliver_eq_of_none (congrArg Prod.snd hd)
    cases hs : room.hasSeen e.id with
    | true => simp [handleIn_of_seen hall hs] at h
    | false =>
      -- only a message can bring a file
      rw [handleIn_of_new hall hs] at h
      unfold handleFirst at h
      simp only at h
      split at h
      · simp at h
      split at h
      · unfold relayNotification at h
        split at h <;> simp at h
      · unfold relayMessage at h
        simp only at h
        split at h <;> exact exists_download_of_mem_storeMedia h
  · simp [handleIn_of_fault hd] at h

/-- For an event the members of its chat are asked for, and files. -/
theorem mem_calls_handle (h : call ∈ (handle c s e).calls) :
    call = .members e.chat.id ∨ ∃ event hash, call = .download event hash := by
  by_cases hk : e.kind = internalKind
  · simp [handle, hk] at h
  rcases registered_or_unanswered c s hk with ⟨calls, roster, room, hr⟩ | ⟨hnew, fault, hm⟩
  · rw [handle_of_registered hr] at h
    rcases List.mem_append.mp h with h | h
    · rcases hr.cases with ⟨-, rfl, -⟩ | ⟨-, rfl, -⟩
      · simp at h
      · exact .inl (List.mem_singleton.mp h)
    · exact .inr (exists_download_of_mem_handleIn h)
  · rw [handle, if_neg hk, register_of_fault hnew hm] at h
    exact .inl (List.mem_singleton.mp h)

end Calls

end IrcGateway.Relay
