import IrcGateway.Proofs.Relay.Notifications

/-!
# To whom private messages go

What is said in a group goes to its channel, what the client said to a person goes to that person,
and what a person said to the client goes to the client (`target`). A missed call goes to the
channel of its group too, but in a direct chat it goes to the other person whoever called: where
that person did, the client reads that somebody spoke to itself.

So private messages go where they should but for missed calls in direct chats
(`private_messages_addressed`), of which the first one is misdirected already
(`missed_call_goes_to_caller`).
-/

namespace IrcGateway

open IrcGateway.Chat IrcGateway.Media IrcGateway.Protocol IrcGateway.Service

/-- To whom a private message goes. -/
def Protocol.Line.addressee? : Line → Option String
  | .privmsg _ target _ => some target
  | _ => none

namespace Relay

/-- To whom the private messages among drafts go. -/
def addressees (ds : List Draft) : List String :=
  ds.filterMap (·.line.addressee?)

/-- All private messages among drafts go to one and the same. -/
def AllTo (ds : List Draft) (name : String) : Prop :=
  ∀ who ∈ addressees ds, who = name

/-- The event tells of missed calls, and was not handled before. -/
structure TellsMissedCalls (s : State) (e : Event) : Prop where
  new : s.roster.hasSeen e.chat.id e.id = false
  web : e.isSentByMeFromWeb = false
  notification : e.isNotification = true
  family : (NotificationFamily.ofKind? e.kind).isSome = true
  miss : Change.ofSubtype e.subtype = .miss
  recipients : e.recipientIds ≠ []

section

variable {c : Circumstances} {s : State} {e : Event} {calls : List Call} {store : Store}
  {roster : Roster} {room : Room} {name : String}

theorem addressees_append (ds ds' : List Draft) :
    addressees (ds ++ ds') = addressees ds ++ addressees ds' :=
  List.filterMap_append

/-- What is among others goes where they go. -/
theorem AllTo.mono {ds ds' : List Draft} (h : AllTo ds name) (hsub : ds' ⊆ ds) :
    AllTo ds' name := by
  intro who hwho
  obtain ⟨d, hd, hline⟩ := List.mem_filterMap.mp hwho
  exact h who (List.mem_filterMap.mpr ⟨d, hsub hd, hline⟩)

/-! ### Drafts by addressee -/

/-- Joining says nothing to anybody. -/
theorem addressees_joinDrafts : addressees (joinDrafts c room) = [] := by
  unfold joinDrafts
  split <;> rfl

theorem allTo_textDrafts (stamp : Time.Stamp) (sender text mark : String) :
    AllTo (textDrafts stamp sender name text mark) name := by
  intro who hwho
  obtain ⟨d, hd, hline⟩ := List.mem_filterMap.mp hwho
  obtain ⟨line, -, rfl⟩ := List.mem_map.mp hd
  exact (Option.some.inj hline).symm

/-- All that a message says, and all that it quotes, goes to its target. -/
theorem allTo_speechDrafts : AllTo (speechDrafts c store roster room e) (target c.nick room e) := by
  intro who hwho
  unfold speechDrafts at hwho
  rw [addressees_append, List.mem_append] at hwho
  rcases hwho with hwho | hwho
  · cases hq : e.quoted with
    | none => simp [hq, addressees] at hwho
    | some q =>
      simp only [hq] at hwho
      exact allTo_textDrafts _ _ _ _ who hwho
  · exact allTo_textDrafts _ _ _ _ who hwho

/-- Of all changes only missed calls are told to anybody, and as often as there are recipients. -/
theorem addressees_newsDrafts : addressees (newsDrafts c roster room e) =
    if Change.ofSubtype e.subtype = .miss then e.recipientIds.map fun _ => room.identifier
      else [] := by
  unfold addressees newsDrafts
  cases Change.ofSubtype e.subtype <;>
    simp [recipientLines, Line.addressee?, List.filterMap_map, Function.comp_def]

/-- What an event says of its own goes to the target of the message, unless it tells of missed
calls: those it tells in the room. -/
theorem addressees_drafts (h : Registered c s e calls roster room) {roster' : Roster}
    (hwho : name ∈ addressees (drafts c store roster' room e)) :
    (e.isNotification = false ∧ name = target c.nick room e) ∨
      (TellsMissedCalls s e ∧ name = room.identifier) := by
  -- nothing is said again, of what the client sent itself, or of a kind that cannot be shown
  cases hnew : room.hasSeen e.id with
  | true => simp [drafts, hnew, addressees_joinDrafts] at hwho
  | false =>
    rw [drafts_of_new hnew, addressees_append, addressees_joinDrafts, List.nil_append] at hwho
    rw [h.hasSeen_room] at hnew
    cases hweb : e.isSentByMeFromWeb with
    | true => simp [ownDrafts, hweb, addressees] at hwho
    | false =>
      cases hnotification : e.isNotification with
      | false =>
        rw [ownDrafts_of_said hweb hnotification] at hwho
        exact .inl ⟨rfl, allTo_speechDrafts name hwho⟩
      | true =>
        cases hfamily : NotificationFamily.ofKind? e.kind with
        | none => simp [ownDrafts, hweb, hnotification, hfamily, addressees] at hwho
        | some family =>
          rw [ownDrafts_of_news hweb hnotification hfamily, addressees_newsDrafts] at hwho
          -- of all news only missed calls are told by a private message
          split at hwho
          · next hmiss =>
            obtain ⟨id, hid, rfl⟩ := List.mem_map.mp hwho
            have hrecipients : e.recipientIds ≠ [] := List.ne_nil_of_mem hid
            exact .inr ⟨⟨hnew, hweb, hnotification, by rw [hfamily]; rfl, hmiss, hrecipients⟩, rfl⟩
          · simp at hwho

/-- Missed calls that are told of are told in the room. -/
theorem identifier_mem_addressees (h : Registered c s e calls roster room) {roster' : Roster}
    (hmissed : TellsMissedCalls s e) :
    room.identifier ∈ addressees (drafts c store roster' room e) := by
  obtain ⟨family, hfamily⟩ := Option.isSome_iff_exists.mp hmissed.family
  have hnew := (h.hasSeen_room e.id).trans hmissed.new
  rw [drafts_of_new hnew, ownDrafts_of_news hmissed.web hmissed.notification hfamily,
    addressees_append, addressees_joinDrafts, List.nil_append, addressees_newsDrafts,
    if_pos hmissed.miss]
  obtain ⟨id, hid⟩ := List.exists_mem_of_ne_nil _ hmissed.recipients
  exact List.mem_map_of_mem hid

/-- What is for everybody in the room goes there: all that is said in a group or by the client, and
missed calls. -/
theorem allTo_identifier (h : Registered c s e calls roster room)
    (hcase : room.isGroup = true ∨ e.isSentByMe = true ∨ TellsMissedCalls s e) {roster' : Roster} :
    AllTo (drafts c store roster' room e) room.identifier := by
  intro who hwho
  rcases addressees_drafts h hwho with ⟨hnotification, rfl⟩ | ⟨-, hid⟩
  · have htarget : (room.isGroup || e.isSentByMe) = true := by
      rcases hcase with hg | hs | hmissed
      · rw [hg, Bool.true_or]
      · rw [hs, Bool.or_true]
      · exact absurd (hnotification.symm.trans hmissed.notification) Bool.false_ne_true
    rw [target, if_pos htarget]
  · exact hid

/-- What another person says in a direct chat goes to the client. -/
theorem allTo_client (h : Registered c s e calls roster room) (hdirect : room.isGroup = false)
    (hsaid : e.isSentByMe = false) (hmissed : ¬ TellsMissedCalls s e) {roster' : Roster} :
    AllTo (drafts c store roster' room e) c.nick := by
  intro who hwho
  obtain ⟨-, rfl⟩ := (addressees_drafts h hwho).resolve_right fun hboth => hmissed hboth.1
  rw [target, hdirect, hsaid, Bool.or_self, if_neg Bool.false_ne_true]

/-! ### What is written -/

/-- What is written are drafts, from the first one on. -/
theorem Outcome.Writes.exists_written {o : Outcome} {ds : List Draft} (h : o.Writes ds) :
    ∃ written, written <+: ds ∧ o.lines = written.map Draft.dated ∧
      (o.result = .ok () → written = ds) := by
  refine ⟨ds.take o.lines.length, List.take_prefix _ _, ?_, fun hresult => ?_⟩
  · rw [List.map_take]
    exact List.prefix_iff_eq_take.mp h.lines_prefix
  · rw [h.lines_eq hresult, List.length_map, List.take_length]

/-- **Private messages go where they should, but for missed calls in direct chats.** All private
messages that are written for an event, in whatever state and whatever fails meanwhile, go

* to the channel in a group;
* to the other person if the client sent the message, and as well if calls were missed;
* to the client in any other case.

So if every line can be written, what is written in a direct chat for an event that the client did
not send goes to the client exactly if no missed calls are told for the first time, unless the other
person has the nick of the client. -/
theorem private_messages_addressed (c : Circumstances) (s : State) (e : Event) :
    let o := handle c s e
    ((∀ room, ¬ RoomFor c s e room) → o.lines = []) ∧
    ∀ room, RoomFor c s e room → ∃ ds,
      ds <+: drafts c o.state.store o.state.roster room e ∧ o.lines = ds.map Draft.dated ∧
      (room.isGroup = true ∨ e.isSentByMe = true ∨ TellsMissedCalls s e →
        AllTo ds room.identifier) ∧
      (room.isGroup = false → e.isSentByMe = false →
        (¬ TellsMissedCalls s e → AllTo ds c.nick) ∧
        (c.Up → (AllTo ds c.nick ↔ ¬ TellsMissedCalls s e ∨ room.identifier = c.nick))) := by
  intro o
  constructor
  · -- without a room nothing was registered, and nothing is written
    intro hnone
    by_cases hk : e.kind = internalKind
    · simp only [o, handle_of_internal hk]
    · rcases registered_or_unanswered c s hk with ⟨calls, roster, room, h⟩ | hu
      · exact absurd h.roomFor (hnone room)
      · obtain ⟨fault, -, ho⟩ := handle_of_unanswered hk hu
        simp only [o, ho]
  · intro room hroom
    obtain ⟨calls, roster, h⟩ := hroom.registered
    obtain ⟨ds, hstart, hlines, hall⟩ := (writes_handle h).exists_written
    have hroomward : room.isGroup = true ∨ e.isSentByMe = true ∨ TellsMissedCalls s e →
        AllTo ds room.identifier :=
      fun hcase => (allTo_identifier h hcase).mono hstart.subset
    refine ⟨ds, hstart, hlines, hroomward, fun hdirect hsaid => ?_⟩
    have hclient : ¬ TellsMissedCalls s e → AllTo ds c.nick :=
      fun hmissed => (allTo_client h hdirect hsaid hmissed).mono hstart.subset
    refine ⟨hclient, fun hup => ?_⟩
    by_cases hmissed : TellsMissedCalls s e
    · -- the first of them is written, and goes to the room
      obtain ⟨family, hfamily⟩ := Option.isSome_iff_exists.mp hmissed.family
      have hresult := (handle_of_news h hup hfamily hmissed.web hmissed.notification
        hmissed.new).1
      have hmem : room.identifier ∈ addressees ds :=
        hall hresult ▸ identifier_mem_addressees h hmissed
      constructor
      · exact fun hto => .inr (hto _ hmem)
      · intro hcase
        exact hcase.resolve_left (not_not_intro hmissed) ▸ hroomward (.inr (.inr hmissed))
    · exact iff_of_true (hclient hmissed) (.inl hmissed)

end

namespace Sample

/-- The chat of Bob alone. -/
def direct : Service.Chat :=
  ⟨bob, "Bob", false⟩

end Sample

/-- Bob answers in the direct chat, and both what he quotes and what he says goes to Alice. -/
theorem answer_of_bob_goes_to_alice :
    let e : Event :=
      { id := "m1", chat := Sample.direct, timestamp := 7, origin := some Sample.bob, body := "Here"
        quoted := some { id := "m0", chat := Sample.direct, timestamp := 0, body := "Where?" } }
    let s := State.start {} default
    ∃ room, RoomFor Sample.plain s e room ∧ room.isGroup = false ∧ e.isSentByMe = false ∧
      ¬ TellsMissedCalls s e ∧ Sample.plain.Up ∧
      (handle Sample.plain s e).lines.map (·.line) =
        [":Bob PRIVMSG alice :> Where?", ":Bob PRIVMSG alice Here"] ∧
      ∃ ds, (handle Sample.plain s e).lines = ds.map Draft.dated ∧ AllTo ds "alice" := by
  intro e s
  have hroom := @RoomFor.new Sample.plain s e [] (by decide) rfl rfl
  have hmissed : ¬ TellsMissedCalls s e := fun h => absurd h.notification nofun
  obtain ⟨ds, -, hlines, -, hdirect⟩ := (private_messages_addressed Sample.plain s e).2 _ hroom
  have hclient := ((hdirect rfl rfl).2 Sample.plain_up).mpr (.inl hmissed)
  exact ⟨_, hroom, rfl, rfl, hmissed, Sample.plain_up, by decide +kernel, ds, hlines, hclient⟩

/-- Alice missed a call of Bob, and is told so in a private message to Bob. -/
theorem missed_call_goes_to_caller :
    let e : Event :=
      { id := "n1", chat := Sample.direct, sender := some { id := Sample.bob, name := "Bob" }
        timestamp := 1520132767, isNotification := true, kind := "call_log", subtype := "miss"
        recipientIds := [Sample.alice.id] }
    let o := handle Sample.plain (.start {} default) e
    (∃ room, RoomFor Sample.plain (.start {} default) e room ∧ room.isGroup = false) ∧
      e.isSentByMe = false ∧ actor? e ≠ some Sample.alice.id ∧ Sample.plain.nick = "alice" ∧
      o.lines.map (·.line) = [":Bob PRIVMSG Bob :-- missed call --"] ∧
      (o.lines.map fun d => (Message.parse d.line).map fun m => (m.command, m.params.head?)) =
        [.ok ("PRIVMSG", some "Bob")] := by
  intro e o
  have hroom := @RoomFor.new Sample.plain (.start {} default) e [] (by decide) rfl rfl
  exact ⟨⟨_, hroom, rfl⟩, rfl, by decide, rfl, by decide +kernel, by decide +kernel⟩

end Relay

end IrcGateway
