import IrcGateway.Proofs.Relay.Run

/-!
# Handling each event once

Wherever members, downloads, files or lines fail along a run, no event of a chat passes the check
for repeats twice. What an event says, the news it brings, its time and its file therefore come from
one delivery.

The invariant is in `hasSeen_of_mem_passed`: an event that passes later is not among those handled
yet. Every delivery puts its event among them, whatever becomes of it afterwards, with one exception
(`hasSeen_handle_iff`): where the members of a new chat cannot be asked for, nothing happens at all,
and the event may come again.
-/

namespace IrcGateway.Relay

open IrcGateway.Activity IrcGateway.Chat IrcGateway.Media IrcGateway.Service

/-- What passes the check for repeats in a step, by chat and event. -/
def Step.passed (s : State) : Step → List (ContactId × String)
  | deliver c e => if passes c s e then [(e.chat.id, e.id)] else []
  | outside _ _ => []

/-- What passes the check for repeats along a run, in order. -/
def passed (s : State) : List Step → List (ContactId × String)
  | [] => []
  | step :: rest => step.passed s ++ passed (step.outcome s).state rest

/-- What passes in a step was not handled before it and is handled after it. -/
theorem hasSeen_of_mem_step_passed {s : State} {step : Step} {p : ContactId × String}
    (h : p ∈ step.passed s) :
    s.roster.hasSeen p.1 p.2 = false ∧ (step.outcome s).state.roster.hasSeen p.1 p.2 = true := by
  cases step with
  | outside store saver => simp [Step.passed] at h
  | deliver c e =>
    by_cases hp : passes c s e = true
    · obtain rfl : p = (e.chat.id, e.id) := by simpa [Step.passed, hp] using h
      obtain ⟨calls, roster, room, hreg, -, hs⟩ := passes_iff.mp hp
      exact ⟨hs, (hasSeen_handle_iff c s e _ _).mpr
        (.inr ⟨hreg.kind, hreg.not_unanswered, rfl, rfl⟩)⟩
    · simp [Step.passed, hp] at h

/-- What passes along a run was not handled before it. -/
theorem hasSeen_of_mem_passed {s : State} {steps : List Step} {p : ContactId × String}
    (h : p ∈ passed s steps) : s.roster.hasSeen p.1 p.2 = false := by
  induction steps generalizing s with
  | nil => simp [passed] at h
  | cons step rest ih =>
    rcases List.mem_append.mp h with hfirst | hrest
    · exact (hasSeen_of_mem_step_passed hfirst).1
    · -- handled before the step would be handled after it
      by_contra hs
      have hafter := hasSeen_run (Bool.not_eq_false _ ▸ hs) [step]
      rw [run_cons, run_nil, ih hrest] at hafter
      exact absurd hafter (by simp)

/-- No event of a chat passes twice. -/
theorem nodup_passed (s : State) (steps : List Step) : (passed s steps).Nodup := by
  induction steps generalizing s with
  | nil => exact List.nodup_nil
  | cons step rest ih =>
    refine List.nodup_append.mpr ⟨?_, ih _, ?_⟩
    · cases step with
      | outside store saver => exact List.nodup_nil
      | deliver c e =>
        simp only [Step.passed]
        split
        · exact List.nodup_singleton _
        · exact List.nodup_nil
    · -- what passed first is handled from then on, and what is handled does not pass
      intro p hp p' hp' heq
      subst heq
      have hafter := (hasSeen_of_mem_step_passed hp).2
      rw [hasSeen_of_mem_passed hp'] at hafter
      exact absurd hafter (by simp)

/-- An unanswered event leaves no trace, whatever follows. -/
theorem outcome_of_unanswered {c : Circumstances} {s : State} {e : Event}
    (hk : e.kind ≠ internalKind) (hu : Unanswered c s e) :
    ((Step.deliver c e).outcome s).state = s ∧ ((Step.deliver c e).outcome s).lines = [] := by
  obtain ⟨fault, -, heq⟩ := handle_of_unanswered hk hu
  exact ⟨by rw [Step.outcome, heq], by rw [Step.outcome, heq]⟩

/-- An event whose delivery went unanswered passes as soon as it is delivered again to a relay that
can register its chat and write to the client, unless it was delivered in between. -/
theorem passes_after_unanswered {c c' : Circumstances} {s : State} {e : Event} {mid : List Step}
    (hk : e.kind ≠ internalKind) (hu : Unanswered c s e)
    (hmid : ∀ c'' e', Step.deliver c'' e' ∈ mid → ¬ (e'.chat.id = e.chat.id ∧ e'.id = e.id))
    (hup : c'.Up) (hanswer : ¬ Unanswered c' (run s mid) e) : passes c' (run s mid) e = true := by
  have hnew : s.roster.hasSeen e.chat.id e.id = false := by
    rw [Roster.hasSeen, hu.1, Option.any_none]
  rcases registered_or_unanswered c' (run s mid) hk with ⟨calls, roster, room, h⟩ | hu'
  · exact passes_iff.mpr ⟨calls, roster, room, h, deliver_of_up hup 0 _,
      hasSeen_run_of_not_delivered hnew hmid⟩
  · exact absurd hu' hanswer

/-- **Handled at most once.** Along every run of a relay, wherever members, downloads, files or
lines fail, each event of a chat passes the check for repeats at most once. Of a delivery `e` on the
way:

* if it does not pass, it has no effect of its own;
* if its chat is new and the members cannot be asked for, it fails and leaves no trace: without it
  the run writes the same lines and ends in the same state. A later delivery is then handled in
  full: it meets the state that it would meet without the one that failed, and what comes of it is
  what comes of a first delivery there;
* otherwise the event counts as handled afterwards, whatever came of it. -/
theorem handled_at_most_once (activity : Tracker) (store : Store) (steps : List Step) :
    (passed (.start activity store) steps).Nodup ∧
    ∀ pre c e post, steps = pre ++ .deliver c e :: post →
      let s := run (.start activity store) pre
      (passes c s e = false → OnlyEnters c s e) ∧
      (e.kind ≠ internalKind → Unanswered c s e →
        (∃ fault, handle c s e =
          { state := s, calls := [.members e.chat.id], result := .error (.service fault) }) ∧
        run (.start activity store) steps = run (.start activity store) (pre ++ post) ∧
        output (.start activity store) steps = output (.start activity store) (pre ++ post) ∧
        ∀ mid c' rest, post = mid ++ .deliver c' e :: rest →
          (∀ c'' e', Step.deliver c'' e' ∈ mid → ¬ (e'.chat.id = e.chat.id ∧ e'.id = e.id)) →
          c'.Up → ¬ Unanswered c' (run s mid) e →
          let s' := run s mid
          run (.start activity store) (pre ++ .deliver c e :: mid) = s' ∧
          run (.start activity store) (pre ++ mid) = s' ∧
          passes c' s' e = true ∧
          ∃ calls roster room, Registered c' s' e calls roster room ∧
            let o := handleFirst c' (burst c' room).length
              { s' with roster := roster.update room.id Room.enter } room e
            handle c' s' e =
              { o with calls := calls ++ o.calls, lines := burst c' room ++ o.lines }) ∧
      (e.kind ≠ internalKind → ¬ Unanswered c s e →
        (handle c s e).state.roster.hasSeen e.chat.id e.id = true) := by
  refine ⟨nodup_passed _ steps, ?_⟩
  rintro pre c e post rfl s
  refine ⟨onlyEnters_of_not_passes, ?_, ?_⟩
  · -- the delivery fails
    intro hk hu
    obtain ⟨hstate, hlines⟩ := outcome_of_unanswered hk hu
    obtain ⟨fault, -, heq⟩ := handle_of_unanswered hk hu
    -- the state is the same, so what follows cannot tell whether the delivery was there
    refine ⟨⟨fault, heq⟩, ?_, ?_, ?_⟩
    · rw [run_append, run_append, run_cons, hstate]
    · rw [output_append, output_append, output, hlines, hstate, List.nil_append]
    · rintro mid c' rest - hmid hup hanswer
      have hpasses := passes_after_unanswered hk hu hmid hup hanswer
      refine ⟨?_, run_append _ pre mid, hpasses, handle_of_passes hpasses⟩
      rw [run_append, run_cons, hstate]
  · -- it does not
    intro hk hu
    exact (hasSeen_handle_iff c s e _ _).mpr (.inr ⟨hk, hu, rfl, rfl⟩)

/-- The members cannot be asked for when Bob leaves; delivered again, the news is handled, and Alice
is told of it behind the burst. -/
theorem passes_when_answered :
    let mute := { Sample.plain with
      client := { Sample.client with members := fun _ => .error (.notFound "chat") } }
    let e := Sample.leave "n1" [Sample.bob]
    let steps := [Step.deliver mute e, .deliver Sample.plain e]
    (handle mute (.start {} default) e).result = .error (.service (.notFound "chat")) ∧
      output (.start {} default) steps = output (.start {} default) [.deliver Sample.plain e] ∧
      passes Sample.plain (.start {} default) e = true ∧
      (output (.start {} default) steps).map (·.line) =
        [":alice JOIN #Family", ":whapp-irc 332 alice #Family Family",
          ":whapp-irc 353 alice = #Family alice",
          ":whapp-irc 366 alice #Family :End of /NAMES list", ":31611111111 PART #Family"] := by
  intro mute e steps
  have hk : e.kind ≠ internalKind := by decide +kernel
  have hu : Unanswered mute (.start {} default) e := ⟨rfl, .notFound "chat", rfl⟩
  have hanswer : ¬ Unanswered Sample.plain (.start {} default) e := by
    rintro ⟨-, fault, hm⟩
    simp [Sample.plain, Sample.client] at hm
  obtain ⟨-, hall⟩ := handled_at_most_once {} default steps
  obtain ⟨-, htrace, -⟩ := hall [] mute e [.deliver Sample.plain e] rfl
  obtain ⟨-, -, houtput, hlater⟩ := htrace hk hu
  obtain ⟨-, -, hpasses, -⟩ := hlater [] Sample.plain [] rfl (by simp) Sample.plain_up hanswer
  exact ⟨by decide +kernel, houtput, hpasses, by decide +kernel⟩

end IrcGateway.Relay
