import IrcGateway.Proofs.Relay.Effects

/-!
# Runs of a relay

A relay starts without any chat and is then delivered events, each under circumstances of its own:
members may or may not be told, files may or may not be there, lines may fail anywhere. Between two
events others act on what the relay shares with them: the folder of media files, and the saver of
the times.

What holds of the roster along a run is carried from event to event (`run_roster_induction`): its
rooms stay distinct (`distinct_run`), it only grows at its end (`extends_run`), and what was handled
stays handled (`hasSeen_run`).
-/

namespace IrcGateway.Relay

open IrcGateway.Activity IrcGateway.Chat IrcGateway.Media IrcGateway.Service

/-- A relay that has not heard of any chat yet. -/
def State.start (activity : Tracker) (store : Store) : State :=
  { activity, store }

/-- What can happen to a relay next. -/
inductive Step where
  /-- An event is delivered to it. -/
  | deliver (c : Circumstances) (e : Event)
  /-- Others leave the store and the saver of the times in another state. -/
  | outside (store : Store) (saver : Option Saver)

namespace Step

/-- What comes of a step. -/
def outcome (s : State) : Step → Outcome
  | deliver c e => handle c s e
  | outside store saver => { state := { s with store, activity := { s.activity with saver } } }

/-- Every line of the step can be written. -/
def Up : Step → Prop
  | deliver c _ => c.Up
  | outside _ _ => True

end Step

/-- The state after a run. -/
def run (s : State) (steps : List Step) : State :=
  steps.foldl (fun s step => (step.outcome s).state) s

/-- The lines written along a run. -/
def output (s : State) : List Step → List Dated
  | [] => []
  | step :: rest => (step.outcome s).lines ++ output (step.outcome s).state rest

@[simp] theorem run_nil (s : State) : run s [] = s := rfl

@[simp] theorem run_cons (s : State) (step : Step) (rest : List Step) :
    run s (step :: rest) = run (step.outcome s).state rest := rfl

theorem run_append (s : State) (steps more : List Step) :
    run s (steps ++ more) = run (run s steps) more :=
  List.foldl_append

theorem output_append (s : State) (steps more : List Step) :
    output s (steps ++ more) = output s steps ++ output (run s steps) more := by
  induction steps generalizing s with
  | nil => rfl
  | cons step rest ih => simp [output, ih]

/-- What every event keeps true of the roster holds along a run. -/
theorem run_roster_induction {p : Roster → Prop}
    (hp : ∀ (c : Circumstances) (s : State) (e : Event), p s.roster → p (handle c s e).state.roster)
    {s : State} (hs : p s.roster) (steps : List Step) : p (run s steps).roster := by
  induction steps generalizing s with
  | nil => exact hs
  | cons step rest ih =>
    rw [run_cons]
    cases step with
    | deliver c e => exact ih (hp c s e hs)
    | outside store saver =>
      -- others do not touch the roster
      exact ih hs

theorem distinct_run {s : State} (hs : s.roster.Distinct) (steps : List Step) :
    (run s steps).roster.Distinct :=
  run_roster_induction (fun c _ e hd => distinct_handle c e hd) hs steps

theorem extends_run (s : State) (steps : List Step) :
    Roster.Extends s.roster (run s steps).roster :=
  run_roster_induction (p := fun roster => Roster.Extends s.roster roster)
    (fun c s' e hext => hext.trans (extends_handle c s' e)) (Roster.Extends.refl _) steps

theorem distinct_run_start (activity : Tracker) (store : Store) (steps : List Step) :
    (run (.start activity store) steps).roster.Distinct :=
  distinct_run Roster.distinct_empty steps

/-- What was handled stays handled. -/
theorem hasSeen_run {s : State} {id : ContactId} {event : String}
    (h : s.roster.hasSeen id event = true) (steps : List Step) :
    (run s steps).roster.hasSeen id event = true :=
  run_roster_induction (p := fun roster => roster.hasSeen id event = true)
    (fun c s' e hs => (hasSeen_handle_iff c s' e id event).mpr (.inl hs)) h steps

/-- Only a delivery of an event makes it count as handled. -/
theorem hasSeen_run_of_not_delivered {s : State} {id : ContactId} {event : String}
    (h : s.roster.hasSeen id event = false) {steps : List Step}
    (hnot : ∀ c e, Step.deliver c e ∈ steps → ¬ (e.chat.id = id ∧ e.id = event)) :
    (run s steps).roster.hasSeen id event = false := by
  induction steps generalizing s with
  | nil => exact h
  | cons step rest ih =>
    rw [run_cons]
    refine ih ?_ fun c e hmem => hnot c e (List.mem_cons_of_mem _ hmem)
    cases step with
    | outside store saver => exact h
    | deliver c e =>
      -- an event is marked as seen in its own chat only
      have hfirst := hnot c e List.mem_cons_self
      rw [Bool.eq_false_iff, Ne, Step.outcome, hasSeen_handle_iff]
      rintro (hs | ⟨-, -, hid, hevent⟩)
      · rw [h] at hs
        simp at hs
      · exact hfirst ⟨hid.symm, hevent.symm⟩

/-! ### A small relay

One client, Alice, of a service that knows of no members and has no files, and a group in which she
is with Bob. -/

namespace Sample

def client : Client where
  members _ := .ok []
  download _ := .error (.notFound "media")
  sendFault := none
  login _ _ := none
  storedTimes _ := none

def alice : Account :=
  ⟨⟨"31600000000", "c.us"⟩, "Alice"⟩

def bob : ContactId :=
  ⟨"31611111111", "c.us"⟩

/-- All lines can be written. -/
def plain : Circumstances where
  account := alice
  provider := .openStreetMap
  client := client
  token := "t"
  nick := "alice"
  writeFault _ := none

theorem plain_up : plain.Up :=
  fun _ => rfl

def family : Service.Chat :=
  ⟨⟨"1", "g.us"⟩, "Family", true⟩

/-- The news that people have left the group. -/
def leave (id : String) (people : List ContactId) : Event :=
  { id, chat := family, timestamp := 0, isNotification := true, kind := "gp2", subtype := "leave"
    recipientIds := people }

end Sample

end IrcGateway.Relay
