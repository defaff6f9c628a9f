import IrcGateway.Proofs.Relay.Run

/-!
# Fetching each file once

The file of a message is asked for if the store does not find it under its hash, and asked for
again with every such message until it is stored. What `fetch?` says of an event is read off the
code that stores files (`fetching`): without a fetch nothing is asked for and nothing stored, a
fetch that fails leaves every look-up as it was and the message unrelayed, and a fetch that succeeds
changes the look-ups of one stem.

Look-ups go by the stem of a hash and not by its spelling, and the index neither drops nor changes
an entry. Along a run in which others leave the index alone, a hash therefore finds what it found at
first, and else the file that was stored under its stem (`lookup?_run`), by induction on the run. A
stem that is found is never fetched again.
-/

namespace IrcGateway.Media.Store

/-- Two spellings of one stem find the same file. -/
theorem lookup?_congr {s s' : Store} {hash hash' : String} (hindex : s.index = s'.index)
    (hstem : stem? hash = stem? hash') : s.lookup? hash = s'.lookup? hash' := by
  unfold lookup?
  rw [hindex, hstem]

end IrcGateway.Media.Store

namespace IrcGateway.Relay

open IrcGateway.Activity IrcGateway.Chat IrcGateway.Media IrcGateway.Service

/-! ### Fetching -/

/-- What comes of fetching the file of an event, if it is fetched: it is that of a message that is
relayed, and the store does not have it. -/
def fetch? (c : Circumstances) (s : State) (e : Event) : Option (Except RelayError StoredFile) :=
  if relays c s e then
    match e.media with
    | none => none
    | some media =>
      if (s.store.lookup? media.fileHash).isSome then none
      else
        match c.client.download e with
        | .error fault => some (.error (.service fault))
        | .ok bytes =>
          let extension := extension media.mimeType bytes media.filename
          some ((s.store.add c.token media.fileHash extension bytes).2.mapError .store)
  else none

/-- The files asked for, by event and hash. -/
def downloads (calls : List Call) : List (String × String) :=
  calls.filterMap fun
    | .download event hash => some (event, hash)
    | _ => none

/-- What storing the file of a relayed message can do, by what comes of fetching it. -/
inductive Fetching (s : State) (e : Event) :
    Option (Except RelayError StoredFile) → Storing → Prop where
  | idle (hfound : ∀ media, e.media = some media → (s.store.lookup? media.fileHash).isSome = true) :
      Fetching s e none { store := s.store }
  | failed {media : Media} {error : RelayError} {folder : Option Folder} {waited : Bool}
      (hmedia : e.media = some media) (hmiss : s.store.lookup? media.fileHash = none) :
      Fetching s e (some (.error error))
        { store := { s.store with folder }, calls := [.download e.id media.fileHash], waited
          result := .error error }
  | stored {media : Media} {file : StoredFile} {folder : Option Folder}
      (hmedia : e.media = some media) (hmiss : s.store.lookup? media.fileHash = none)
      (hstem : stem? media.fileHash = some file.stem) :
      Fetching s e (some (.ok file))
        { store := { s.store with folder, index := Store.putIndex s.store.index file }
          calls := [.download e.id media.fileHash], waited := true }

variable {c : Circumstances} {s : State} {e : Event}

theorem fetching (h : relays c s e = true) :
    Fetching s e (fetch? c s e) (storeMedia c s.store e) := by
  unfold fetch? storeMedia
  rw [if_pos h]
  cases hmedia : e.media with
  | none => exact .idle fun media hm => absurd (hmedia.symm.trans hm) (by simp)
  | some media =>
    simp only
    split
    · -- the file is there already
      next hfound =>
      refine .idle fun media' hm => ?_
      obtain rfl := Option.some.inj (hmedia.symm.trans hm)
      exact hfound
    · -- it is downloaded, which may fail, and then put into the store, which may fail too
      next hmissing =>
      have hmiss : s.store.lookup? media.fileHash = none := by simpa using hmissing
      cases c.client.download e with
      | error fault => exact .failed hmedia hmiss
      | ok bytes =>
        simp only
        obtain ⟨folder, ⟨error, hadd⟩ | ⟨stem, hstem, hadd⟩⟩ := s.store.add_cases c.token
          media.fileHash (extension media.mimeType bytes media.filename) bytes
        · rw [hadd]
          cases error with
          | storage => exact .failed hmedia hmiss
          | invalidHash hash => exact .failed hmedia hmiss
        · rw [hadd]
          exact .stored hmedia hmiss hstem

/-! ### What a delivery does about files -/

theorem fetch?_of_not_relays (h : relays c s e = false) : fetch? c s e = none := by
  unfold fetch?
  rw [h]
  rfl

theorem downloads_append (calls more : List Call) :
    downloads (calls ++ more) = downloads calls ++ downloads more :=
  List.filterMap_append

/-- To register a chat no file is asked for. -/
theorem Registered.downloads {calls : List Call} {roster : Roster} {room : Room}
    (h : Registered c s e calls roster room) : downloads calls = [] := by
  rcases h.cases with ⟨-, rfl, -⟩ | ⟨-, rfl, -⟩
  · rfl
  · rfl

/-- A message that is relayed does about files what storing its own does. -/
theorem handle_of_relays (h : relays c s e = true) :
    ∃ calls roster room, Registered c s e calls roster room ∧
      downloads (handle c s e).calls = downloads (storeMedia c s.store e).calls ∧
      (handle c s e).waited = (storeMedia c s.store e).waited ∧
      (∀ error, (storeMedia c s.store e).result = .error error →
        (handle c s e).result = .error error ∧ (handle c s e).lines = burst c room) ∧
      ((storeMedia c s.store e).result = .ok () →
        (handle c s e).lines <+: burst c room ++
          messageLines
            (render c.provider c.account room.members fun hash =>
              ((storeMedia c s.store e).store.lookup? hash).map (·.url))
            c.nick roster room e) := by
  unfold relays at h
  rw [Bool.and_eq_true] at h
  obtain ⟨calls, roster, room, hreg, hhandle⟩ := handle_of_passes h.1
  refine ⟨calls, roster, room, hreg, ?_⟩
  rw [hhandle]
  simp only [handleFirst_of_said c _ _ room h.2, downloads_append, hreg.downloads, List.nil_append]
  -- the client's coming in and the event's being handled change no card
  have hcards : ((roster.update room.id Room.enter).update room.id fun r => r.see e.id).cards =
      roster.cards := by
    rw [Roster.cards_update (Room.keeps_see e.id), Roster.cards_update Room.keeps_enter]
  unfold relayMessage
  simp only [messageLines_congr hcards]
  cases (storeMedia c s.store e).result with
  | error error =>
    -- without its file the message is not written at all
    refine ⟨rfl, rfl, ?_, ?_⟩
    · intro error' herror
      obtain rfl := Except.error.inj herror
      exact ⟨rfl, List.append_nil _⟩
    · intro hok
      exact absurd hok (by simp)
  | ok _ =>
    refine ⟨rfl, rfl, ?_, ?_⟩
    · intro error herror
      exact absurd herror (by simp)
    · intro _
      exact (List.prefix_append_right_inj _).mpr (written_deliver _ _ _)

/-- For an event that is not relayed as a message no file is asked for and none is written. -/
theorem handle_of_not_relays (h : relays c s e = false) :
    downloads (handle c s e).calls = [] ∧ (handle c s e).waited = false := by
  cases hp : passes c s e with
  | false =>
    have honly := onlyEnters_of_not_passes hp
    refine ⟨?_, honly.waited⟩
    -- at most the members of the chat were asked for
    obtain ⟨more, hcalls⟩ := honly.calls
    have hall := congrArg downloads hcalls
    rw [downloads_append] at hall
    exact (List.append_eq_nil_iff.mp hall).1
  | true =>
    obtain ⟨calls, roster, room, hreg, hhandle⟩ := handle_of_passes hp
    rw [relays, hp, Bool.true_and] at h
    obtain ⟨-, hcalls, hwaited⟩ := handleFirst_of_not_said c (burst c room).length
      { s with roster := roster.update room.id Room.enter } room h
    rw [hhandle]
    simp only [downloads_append, hreg.downloads, hcalls]
    exact ⟨rfl, hwaited⟩

/-- Where nothing is fetched, nothing is asked for and nothing is stored. -/
theorem handle_of_fetch?_eq_none (h : fetch? c s e = none) :
    downloads (handle c s e).calls = [] ∧ (handle c s e).state.store = s.store ∧
      (handle c s e).waited = false := by
  rw [store_handle]
  cases hrelays : relays c s e with
  | true =>
    obtain ⟨calls, roster, room, -, hcalls, hwaited, -⟩ := handle_of_relays hrelays
    have hfetching := fetching hrelays
    rw [h] at hfetching
    rw [hcalls, hwaited]
    generalize storeMedia c s.store e = storing at hfetching ⊢
    cases hfetching with
    | idle hfound => exact ⟨rfl, rfl, rfl⟩
  | false =>
    obtain ⟨hcalls, hwaited⟩ := handle_of_not_relays hrelays
    exact ⟨hcalls, rfl, hwaited⟩

/-- What is fetched was missing, and is asked for once. -/
theorem handle_of_fetch?_eq_some {result : Except RelayError StoredFile}
    (h : fetch? c s e = some result) :
    relays c s e = true ∧ ∃ media, e.media = some media ∧ s.store.lookup? media.fileHash = none ∧
      downloads (handle c s e).calls = [(e.id, media.fileHash)] := by
  cases hrelays : relays c s e with
  | false =>
    rw [fetch?_of_not_relays hrelays] at h
    exact absurd h (by simp)
  | true =>
    refine ⟨rfl, ?_⟩
    -- registering the chat downloads nothing
    obtain ⟨calls, roster, room, -, hcalls, -⟩ := handle_of_relays hrelays
    have hfetching := fetching hrelays
    rw [h] at hfetching
    rw [hcalls]
    generalize storeMedia c s.store e = storing at hfetching ⊢
    cases hfetching with
    | failed hmedia hmiss => exact ⟨_, hmedia, hmiss, rfl⟩
    | stored hmedia hmiss hstem => exact ⟨_, hmedia, hmiss, rfl⟩

theorem fetch?_of_found {media : Media} (hmedia : e.media = some media)
    (hfound : (s.store.lookup? media.fileHash).isSome = true) : fetch? c s e = none := by
  unfold fetch?
  simp only [hmedia, hfound, if_true, ite_self]

/-- A message whose file is missing has it fetched. -/
theorem exists_fetch? (hrelays : relays c s e = true) {media : Media}
    (hmedia : e.media = some media) (hmiss : s.store.lookup? media.fileHash = none) :
    ∃ result, fetch? c s e = some result := by
  unfold fetch?
  simp only [hrelays, if_true, hmedia, hmiss, Option.isSome_none, Bool.false_eq_true, if_false]
  cases c.client.download e with
  | error fault => exact ⟨_, rfl⟩
  | ok bytes => exact ⟨_, rfl⟩

/-- A fetch that fails leaves the message unrelayed and every look-up as it was. -/
theorem handle_of_fetch?_eq_error {error : RelayError} (h : fetch? c s e = some (.error error)) :
    (handle c s e).result = .error error ∧
      (∃ calls roster room, Registered c s e calls roster room ∧
        (handle c s e).lines = burst c room) ∧
      ∀ hash, (handle c s e).state.store.lookup? hash = s.store.lookup? hash := by
  have hrelays : relays c s e = true := (handle_of_fetch?_eq_some h).1
  obtain ⟨calls, roster, room, hreg, -, -, hfailed, -⟩ := handle_of_relays hrelays
  have hfetching := fetching hrelays
  rw [h] at hfetching
  rw [store_handle, if_pos hrelays]
  generalize storeMedia c s.store e = storing at hfetching hfailed ⊢
  cases hfetching with
  | failed hmedia hmiss =>
    obtain ⟨hresult, hlines⟩ := hfailed error rfl
    exact ⟨hresult, ⟨calls, roster, room, hreg, hlines⟩, fun hash => rfl⟩

/-- A fetch that succeeds changes the look-ups of one stem. -/
theorem lookup?_of_fetch?_eq_ok {file : StoredFile} (h : fetch? c s e = some (.ok file)) :
    (∃ media, e.media = some media ∧ s.store.lookup? media.fileHash = none ∧
        stem? media.fileHash = some file.stem) ∧
      ∀ hash, (handle c s e).state.store.lookup? hash =
        if stem? hash = some file.stem then some file else s.store.lookup? hash := by
  have hrelays : relays c s e = true := (handle_of_fetch?_eq_some h).1
  have hfetching := fetching hrelays
  rw [h] at hfetching
  rw [store_handle, if_pos hrelays]
  generalize storeMedia c s.store e = storing at hfetching ⊢
  cases hfetching with
  | stored hmedia hmiss hstem =>
    refine ⟨⟨_, hmedia, hmiss, hstem⟩, fun hash => ?_⟩
    unfold Store.lookup?
    cases stem? hash with
    | none => simp
    | some stem => simp [Store.lookup_putIndex]

/-! ### Runs -/

/-- Others leave the index of files alone, whatever they do to the folder. -/
def Step.LeavesIndex (s : State) : Step → Prop
  | deliver _ _ => True
  | outside store _ => store.index = s.store.index

/-- Along a run others leave the index of files alone. -/
def KeepsIndex (s : State) : List Step → Prop
  | [] => True
  | step :: rest => step.LeavesIndex s ∧ KeepsIndex (step.outcome s).state rest

theorem keepsIndex_append {s : State} {steps more : List Step} :
    KeepsIndex s (steps ++ more) ↔ KeepsIndex s steps ∧ KeepsIndex (run s steps) more := by
  induction steps generalizing s with
  | nil => simp [KeepsIndex]
  | cons step rest ih => simp [KeepsIndex, ih, and_assoc]

/-- The file that is fetched and stored in a step. -/
def Step.stored (s : State) : Step → List StoredFile
  | deliver c e =>
    match fetch? c s e with
    | some (.ok file) => [file]
    | _ => []
  | outside _ _ => []

/-- The files that are fetched and stored along a run, in order. -/
def stored (s : State) : List Step → List StoredFile
  | [] => []
  | step :: rest => step.stored s ++ stored (step.outcome s).state rest

/-- Whether a file is that of a hash. -/
def isOf (hash : String) (file : StoredFile) : Bool :=
  stem? hash == some file.stem

theorem exists_fetch?_of_mem_stored {step : Step} {file : StoredFile}
    (hmem : file ∈ step.stored s) :
    ∃ c e, step = .deliver c e ∧ fetch? c s e = some (.ok file) := by
  cases step with
  | outside store saver => exact absurd hmem List.not_mem_nil
  | deliver c e =>
    simp only [Step.stored] at hmem
    split at hmem
    · next stored hfetch =>
      obtain rfl := List.mem_singleton.mp hmem
      exact ⟨c, e, rfl, hfetch⟩
    · exact absurd hmem List.not_mem_nil

/-- A file that is stored in a step was not found before it, under whatever hash. -/
theorem lookup?_of_mem_step_stored {step : Step} {file : StoredFile} (hmem : file ∈ step.stored s)
    {hash : String} (hstem : stem? hash = some file.stem) : s.store.lookup? hash = none := by
  obtain ⟨c, e, rfl, hfetch⟩ := exists_fetch?_of_mem_stored hmem
  obtain ⟨⟨media, -, hmiss, hstem'⟩, -⟩ := lookup?_of_fetch?_eq_ok hfetch
  exact (Store.lookup?_congr rfl (hstem.trans hstem'.symm)).trans hmiss

/-- A file that is stored in a step is found under its stem from then on. -/
theorem exists_lookup?_of_mem_step_stored {step : Step} {file : StoredFile}
    (hmem : file ∈ step.stored s) :
    ∃ hash, stem? hash = some file.stem ∧
      (step.outcome s).state.store.lookup? hash = some file := by
  obtain ⟨c, e, rfl, hfetch⟩ := exists_fetch?_of_mem_stored hmem
  obtain ⟨⟨media, -, -, hstem⟩, hlookup⟩ := lookup?_of_fetch?_eq_ok hfetch
  exact ⟨media.fileHash, hstem, (hlookup _).trans (if_pos hstem)⟩

/-- After a step a hash finds what it found, or else the file that was stored. -/
theorem lookup?_step {step : Step} (hkeeps : step.LeavesIndex s) (hash : String) :
    (step.outcome s).state.store.lookup? hash =
      (s.store.lookup? hash).or ((step.stored s).find? (isOf hash)) := by
  cases step with
  | outside store saver =>
    have hindex : store.index = s.store.index := hkeeps
    exact (Store.lookup?_congr hindex rfl).trans (Option.or_none).symm
  | deliver c e =>
    -- a file is stored under a stem that finds nothing
    have hnew : ∀ file ∈ (Step.deliver c e).stored s, stem? hash = some file.stem →
        s.store.lookup? hash = none := fun file hmem hstem => lookup?_of_mem_step_stored hmem hstem
    simp only [Step.outcome, Step.stored] at hnew ⊢
    cases hfetch : fetch? c s e with
    | none =>
      rw [(handle_of_fetch?_eq_none hfetch).2.1]
      exact (Option.or_none).symm
    | some result =>
      cases result with
      | error error =>
        rw [(handle_of_fetch?_eq_error hfetch).2.2]
        exact (Option.or_none).symm
      | ok file =>
        -- the file is found under its own stem, and changes nothing for the others
        rw [hfetch] at hnew
        rw [(lookup?_of_fetch?_eq_ok hfetch).2]
        by_cases hof : stem? hash = some file.stem
        · rw [if_pos hof, hnew file List.mem_cons_self hof, Option.none_or]
          simp [isOf, hof]
        · rw [if_neg hof]
          simp [isOf, hof]

/-- **What a hash finds after a run**: what it found at first, and else the file that was stored
under its stem. -/
theorem lookup?_run {steps : List Step} (hkeeps : KeepsIndex s steps) (hash : String) :
    (run s steps).store.lookup? hash =
      (s.store.lookup? hash).or ((stored s steps).find? (isOf hash)) := by
  induction steps generalizing s with
  | nil => exact (Option.or_none).symm
  | cons step rest ih =>
    rw [run_cons, ih hkeeps.2, lookup?_step hkeeps.1, stored, List.find?_append, Option.or_assoc]

/-- What is found stays found. -/
theorem lookup?_run_of_eq_some {steps : List Step} (hkeeps : KeepsIndex s steps) {hash : String}
    {file : StoredFile} (h : s.store.lookup? hash = some file) :
    (run s steps).store.lookup? hash = some file := by
  rw [lookup?_run hkeeps, h, Option.some_or]

/-- A file that is stored along a run was not found before it, under whatever hash. -/
theorem lookup?_of_mem_stored {steps : List Step} (hkeeps : KeepsIndex s steps) {file : StoredFile}
    (hmem : file ∈ stored s steps) {hash : String} (hstem : stem? hash = some file.stem) :
    s.store.lookup? hash = none := by
  induction steps generalizing s with
  | nil => exact absurd hmem List.not_mem_nil
  | cons step rest ih =>
    rcases List.mem_append.mp hmem with hfirst | hrest
    · exact lookup?_of_mem_step_stored hfirst hstem
    · -- found before the step would be found behind it
      have hafter := ih hkeeps.2 hrest
      rw [lookup?_step hkeeps.1, Option.or_eq_none_iff] at hafter
      exact hafter.1

/-- A file that was stored is found under its stem at any time later, also by what is relayed. -/
theorem lookup?_after_stored {file : StoredFile} (h : fetch? c s e = some (.ok file))
    {mid : List Step} (hkeeps : KeepsIndex (handle c s e).state mid) {hash : String}
    (hstem : stem? hash = some file.stem) (c' : Circumstances) (e' : Event) :
    (run (handle c s e).state mid).store.lookup? hash = some file ∧
      (handle c' (run (handle c s e).state mid) e').state.store.lookup? hash = some file := by
  have hnow : (handle c s e).state.store.lookup? hash = some file :=
    ((lookup?_of_fetch?_eq_ok h).2 hash).trans (if_pos hstem)
  have hlater : (run (handle c s e).state mid).store.lookup? hash = some file :=
    lookup?_run_of_eq_some hkeeps hnow
  have hnext : KeepsIndex (run (handle c s e).state mid) [.deliver c' e'] := ⟨trivial, trivial⟩
  exact ⟨hlater, lookup?_run_of_eq_some hnext hlater⟩

/-- **No stem is stored twice.** -/
theorem nodup_stored {steps : List Step} (hkeeps : KeepsIndex s steps) :
    ((stored s steps).map (·.stem)).Nodup := by
  induction steps generalizing s with
  | nil => exact List.nodup_nil
  | cons step rest ih =>
    obtain ⟨hstep, hrest⟩ := hkeeps
    rw [stored, List.map_append]
    refine List.nodup_append.mpr ⟨?_, ih hrest, ?_⟩
    · cases step with
      | outside store saver => exact List.nodup_nil
      | deliver c e =>
        simp only [Step.stored]
        split
        · exact List.nodup_singleton _
        · exact List.nodup_nil
    · -- what was stored first is found from then on, and what is found is not stored
      intro stem hfirst stem' hlater heq
      subst heq
      obtain ⟨file, hfile, rfl⟩ := List.mem_map.mp hfirst
      obtain ⟨file', hfile', hsame⟩ := List.mem_map.mp hlater
      obtain ⟨hash, hstem, hfound⟩ := exists_lookup?_of_mem_step_stored hfile
      have hnone := lookup?_of_mem_stored hrest hfile' (hstem.trans (congrArg some hsame.symm))
      rw [hnone] at hfound
      exact absurd hfound (by simp)

/-! ### What is shown -/

/-- What a client is shown of an event in a room, by the files of a store. -/
def shown (c : Circumstances) (room : Room) (store : Store) (e : Event) : String :=
  render c.provider c.account room.members (fun hash => (store.lookup? hash).map (·.url)) e

/-- Of a file that is stored a client is shown the address, with its caption if it has one. -/
theorem shown_of_lookup? (c : Circumstances) (room : Room) {store : Store} {e : Event}
    {media : Media} {file : StoredFile} (hplace : e.location = none) (hmedia : e.media = some media)
    (hfound : store.lookup? media.fileHash = some file) :
    shown c room store e =
      if media.caption = "" then file.url
      else file.url ++ " " ++
        resolveMentions c.account room.members e.mentionedIds media.caption := by
  unfold shown render
  simp only [hplace, hmedia, hfound, Option.map_some, Option.getD_some]

/-- A message is relayed with what is shown of it and of what it quotes, by the files that the store
has then, unless its own file could not be fetched. -/
theorem lines_of_relays (hrelays : relays c s e = true)
    (hfetch : ∀ error, fetch? c s e ≠ some (.error error)) :
    ∃ calls roster room, Registered c s e calls roster room ∧
      (handle c s e).lines <+: burst c room ++
        messageLines (shown c room (handle c s e).state.store) c.nick roster room e := by
  obtain ⟨calls, roster, room, hreg, -, -, -, hlines⟩ := handle_of_relays hrelays
  have hfetching := fetching hrelays
  rw [store_handle, if_pos hrelays]
  refine ⟨calls, roster, room, hreg, hlines ?_⟩
  generalize fetch? c s e = result at hfetch hfetching
  generalize storeMedia c s.store e = storing at hfetching ⊢
  cases hfetching with
  | idle hfound => rfl
  | failed hmedia hmiss => exact absurd rfl (hfetch _)
  | stored hmedia hmiss hstem => rfl

/-! ### Each file once -/

/-- A message is relayed once. -/
theorem relays_again (h : relays c s e = true) (steps : List Step) (c' : Circumstances) :
    relays c' (run (handle c s e).state steps) e = false := by
  rw [relays, Bool.and_eq_true] at h
  obtain ⟨calls, roster, room, hreg, -⟩ := passes_iff.mp h.1
  have hseen : (handle c s e).state.roster.hasSeen e.chat.id e.id = true :=
    (hasSeen_handle_iff c s e _ _).mpr (.inr ⟨hreg.kind, hreg.not_unanswered, rfl, rfl⟩)
  rw [← Bool.not_eq_true, relays, Bool.and_eq_true]
  rintro ⟨hpasses, -⟩
  obtain ⟨-, -, -, -, -, hnew⟩ := passes_iff.mp hpasses
  rw [hasSeen_run hseen] at hnew
  exact Bool.noConfusion hnew

/-- **Each file is fetched and stored once.** Along every run of a relay in which others leave the
index of files alone, whatever becomes of the downloads, of the folder and of the lines, no stem is
stored twice, and of each delivery `e` on the way:

* if its file is not fetched, nothing is asked for and nothing stored; if it is, then `e` is a
  message that is relayed, its hash finds nothing in the store, and its file is asked for once;
* once the file was stored, no later delivery with a hash of its stem has a file fetched, whatever
  the spelling of the hash; and whatever message is relayed later, the client is shown the address
  of this file in the place of every such hash, also in what the message quotes;
* if fetching failed, that is the result, nothing of `e` is relayed, and every look-up is as before.
  Then `e` itself is not relayed any more, but the next message that is relayed with its hash has
  the file fetched again, if no file of that stem was stored in between. -/
theorem files_are_fetched_once (first : State) (steps : List Step)
    (hkeeps : KeepsIndex first steps) :
    ((stored first steps).map (·.stem)).Nodup ∧
    ∀ pre c e post, steps = pre ++ .deliver c e :: post →
      let s := run first pre
      let o := handle c s e
      (fetch? c s e = none → downloads o.calls = [] ∧ o.state.store = s.store ∧ o.waited = false) ∧
      (∀ result, fetch? c s e = some result → relays c s e = true ∧ ∃ media, e.media = some media ∧
        s.store.lookup? media.fileHash = none ∧ downloads o.calls = [(e.id, media.fileHash)]) ∧
      (∀ file, fetch? c s e = some (.ok file) →
        (∃ media, e.media = some media ∧ stem? media.fileHash = some file.stem) ∧
        ∀ mid c' e' rest, post = mid ++ .deliver c' e' :: rest →
          let s' := run o.state mid
          let o' := handle c' s' e'
          (∀ media, e'.media = some media → stem? media.fileHash = some file.stem →
            fetch? c' s' e' = none ∧ downloads o'.calls = [] ∧ o'.state.store = s'.store) ∧
          (relays c' s' e' = true → (∀ error, fetch? c' s' e' ≠ some (.error error)) →
            ∃ calls roster room, Registered c' s' e' calls roster room ∧
              o'.lines <+: burst c' room ++
                messageLines (shown c' room o'.state.store) c'.nick roster room e') ∧
          ∀ room said media, said.location = none → said.media = some media →
            stem? media.fileHash = some file.stem →
            shown c' room o'.state.store said =
              if media.caption = "" then file.url
              else file.url ++ " " ++
                resolveMentions c'.account room.members said.mentionedIds media.caption) ∧
      ∀ error, fetch? c s e = some (.error error) →
        o.result = .error error ∧
        (∃ calls roster room, Registered c s e calls roster room ∧ o.lines = burst c room) ∧
        (∀ hash, o.state.store.lookup? hash = s.store.lookup? hash) ∧
        ∀ mid c' e' rest, post = mid ++ .deliver c' e' :: rest →
          let s' := run o.state mid
          (e' = e → relays c' s' e' = false) ∧
          ∀ media media', e.media = some media → e'.media = some media' →
            stem? media'.fileHash = stem? media.fileHash → relays c' s' e' = true →
            (∀ file ∈ stored o.state mid, stem? media.fileHash ≠ some file.stem) →
            downloads (handle c' s' e').calls = [(e'.id, media'.fileHash)] := by
  refine ⟨nodup_stored hkeeps, ?_⟩
  rintro pre c e post rfl s o
  obtain ⟨-, -, hpost⟩ := keepsIndex_append.mp hkeeps
  refine ⟨handle_of_fetch?_eq_none, fun result => handle_of_fetch?_eq_some, ?_, ?_⟩
  · -- the file was stored, and every later look-up of its stem finds it
    intro file hfetch
    obtain ⟨⟨media, hmedia, -, hstem⟩, -⟩ := lookup?_of_fetch?_eq_ok hfetch
    refine ⟨⟨media, hmedia, hstem⟩, ?_⟩
    rintro mid c' e' rest rfl s' o'
    have hmid : KeepsIndex o.state mid := (keepsIndex_append.mp hpost).1
    refine ⟨?_, lines_of_relays, ?_⟩
    · intro media' hmedia' hstem'
      have hfound := (lookup?_after_stored hfetch hmid hstem' c' e').1
      have hnone : fetch? c' s' e' = none :=
        fetch?_of_found hmedia' (Option.isSome_iff_exists.mpr ⟨file, hfound⟩)
      obtain ⟨hcalls, hstore, -⟩ := handle_of_fetch?_eq_none hnone
      exact ⟨hnone, hcalls, hstore⟩
    · intro room said media' hplace hmedia' hstem'
      exact shown_of_lookup? c' room hplace hmedia'
        (lookup?_after_stored hfetch hmid hstem' c' e').2
  · -- fetching failed, and the stem is still missing unless another message brought its file
    intro error hfetch
    obtain ⟨hresult, hlines, hlookup⟩ := handle_of_fetch?_eq_error hfetch
    obtain ⟨hrelays, media₀, hmedia₀, hmiss, -⟩ := handle_of_fetch?_eq_some hfetch
    refine ⟨hresult, hlines, hlookup, ?_⟩
    rintro mid c' e' rest rfl s'
    have hmid : KeepsIndex o.state mid := (keepsIndex_append.mp hpost).1
    refine ⟨?_, ?_⟩
    · rintro rfl
      exact relays_again hrelays mid c'
    · intro media media' hmedia hmedia' hstem hrelays' hnone
      obtain rfl := Option.some.inj (hmedia.symm.trans hmedia₀)
      -- the failed attempt left the look-ups as they were
      have hmissing : s'.store.lookup? media'.fileHash = none := by
        have hbefore : o.state.store.lookup? media'.fileHash = none :=
          (hlookup _).trans ((Store.lookup?_congr rfl hstem).trans hmiss)
        have hrun := lookup?_run hmid media'.fileHash
        rw [hbefore, Option.none_or] at hrun
        refine hrun.trans (List.find?_eq_none.mpr fun file hmem => ?_)
        rw [isOf, hstem, beq_iff_eq]
        exact hnone file hmem
      obtain ⟨result, hagain⟩ := exists_fetch? hrelays' hmedia' hmissing
      obtain ⟨-, media'', hmedia'', -, hcalls⟩ := handle_of_fetch?_eq_some hagain
      obtain rfl := Option.some.inj (hmedia'.symm.trans hmedia'')
      exact hcalls

/-- A photo that cannot be had at first, is stored when it comes again, and comes a third time under
another spelling of its hash with a message that quotes the second: nothing is asked for then, and
both show the address that the photo got. -/
theorem photo_is_fetched_once :
    let camera : Client :=
      { Sample.client with
        download := fun e =>
          if e.id = "m0" then .error (.notFound "media") else .ok [255, 216, 255] }
    let c : Circumstances := { Sample.plain with client := camera }
    let photo : String → String → Event := fun id fileHash =>
      { id, chat := Sample.family, timestamp := 0, origin := some Sample.bob
        media := some { fileHash, filename := "p.JPG", mimeType := "image/jpeg" } }
    let answer : Event := { photo "m2" "ab+/" with quoted := some (photo "m1" "ab+/=") }
    let steps := [Step.deliver c (photo "m0" "ab+/="), .deliver c (photo "m1" "ab+/="),
      .deliver c answer]
    let first := State.start {} { baseUrl := "http://x", folder := some [] }
    let third := run first [.deliver c (photo "m0" "ab+/="), .deliver c (photo "m1" "ab+/=")]
    let file := Store.describe "http://x" "ab-_" "jpg"
    KeepsIndex first steps ∧
      fetch? c first (photo "m0" "ab+/=") = some (.error (.service (.notFound "media"))) ∧
      stored first steps = [file] ∧
      downloads (handle c third answer).calls = [] ∧
      (handle c third answer).lines.map (·.line) =
        [":31611111111 PRIVMSG #Family :> http://x/ab-_.jpg",
          ":31611111111 PRIVMSG #Family http://x/ab-_.jpg"] := by
  intro camera c photo answer steps first third file
  have hkeeps : KeepsIndex first steps := ⟨trivial, trivial, trivial, trivial⟩
  have hfetch : fetch? c (run first [.deliver c (photo "m0" "ab+/=")]) (photo "m1" "ab+/=") =
      some (.ok file) := by decide +kernel
  obtain ⟨-, hdeliver⟩ := files_are_fetched_once first steps hkeeps
  obtain ⟨-, -, hstored, -⟩ := hdeliver [.deliver c (photo "m0" "ab+/=")] c (photo "m1" "ab+/=")
    [.deliver c answer] rfl
  -- the file that the second photo brought is there for the answer and for what it quotes
  obtain ⟨hnone, -, -⟩ := (hstored file hfetch).2 [] c answer [] rfl
  obtain ⟨-, hcalls, -⟩ := hnone _ rfl (by decide +kernel)
  have hfailed : fetch? c first (photo "m0" "ab+/=") =
      some (.error (.service (.notFound "media"))) := by decide +kernel
  have hfiles : stored first steps = [file] := by decide +kernel
  have hlines : (handle c third answer).lines.map (·.line) =
      [":31611111111 PRIVMSG #Family :> http://x/ab-_.jpg",
        ":31611111111 PRIVMSG #Family http://x/ab-_.jpg"] := by decide +kernel
  have hthird : third =
      (handle c (run first [.deliver c (photo "m0" "ab+/=")]) (photo "m1" "ab+/=")).state :=
    run_append first [_] [_]
  rw [run_nil, ← hthird] at hcalls
  exact ⟨hkeeps, hfailed, hfiles, hcalls, hlines⟩

end IrcGateway.Relay
