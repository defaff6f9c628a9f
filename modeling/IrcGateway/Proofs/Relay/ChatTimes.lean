import IrcGateway.Proofs.Relay.Times

/-!
# Each chat has a time of its own

The latest times are kept by the text of a chat's identifier, and so are the rows in which they are
stored. The text is the user part, an at sign and the server, where an empty server leaves out the
at sign as well. It is read by a cut at its first at sign.

* An identifier comes back from its text exactly if its user part has no at sign
  (`ofText_text_iff`). What is read never has one there (`at_notMem_user_ofText`), which is one half
  of it.
* A text comes back from its identifier exactly if its first at sign is not its last character
  (`text_ofText_iff`): only then does the at sign disappear.

Identifiers that come back have different texts. Where the chats of all events are of this kind, the
events recorded under the text of a chat are those of the chat (`accepted_text`), and what is known
of it goes by its own events alone (`chats_have_their_own_times`).
-/

namespace IrcGateway.Service.ContactId

open IrcGateway.Text

/-- No at sign in the user part, so that the first one in the text comes from the cut. -/
def HasPlainUser (id : ContactId) : Prop :=
  '@' ∉ id.user.toList

theorem text_of_server_eq_nil {id : ContactId} (h : id.server = "") : id.text = id.user := by
  rw [text, if_pos h]

theorem toList_text_of_server {id : ContactId} (h : id.server ≠ "") :
    id.text.toList = id.user.toList ++ '@' :: id.server.toList := by
  rw [text, if_neg h, String.toList_append, String.toList_append, List.append_assoc]
  rfl

theorem ofText_of_notMem {text : String} (h : '@' ∉ text.toList) : ofText text = ⟨text, ""⟩ := by
  rw [ofText, splitAtFirst_eq_none_iff.mpr h]

theorem ofText_of_toList {text : String} {user server : List Char} (h : '@' ∉ user)
    (ht : text.toList = user ++ '@' :: server) :
    ofText text = ⟨String.ofList user, String.ofList server⟩ := by
  rw [ofText, ht, splitAtFirst_append server h]

/-- A text is all user, or it is cut at its first at sign. -/
theorem cases_at (text : String) :
    '@' ∉ text.toList ∨ ∃ user server, '@' ∉ user ∧ text.toList = user ++ '@' :: server := by
  cases h : splitAtFirst '@' text.toList with
  | none => exact .inl (splitAtFirst_eq_none_iff.mp h)
  | some parts =>
    obtain ⟨htext, huser⟩ := splitAtFirst_eq_some_iff.mp h
    exact .inr ⟨parts.1, parts.2, huser, htext⟩

theorem at_notMem_user_ofText (text : String) : (ofText text).HasPlainUser := by
  rcases cases_at text with h | ⟨user, server, huser, htext⟩
  · rw [ofText_of_notMem h]
    exact h
  · rw [ofText_of_toList huser htext, HasPlainUser, String.toList_ofList]
    exact huser

/-- **From an identifier to its text and back.** -/
theorem ofText_text_iff {id : ContactId} : ofText id.text = id ↔ id.HasPlainUser := by
  constructor
  · intro h
    rw [← h]
    exact at_notMem_user_ofText id.text
  · intro h
    by_cases hserver : id.server = ""
    · have hnone : '@' ∉ id.text.toList := by
        rw [text_of_server_eq_nil hserver]
        exact h
      rw [ofText_of_notMem hnone, text_of_server_eq_nil hserver, ← hserver]
    · rw [ofText_of_toList h (toList_text_of_server hserver), String.ofList_toList,
        String.ofList_toList]

/-- Identifiers that come back from their texts have different ones. -/
theorem text_injective {a b : ContactId} (ha : a.HasPlainUser) (hb : b.HasPlainUser)
    (h : a.text = b.text) : a = b := by
  rw [← ofText_text_iff.mpr ha, h, ofText_text_iff.mpr hb]

/-- **From a text to its identifier and back.** A text without an at sign has its first one behind
its end, as it were. -/
theorem text_ofText_iff {text : String} :
    (ofText text).text = text ↔ text.toList.idxOf '@' + 1 ≠ text.toList.length := by
  rcases cases_at text with h | ⟨user, server, huser, htext⟩
  · rw [ofText_of_notMem h, text_of_server_eq_nil rfl, List.idxOf_of_notMem h]
    exact iff_of_true rfl (Nat.succ_ne_self _)
  · have hlength : text.toList.idxOf '@' + 1 ≠ text.toList.length ↔ server ≠ [] := by
      rw [htext, List.idxOf_append_of_notMem huser, List.idxOf_cons_self, List.length_append,
        List.length_cons, ← List.length_pos_iff]
      omega
    rw [hlength, ofText_of_toList huser htext]
    by_cases hserver : server = []
    · -- the at sign is gone, and the text is shorter
      subst hserver
      refine iff_of_false (fun heq => ?_) (fun hne => hne rfl)
      have hchars := congrArg String.toList heq
      rw [text_of_server_eq_nil rfl, String.toList_ofList, htext] at hchars
      exact absurd hchars.symm (by simp)
    · refine iff_of_true (String.toList_injective ?_) hserver
      have hne : String.ofList server ≠ "" := by
        intro heq
        exact hserver (by rw [← String.toList_ofList (l := server), heq]; rfl)
      rw [toList_text_of_server hne, String.toList_ofList, String.toList_ofList, htext]

end IrcGateway.Service.ContactId

namespace IrcGateway.Relay

open IrcGateway.Activity IrcGateway.Media IrcGateway.Service

/-! ### Times of a chat along a run -/

/-- The times accepted in a step from the events of a chat. -/
def Step.acceptedOf (chat : ContactId) (s : State) : Step → List Int
  | deliver c e => if passes c s e ∧ e.chat.id = chat then [e.timestamp] else []
  | outside _ _ => []

/-- The times accepted along a run from the events of a chat, in order. -/
def acceptedOf (chat : ContactId) (s : State) : List Step → List Int
  | [] => []
  | step :: rest => step.acceptedOf chat s ++ acceptedOf chat (step.outcome s).state rest

/-- The chats of all events come back from their texts. -/
def HavePlainUsers (steps : List Step) : Prop :=
  ∀ c e, Step.deliver c e ∈ steps → e.chat.id.HasPlainUser

/-- What is accepted under the text of a chat is accepted from its events. -/
theorem accepted_text {chat : ContactId} (hchat : chat.HasPlainUser) {steps : List Step}
    (h : HavePlainUsers steps) (s : State) :
    accepted chat.text s steps = acceptedOf chat s steps := by
  -- event by event: one that is recorded under the text of the chat is one of the chat
  induction steps generalizing s with
  | nil => rfl
  | cons step rest ih =>
    have hstep : step.accepted chat.text s = step.acceptedOf chat s := by
      cases step with
      | outside store saver => rfl
      | deliver c e =>
        have hsame : e.chat.id.text = chat.text ↔ e.chat.id = chat :=
          ⟨ContactId.text_injective (h c e List.mem_cons_self) hchat, congrArg ContactId.text⟩
        simp only [Step.accepted, Step.acceptedOf, hsame]
    rw [accepted, acceptedOf, hstep, ih fun c e hmem => h c e (List.mem_cons_of_mem _ hmem)]

/-- **Identifiers, their texts, and the times of chats.**

* An identifier is what is read from its text exactly if its user part has no at sign, and two such
  identifiers have different texts.
* A text is that of what is read from it exactly if its first at sign is not its last character.
* Along every run of a relay to which events of such chats are delivered, what is known of such a
  chat in the end is the latest of what was known at first and of what was accepted from events of
  the chat itself. Events of other chats have no part in it. -/
theorem chats_have_their_own_times :
    (∀ id : ContactId, .ofText id.text = id ↔ '@' ∉ id.user.toList) ∧
    (∀ a b : ContactId, '@' ∉ a.user.toList → '@' ∉ b.user.toList → a ≠ b → a.text ≠ b.text) ∧
    (∀ text, (ContactId.ofText text).text = text ↔
      text.toList.idxOf '@' + 1 ≠ text.toList.length) ∧
    ∀ activity store steps, HavePlainUsers steps → ∀ chat : ContactId, '@' ∉ chat.user.toList →
      let first := State.start activity store
      (run first steps).activity.times.get? chat.text =
        ((activity.times.get? chat.text).toList ++ acceptedOf chat first steps).max? := by
  refine ⟨fun id => ContactId.ofText_text_iff, ?_, fun text => ContactId.text_ofText_iff, ?_⟩
  · intro a b ha hb hne htext
    exact hne (ContactId.text_injective ha hb htext)
  · intro activity store steps h chat hchat first
    rw [get?_run, accepted_text hchat h]
    rfl

/-- Two groups of one user part, one of them without a server, each keep the time of their own
event. -/
theorem family_keeps_its_time :
    let bare : Service.Chat := ⟨⟨"1", ""⟩, "Family", true⟩
    let leave := Sample.leave "n1" [Sample.bob]
    let steps := [Step.deliver Sample.plain { leave with timestamp := 7 },
      .deliver Sample.plain { leave with chat := bare, timestamp := 9 }]
    let times := (run (.start {} default) steps).activity.times
    HavePlainUsers steps ∧ '@' ∉ Sample.family.id.user.toList ∧ '@' ∉ bare.id.user.toList ∧
      Sample.family.id.text ≠ bare.id.text ∧
      times.get? Sample.family.id.text = some 7 ∧ times.get? bare.id.text = some 9 := by
  intro bare leave steps times
  have hfamily : '@' ∉ Sample.family.id.user.toList := by decide +kernel
  have hbare : '@' ∉ bare.id.user.toList := by decide +kernel
  have hplain : HavePlainUsers steps := by
    intro c e hmem
    simp only [steps, List.mem_cons, Step.deliver.injEq, List.not_mem_nil, or_false] at hmem
    rcases hmem with ⟨-, rfl⟩ | ⟨-, rfl⟩
    · exact hfamily
    · exact hbare
  obtain ⟨-, hapart, -, htimes⟩ := chats_have_their_own_times
  refine ⟨hplain, hfamily, hbare, hapart _ _ hfamily hbare (by decide +kernel), ?_, ?_⟩
  · rw [htimes {} default steps hplain _ hfamily]
    decide +kernel
  · rw [htimes {} default steps hplain _ hbare]
    decide +kernel

/-- With an at sign in the user part the text may be that of another identifier. -/
example : (⟨"a@b", ""⟩ : ContactId).text = (⟨"a", "b"⟩ : ContactId).text := by decide

end IrcGateway.Relay
