import IrcGateway.Chat.Rendering
import IrcGateway.Proofs.Chat.Naming
import IrcGateway.Proofs.Text.OneLine

/-!
# Names and texts in one line

Chats and people may be called anything, and what is said may hold any characters. Of a name the
usable characters are kept, among which there is no line feed (`oneLine_safeName`); only what stands
in for a name without any is taken as it is. A text is cut into lines (`oneLine_of_mem_textLines`).

A roster is legible if its rooms and their members go by names of one line. Whether it is can be
read off its cards.
-/

namespace IrcGateway.Service

open IrcGateway.Text

theorem lf_notMem_safeChars (gap begun : Bool) (cs : List Char) :
    '\n' ∉ safeChars gap begun cs := by
  have hblank : isBlank '\n' = true := by decide
  induction cs generalizing gap begun with
  | nil => simp [safeChars]
  | cons c cs ih =>
    unfold safeChars
    split
    · exact ih true begun
    · next hc =>
      -- what is kept is no white space, and what is put between words is no line feed
      have hne : '\n' ≠ c := fun heq => hc (heq ▸ hblank)
      split
      · exact ih gap begun
      · split <;> simp [ih, hne]

/-- The name leaves something to go by, or what stands in for it has no line feed. -/
def Nameable (name fallback : String) : Prop :=
  safeChars false false (trim name.toList) = [] → OneLine fallback

instance (name fallback : String) : Decidable (Nameable name fallback) :=
  inferInstanceAs (Decidable (_ → _))

theorem oneLine_safeName {name fallback : String} (h : Nameable name fallback) :
    OneLine (safeName name fallback) := by
  unfold safeName
  split
  · next hnone => exact h hnone
  · rw [oneLine_ofList]
    exact lf_notMem_safeChars false false _

theorem Contact.oneLine_safeName {p : Contact} (h : Nameable p.displayName p.id.user) :
    OneLine p.safeName := by
  rw [Contact.safeName]
  exact Service.oneLine_safeName h

theorem Participant.oneLine_safeName {p : Participant}
    (h : Nameable p.contact.displayName p.contact.id.user) : OneLine p.safeName := by
  rw [Participant.safeName]
  exact Contact.oneLine_safeName h

end IrcGateway.Service

namespace IrcGateway.Chat

open IrcGateway.Text IrcGateway.Service

theorem oneLine_of_mem_textLines {line text : String} (h : line ∈ textLines text) :
    OneLine line := by
  unfold textLines at h
  split at h
  · rw [List.mem_singleton.mp h]
    decide
  · obtain ⟨cs, hcs, rfl⟩ := List.mem_map.mp h
    rw [oneLine_ofList]
    exact lf_notMem_of_mem_bodyLines (List.mem_of_mem_filter hcs)

theorem oneLine_baseName {chat : Service.Chat} (h : Nameable chat.name chat.id.user) :
    OneLine (Room.baseName chat) := by
  unfold Room.baseName
  rw [oneLine_append]
  refine ⟨?_, oneLine_safeName h⟩
  split <;> decide

namespace Roster

theorem oneLine_freeName {base : String} (h : OneLine base) (r : Roster) :
    OneLine (r.freeName base) := by
  unfold freeName
  split
  · -- the name that was asked for, with a number behind it
    obtain ⟨k, -, heq, -⟩ := r.exists_firstNumbered base r.rooms.length 2
    rw [heq, numbered, oneLine_append, oneLine_append]
    exact ⟨⟨h, by decide⟩, oneLine_ofList.mpr (lf_notMem_toDigits k)⟩
  · exact h

/-- Rooms and their members go by names of one line. -/
def Legible (r : Roster) : Prop :=
  ∀ card ∈ r.cards, OneLine card.identifier ∧ ∀ p ∈ card.members, OneLine p.safeName

theorem Legible.of_byId? {r : Roster} (h : r.Legible) {id : ContactId} {room : Room}
    (hr : r.byId? id = some room) :
    OneLine room.identifier ∧ ∀ p ∈ room.members, OneLine p.safeName :=
  h room.card (List.mem_map_of_mem (mem_of_byId? hr))

theorem Legible.of_cards_eq {r r' : Roster} (h : r.Legible) (hc : r'.cards = r.cards) :
    r'.Legible := by
  unfold Legible
  rwa [hc]

theorem Legible.update {r : Roster} (h : r.Legible) {change : Room → Room}
    (hc : Room.Keeps change) (id : ContactId) : (r.update id change).Legible :=
  h.of_cards_eq (cards_update hc r id)

end Roster

end IrcGateway.Chat
