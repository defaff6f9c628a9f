import IrcGateway.Proofs.Chat.Naming
import IrcGateway.Proofs.Service.Name

/-!
# Channels and nicks

A room is called by a usable word, with a number sign before it if it is a channel
(`Room.IsCalled`). Every room that is registered is called so if the user parts of the chats are
usable, since a chat may have to fall back on its user part: the name that a room asks for is a
usable word, and so is the word with a number after it (`IsUsable.numbered`), which is all that
registering ever adds.

A usable word has no number sign, so that channels and nicks are told apart by their first
character, and a chat of the one kind never has the name of a chat of the other
(`Room.IsCalled.sameName_eq_false`).
-/

namespace IrcGateway.Text

theorem not_blank_of_isDigit {c : Char} (h : c.isDigit = true) : isBlank c = false := by
  rw [Char.isDigit_iff_toNat] at h
  have hnine : '9'.toNat = 57 := rfl
  have hzero : '0'.toNat = 48 := rfl
  simp only [isBlank, Bool.or_eq_false_iff, Bool.and_eq_false_iff, decide_eq_false_iff_not,
    beq_eq_false_iff_ne]
  omega

theorem eq_hash_of_toLower {c : Char} (h : c.toLower = '#') : c = '#' := by
  have hcode : c.toLower.toNat = 35 := congrArg Char.toNat h
  rw [toNat_toLower] at hcode
  split at hcode
  · -- no small letter looks like a number sign
    omega
  · exact Char.toNat_inj.mp hcode

end IrcGateway.Text

namespace IrcGateway.Service

open IrcGateway.Text

theorem not_dropped_of_isDigit {c : Char} (h : c.isDigit = true) : isDropped c = false := by
  rw [isDropped_eq_false_iff]
  constructor
  · rw [Bool.eq_false_iff]
    intro hreserved
    -- none of the reserved characters is a digit
    have hmem : c ∈ [':', ',', '!', '@', '#', '*', '?', '.'] := List.contains_iff_mem.mp hreserved
    have hnone : [':', ',', '!', '@', '#', '*', '?', '.'].all (fun d => !d.isDigit) = true := rfl
    have hdigit : (!c.isDigit) = true := List.all_eq_true.mp hnone c hmem
    rw [h] at hdigit
    exact absurd hdigit Bool.false_ne_true
  · rw [Char.isDigit_iff_toNat] at h
    have hnine : '9'.toNat = 57 := rfl
    have hzero : '0'.toNat = 48 := rfl
    simp only [isControl, Bool.or_eq_false_iff, Bool.and_eq_false_iff, decide_eq_false_iff_not]
    omega

theorem IsUsable.hash_notMem {word : String} (h : IsUsable word) : '#' ∉ word.toList := by
  intro hmem
  exact absurd (h.not_reserved '#' hmem) (by decide)

/-- A number after a usable word leaves it usable. -/
theorem IsUsable.numbered {word : String} (h : IsUsable word) (k : Nat) :
    IsUsable (Chat.Roster.numbered word k) := by
  unfold Chat.Roster.numbered
  rw [String.append_assoc]
  refine h.append fun c hc => ?_
  rw [String.toList_append] at hc
  rcases List.mem_append.mp hc with hc | hc
  · rw [List.mem_singleton.mp hc]
    decide
  · rw [String.toList_ofList] at hc
    have hdigit : c.isDigit = true := Nat.isDigit_of_mem_toDigits (by decide) (by decide) hc
    exact ⟨not_blank_of_isDigit hdigit, not_dropped_of_isDigit hdigit⟩

end IrcGateway.Service

namespace IrcGateway.Chat

open IrcGateway.Text IrcGateway.Service

namespace Room

/-- What stands before the word by which a room is called. -/
def mark (isGroup : Bool) : String :=
  if isGroup then "#" else ""

/-- The room is as its chat made it, but for the word by which it is called. -/
def IsCalled (room : Room) (chat : Service.Chat) (members : List Participant) (word : String) :
    Prop :=
  IsUsable word ∧ room = { ofChat chat members with identifier := mark chat.isGroup ++ word }

/-- **Channels and nicks.** A channel and a nick differ, whatever the case of their letters. -/
theorem IsCalled.sameName_eq_false {a b : Room} {chat chat' : Service.Chat}
    {members members' : List Participant} {word word' : String}
    (ha : a.IsCalled chat members word) (hb : b.IsCalled chat' members' word')
    (hgroup : a.isGroup = true) (hdirect : b.isGroup = false) :
    sameName a.identifier b.identifier = false := by
  obtain ⟨-, rfl⟩ := ha
  obtain ⟨hword, rfl⟩ := hb
  have hchat : chat.isGroup = true := hgroup
  have hchat' : chat'.isGroup = false := hdirect
  rw [Bool.eq_false_iff, Ne, sameName_iff]
  intro heq
  -- in lower case the channel still has its number sign, and the nick has none
  have hchannel : '#' ∈ (lower (mark chat.isGroup ++ word)).toList := by
    rw [hchat, lower_append, String.toList_append]
    exact List.mem_append_left _ List.mem_cons_self
  rw [show lower (mark chat.isGroup ++ word) = lower (mark chat'.isGroup ++ word') from heq, hchat',
    lower_append, String.toList_append] at hchannel
  rcases List.mem_append.mp hchannel with hmem | hmem
  · exact absurd hmem List.not_mem_nil
  · rw [lower, String.toList_ofList] at hmem
    obtain ⟨c, hc, hlower⟩ := List.mem_map.mp hmem
    exact hword.hash_notMem (eq_hash_of_toLower hlower ▸ hc)

end Room

namespace Roster

/-- A name that is taken gets a number, behind all that it consists of. -/
theorem exists_freeName_append (r : Roster) (mark : String) {word : String} (h : IsUsable word) :
    ∃ word', IsUsable word' ∧ r.freeName (mark ++ word) = mark ++ word' := by
  unfold freeName
  split
  · obtain ⟨k, -, heq, -⟩ := r.exists_firstNumbered (mark ++ word) r.rooms.length 2
    refine ⟨numbered word k, h.numbered k, ?_⟩
    rw [heq, numbered, numbered, String.append_assoc, String.append_assoc, String.append_assoc]
  · exact ⟨word, h, rfl⟩

/-- The roster in which some chats were registered, with their members, one after the other. -/
def registerAll (chats : List (Service.Chat × List Participant)) : Roster :=
  chats.foldl (fun r entry => r.insert (Room.ofChat entry.1 entry.2)) {}

theorem registerAll_concat (chats : List (Service.Chat × List Participant))
    (entry : Service.Chat × List Participant) :
    registerAll (chats ++ [entry]) =
      (registerAll chats).insert (Room.ofChat entry.1 entry.2) := by
  simp [registerAll]

/-- Every room of the roster belongs to one of some chats, and is called by a usable word. -/
def Called (r : Roster) (chats : List (Service.Chat × List Participant)) : Prop :=
  ∀ room ∈ r.rooms, ∃ chat members word,
    (chat, members) ∈ chats ∧ room.IsCalled chat members word

/-- Registering one more chat: its room is called by the word it asked for, or by that word with a
number. -/
theorem Called.insert {r : Roster} {chats : List (Service.Chat × List Participant)}
    (h : r.Called chats) (chat : Service.Chat) (members : List Participant)
    (huser : IsUsable chat.id.user) :
    (r.insert (Room.ofChat chat members)).Called (chats ++ [(chat, members)]) := by
  have hbefore : r.Called (chats ++ [(chat, members)]) := by
    intro room hroom
    obtain ⟨other, others, word, hmem, hcalled⟩ := h room hroom
    exact ⟨other, others, word, List.mem_append_left _ hmem, hcalled⟩
  cases hr : r.byId? (Room.ofChat chat members).id with
  | some known => rwa [insert_of_known hr]
  | none =>
    rw [insert_of_new hr]
    intro room hroom
    rcases List.mem_append.mp hroom with hroom | hroom
    · exact hbefore room hroom
    · -- the new room goes by its safe name, with a number behind it if that is taken
      obtain ⟨word, hword, hname⟩ := r.exists_freeName_append (Room.mark chat.isGroup)
        (isUsable_safeName chat.name huser)
      refine ⟨chat, members, word, List.mem_append_right _ List.mem_cons_self, hword, ?_⟩
      rw [List.mem_singleton.mp hroom, ← hname]
      rfl

/-- Registering any number of chats, by induction on the last one. -/
theorem called_registerAll {chats : List (Service.Chat × List Participant)}
    (h : ∀ entry ∈ chats, IsUsable entry.1.id.user) : (registerAll chats).Called chats := by
  induction chats using List.reverseRecOn with
  | nil => exact fun room hroom => absurd hroom List.not_mem_nil
  | append_singleton chats entry ih =>
    rw [registerAll_concat]
    refine (ih fun other hother => ?_).insert entry.1 entry.2 ?_
    · exact h other (List.mem_append_left _ hother)
    · exact h entry (List.mem_append_right _ List.mem_cons_self)

/-- Every chat has its room after it was registered. -/
theorem exists_room_of_mem {chats : List (Service.Chat × List Participant)}
    {entry : Service.Chat × List Participant} (h : entry ∈ chats) :
    ∃ room ∈ (registerAll chats).rooms, room.id = entry.1.id := by
  have hsome : ((registerAll chats).byId? entry.1.id).isSome = true := by
    induction chats using List.reverseRecOn with
    | nil => exact absurd h List.not_mem_nil
    | append_singleton chats last ih =>
      rw [registerAll_concat, byId?_insert]
      split
      · rfl
      · next hid =>
        rcases List.mem_append.mp h with h | h
        · exact ih h
        · rw [List.mem_singleton.mp h] at hid
          exact absurd rfl hid
  obtain ⟨room, hroom⟩ := Option.isSome_iff_exists.mp hsome
  exact ⟨room, mem_of_byId? hroom, id_of_byId? hroom⟩

/-- **Names are words.**

* The usable form of a name consists of its words without reserved and control characters, as far as
  something is left of them, joined by underscores; if nothing is left, it is the fallback.
* A usable form other than the fallback is usable and its own usable form.
* However many chats are registered, if their user parts are usable, each has a room; each room is
  as its chat made it, called by a usable word, with a number sign before it exactly if the chat is
  a group; and no channel is called like a nick. -/
theorem names_are_words :
    (∀ name fallback, safeName name fallback =
      if usableWords name.toList = [] then fallback
      else String.ofList (['_'].intercalate (usableWords name.toList))) ∧
    (∀ name fallback, safeName name fallback ≠ fallback →
      IsUsable (safeName name fallback) ∧
      ∀ other, safeName (safeName name fallback) other = safeName name fallback) ∧
    ∀ chats : List (Service.Chat × List Participant),
      (∀ entry ∈ chats, IsUsable entry.1.id.user) →
      (∀ entry ∈ chats, ∃ room ∈ (registerAll chats).rooms, room.id = entry.1.id) ∧
      (∀ room ∈ (registerAll chats).rooms, ∃ chat members word, (chat, members) ∈ chats ∧
        IsUsable word ∧
        room = { Room.ofChat chat members with
          identifier := (if chat.isGroup then "#" else "") ++ word }) ∧
      ∀ a ∈ (registerAll chats).rooms, ∀ b ∈ (registerAll chats).rooms,
        a.isGroup = true → b.isGroup = false → sameName a.identifier b.identifier = false := by
  refine ⟨safeName_eq, fun name fallback h => ?_, fun chats h => ⟨?_, ?_, ?_⟩⟩
  · have husable := isUsable_safeName_of_ne_fallback h
    exact ⟨husable, husable.safeName_eq_self⟩
  · exact fun entry hentry => exists_room_of_mem hentry
  · exact called_registerAll h
  · intro a ha b hb hgroup hdirect
    obtain ⟨_, _, _, -, hchannel⟩ := called_registerAll h a ha
    obtain ⟨_, _, _, -, hnick⟩ := called_registerAll h b hb
    exact hchannel.sameName_eq_false hnick hgroup hdirect

/-- Of two people called Jane the second gets a number, whatever the letter case, and a group of
that name needs none. Signs alone are no name, so that the telephone number stands in. -/
theorem jane_is_named_apart :
    let person := fun id name =>
      ((⟨⟨id, "c.us"⟩, name, false⟩, []) : Service.Chat × List Participant)
    let chats := [person "31611111111" "Jane", person "31622222222" " #jane ",
      (⟨⟨"1", "g.us"⟩, "jane", true⟩, []), person "31633333333" "@@@",
      person "31644444444" "Dr. Who , Jr."]
    safeName (safeName "Dr. Who , Jr." "x") "y" = "Dr_Who_Jr" ∧
    (registerAll chats).rooms.map Room.identifier =
      ["Jane", "jane_2", "#jane", "31633333333", "Dr_Who_Jr"] ∧
    ∀ a ∈ (registerAll chats).rooms, ∀ b ∈ (registerAll chats).rooms,
      a.isGroup = true → b.isGroup = false → sameName a.identifier b.identifier = false := by
  intro person chats
  have husable : ∀ entry ∈ chats, IsUsable entry.1.id.user := by decide +kernel
  have hname : safeName "Dr. Who , Jr." "x" = "Dr_Who_Jr" := by decide +kernel
  obtain ⟨-, hfixed, hrooms⟩ := names_are_words
  refine ⟨?_, by decide +kernel, (hrooms chats husable).2.2⟩
  rw [(hfixed "Dr. Who , Jr." "x" (by rw [hname]; decide)).2 "y", hname]

end Roster

end IrcGateway.Chat
