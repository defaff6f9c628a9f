import IrcGateway.Proofs.Chat.Mentions
import IrcGateway.Proofs.Loop
import Mathlib.Algebra.BigOperators.Group.List.Defs

/-!
# One pass over a text

The mentions of one person are replaced in one pass: the next at sign with the user part behind it
is looked for, what stands before it is kept, it is replaced or kept itself, and the search goes on
behind it (`replaceNext`). Behind a hit the text before is not looked at any more, so it is not
obvious that nothing is passed over.

What the pass should make of a text is said place by place (`shownAt`), without any order: each
place goes by the text alone, whatever becomes of other places. The two agree, since a user part
without an at sign cannot reach into the next occurrence (`OccursAt.apart`). A hit is therefore
replaced or kept as a whole, and behind it the text is as if nothing stood before
(`placeByPlace_append`).

The pass makes one round for each occurrence, and is over then (`one_pass_is_exact`).
-/

namespace IrcGateway.Chat

open IrcGateway.Text

/-! ### Places -/

/-- At this place of the text there is an at sign with `user` behind it. -/
def OccursAt (user text : List Char) (i : Nat) : Prop :=
  '@' :: user <+: text.drop i

/-- At this place of the text there is an at sign with `user` behind it, as a whole token. -/
def MentionedAt (user text : List Char) (i : Nat) : Prop :=
  OccursAt user text i ∧ Ends (text.drop (i + (user.length + 1)))

/-- This place belongs to a mention that begins before it. -/
def WithinMention (user text : List Char) (i : Nat) : Prop :=
  ∃ j < i, i ≤ j + user.length ∧ MentionedAt user text j

instance (cs : List Char) : Decidable (Ends cs) :=
  decidable_of_iff _ ends_iff.symm

instance (user text : List Char) : DecidablePred (OccursAt user text) :=
  fun i => inferInstanceAs (Decidable ('@' :: user <+: text.drop i))

instance (user text : List Char) : DecidablePred (MentionedAt user text) :=
  fun _ => inferInstanceAs (Decidable (_ ∧ _))

instance (user text : List Char) : DecidablePred (WithinMention user text) :=
  fun i => inferInstanceAs (Decidable (∃ j < i, i ≤ j + user.length ∧ MentionedAt user text j))

/-- What a place of the text becomes. A mention turns into an at sign and the name, all at the place
where it begins; any other character stays as it is. -/
def shownAt (user name text : List Char) (i : Nat) : List Char :=
  if MentionedAt user text i then '@' :: name
  else if WithinMention user text i then []
  else text[i]?.toList

/-- The text with every mention of `user` replaced, place by place. -/
def placeByPlace (user name text : List Char) : List Char :=
  (List.range text.length).flatMap (shownAt user name text)

/-- The number of places at which there is an at sign with `user` behind it. -/
def occurrences (user text : List Char) : Nat :=
  (List.range text.length).countP fun i => OccursAt user text i

variable {user : List Char}

theorem OccursAt.getElem?_eq {text : List Char} {i : Nat} (h : OccursAt user text i) :
    text[i]? = some '@' := by
  obtain ⟨rest, hrest⟩ := h
  have hfirst : (text.drop i)[0]? = some '@' := by rw [← hrest]; rfl
  rwa [List.getElem?_drop, Nat.add_zero] at hfirst

/-- **Occurrences are apart.** One that begins behind another begins behind its end. -/
theorem OccursAt.apart (hat : '@' ∉ user) {text : List Char} {i j : Nat}
    (hi : OccursAt user text i) (hj : OccursAt user text j) (hlt : i < j) :
    i + user.length < j := by
  by_contra hle
  -- otherwise its at sign is one of the characters of `user`
  obtain ⟨k, rfl⟩ := Nat.exists_eq_add_of_lt hlt
  have hk : k < user.length := by omega
  have hsign := hj.getElem?_eq
  obtain ⟨rest, hrest⟩ := hi
  rw [Nat.add_assoc, ← List.getElem?_drop, ← hrest, List.cons_append, List.getElem?_cons_succ,
    List.getElem?_append_left hk] at hsign
  exact hat (List.mem_of_getElem? hsign)

theorem occursAt_append (front cs : List Char) (i : Nat) :
    OccursAt user (front ++ cs) (front.length + i) ↔ OccursAt user cs i := by
  rw [OccursAt, OccursAt, List.drop_length_add_append]

theorem mentionedAt_append (front cs : List Char) (i : Nat) :
    MentionedAt user (front ++ cs) (front.length + i) ↔ MentionedAt user cs i := by
  rw [MentionedAt, MentionedAt, occursAt_append, Nat.add_assoc, List.drop_length_add_append]

section Append

variable {front cs : List Char}
  (h : ∀ i < front.length, MentionedAt user (front ++ cs) i → i + user.length < front.length)
include h

theorem withinMention_append (i : Nat) :
    WithinMention user (front ++ cs) (front.length + i) ↔ WithinMention user cs i := by
  constructor
  · rintro ⟨j, hj, hle, hm⟩
    rcases Nat.lt_or_ge j front.length with hlt | hge
    · -- a mention that begins in the front ends there
      have hends := h j hlt hm
      omega
    · obtain ⟨j, rfl⟩ := Nat.exists_eq_add_of_le hge
      exact ⟨j, by omega, by omega, (mentionedAt_append front cs j).mp hm⟩
  · rintro ⟨j, hj, hle, hm⟩
    exact ⟨front.length + j, by omega, by omega, (mentionedAt_append front cs j).mpr hm⟩

/-- If no mention reaches out of the front of a text, the rest is shown as if it stood alone. -/
theorem placeByPlace_append (name : List Char) :
    placeByPlace user name (front ++ cs) =
      (List.range front.length).flatMap (shownAt user name (front ++ cs)) ++
        placeByPlace user name cs := by
  have hshown : ∀ i,
      shownAt user name (front ++ cs) (front.length + i) = shownAt user name cs i := by
    intro i
    simp only [shownAt, mentionedAt_append, withinMention_append h,
      List.getElem?_append_right (Nat.le_add_right _ i), Nat.add_sub_cancel_left]
  calc placeByPlace user name (front ++ cs)
    _ = (List.range front.length).flatMap (shownAt user name (front ++ cs)) ++
          (List.range cs.length).flatMap fun i =>
            shownAt user name (front ++ cs) (front.length + i) := by
        rw [placeByPlace, List.length_append, List.range_add, List.flatMap_append,
          List.flatMap_map]
    _ = (List.range front.length).flatMap (shownAt user name (front ++ cs)) ++
          placeByPlace user name cs := by
        simp only [hshown, placeByPlace]

end Append

/-! ### What the pass makes of places -/

theorem flatMap_getElem? (front cs : List Char) :
    (List.range front.length).flatMap (fun i => (front ++ cs)[i]?.toList) = front := by
  induction front with
  | nil => rfl
  | cons c front ih =>
    rw [List.length_cons, List.range_succ_eq_map, List.flatMap_cons, List.flatMap_map]
    exact congrArg (c :: ·) ih

/-- Where no mention begins the text stays. -/
theorem placeByPlace_of_kept {front cs : List Char}
    (h : ∀ i < front.length, ¬ MentionedAt user (front ++ cs) i) (name : List Char) :
    placeByPlace user name (front ++ cs) = front ++ placeByPlace user name cs := by
  have hkept : ∀ i ∈ List.range front.length,
      shownAt user name (front ++ cs) i = (front ++ cs)[i]?.toList := by
    intro i hi
    have hi' := List.mem_range.mp hi
    have hwithin : ¬ WithinMention user (front ++ cs) i := by
      rintro ⟨j, hj, -, hm⟩
      exact h j (hj.trans hi') hm
    rw [shownAt, if_neg (h i hi'), if_neg hwithin]
  rw [placeByPlace_append (fun i hi hm => absurd hm (h i hi)), List.flatMap_congr hkept,
    flatMap_getElem?]

theorem occursAt_zero (user after : List Char) : OccursAt user ('@' :: user ++ after) 0 :=
  List.prefix_append _ _

theorem mentionedAt_zero_iff (user after : List Char) :
    MentionedAt user ('@' :: user ++ after) 0 ↔ Ends after := by
  rw [MentionedAt, and_iff_right (occursAt_zero user after), Nat.zero_add, ← List.length_cons,
    List.drop_left]

section AtFirst

variable (hat : '@' ∉ user) (after : List Char)
include hat

/-- Behind an occurrence there is no other one up to its end. -/
theorem eq_zero_of_occursAt {i : Nat} (hi : i < ('@' :: user).length)
    (h : OccursAt user ('@' :: user ++ after) i) : i = 0 := by
  rcases Nat.eq_zero_or_pos i with rfl | hpos
  · rfl
  · have hapart := (occursAt_zero user after).apart hat h hpos
    rw [List.length_cons] at hi
    omega

/-- A mention is replaced as a whole. -/
theorem placeByPlace_of_mention (hends : Ends after) (name : List Char) :
    placeByPlace user name ('@' :: user ++ after) =
      '@' :: name ++ placeByPlace user name after := by
  have hmention := (mentionedAt_zero_iff user after).mpr hends
  have hreach : ∀ i < ('@' :: user).length, MentionedAt user ('@' :: user ++ after) i →
      i + user.length < ('@' :: user).length := by
    intro i hi hm
    rw [eq_zero_of_occursAt hat after hi hm.1, List.length_cons]
    omega
  -- the name stands at the first place, and the others of the mention are empty
  have hgone : ∀ i ∈ List.range user.length,
      shownAt user name ('@' :: user ++ after) (i + 1) = [] := by
    intro i hi
    have hi' := List.mem_range.mp hi
    have hfirst : ¬ MentionedAt user ('@' :: user ++ after) (i + 1) := fun hm =>
      absurd (eq_zero_of_occursAt hat after (Nat.succ_lt_succ hi') hm.1) (Nat.succ_ne_zero i)
    have hwithin : WithinMention user ('@' :: user ++ after) (i + 1) :=
      ⟨0, Nat.succ_pos i, by omega, hmention⟩
    rw [shownAt, if_neg hfirst, if_pos hwithin]
  rw [placeByPlace_append hreach, List.length_cons, List.range_succ_eq_map, List.flatMap_cons,
    List.flatMap_map, List.flatMap_congr hgone, shownAt, if_pos hmention]
  simp

end AtFirst

/-- **The pass is exact.** It makes of a text what the places say. -/
theorem replaceMention_eq_placeByPlace (hat : '@' ∉ user) (name text : List Char) :
    replaceMention user name text = placeByPlace user name text := by
  fun_induction replaceMention user name text with
  | case1 => rfl
  | case2 c cs hprefix after hcontinues ih =>
    -- the occurrence goes on, and nothing begins within it
    obtain ⟨rfl, hcs⟩ := eq_append_of_isPrefixOf hprefix
    have hkept : ∀ i < ('@' :: user).length, ¬ MentionedAt user ('@' :: user ++ after) i := by
      intro i hi hm
      obtain rfl := eq_zero_of_occursAt hat after hi hm.1
      exact ends_iff.mp ((mentionedAt_zero_iff user after).mp hm) hcontinues
    rw [ih, hcs, ← List.cons_append, ← List.cons_append, placeByPlace_of_kept hkept]
  | case3 c cs hprefix after hends ih =>
    obtain ⟨rfl, hcs⟩ := eq_append_of_isPrefixOf hprefix
    rw [ih, hcs, ← List.cons_append, ← List.cons_append,
      placeByPlace_of_mention hat after (ends_iff.mpr hends)]
  | case4 c cs hprefix ih =>
    have hkept : ∀ i < [c].length, ¬ MentionedAt user ([c] ++ cs) i := by
      intro i hi hm
      obtain rfl := Nat.lt_one_iff.mp hi
      exact hprefix (List.isPrefixOf_iff_prefix.mpr hm.1)
    rw [ih]
    exact (placeByPlace_of_kept hkept name).symm

/-! ### The rounds of the pass -/

/-- How far a pass is: what it has put out, and what of the text is left. -/
structure Pass where
  done : List Char
  rest : List Char

/-- One round of a pass: the next occurrence is looked for, and is kept if it goes on into a longer
token. -/
def replaceNext (user name : List Char) (p : Pass) : Option Pass :=
  (p.rest.dropInfix? ('@' :: user)).map fun (before, after) =>
    { done := p.done ++ before ++
        '@' :: (if after.head?.any continuesToken then user else name)
      rest := after }

theorem dropInfix?_append (pattern after : List Char) :
    (pattern ++ after).dropInfix? pattern = some ([], after) := by
  rw [List.dropInfix?_eq_some_iff]
  exact ⟨⟨pattern, rfl, beq_self_eq_true pattern⟩, fun _ _ _ _ _ => Nat.zero_le _⟩

/-- What does not begin with the pattern has it where the rest has it. -/
theorem dropInfix?_cons {pattern cs : List Char} {c : Char} (h : ¬ pattern <+: c :: cs) :
    (c :: cs).dropInfix? pattern = (cs.dropInfix? pattern).map fun p => (c :: p.1, p.2) := by
  have hnone : (c :: cs).dropPrefix? pattern = none := by
    rw [Option.eq_none_iff_forall_ne_some]
    intro rest hrest
    obtain ⟨pattern', heq, hpattern⟩ := List.dropPrefix?_eq_some_iff.mp hrest
    exact h ⟨rest, by rw [heq, eq_of_beq hpattern]⟩
  refine Option.ext fun p => ?_
  -- what has been passed over is the head alone
  rw [List.dropInfix?, List.dropInfix?.go, hnone, List.dropInfix?_go_eq_some_iff,
    Option.map_eq_some_iff]
  simp only [← List.dropInfix?_eq_some_iff]
  constructor
  · rintro ⟨before, hbefore, hfound⟩
    exact ⟨(before, p.2), hfound, Prod.ext hbefore.symm rfl⟩
  · rintro ⟨p', hfound, rfl⟩
    exact ⟨p'.1, rfl, hfound⟩

theorem replaceNext_of_occursAt (user name done after : List Char) :
    replaceNext user name ⟨done, '@' :: (user ++ after)⟩ =
      some ⟨done ++ '@' :: (if after.head?.any continuesToken then user else name), after⟩ := by
  rw [replaceNext, ← List.cons_append, dropInfix?_append, Option.map_some]
  simp only [List.append_nil]

/-- A character with which no occurrence begins may as well have been put out. -/
theorem replaceNext_cons {c : Char} {cs : List Char} (h : ¬ '@' :: user <+: c :: cs)
    (name done : List Char) :
    replaceNext user name ⟨done, c :: cs⟩ = replaceNext user name ⟨done ++ [c], cs⟩ := by
  rw [replaceNext, replaceNext, dropInfix?_cons h, Option.map_map]
  congr 1
  funext p
  simp

theorem occurrences_append (front cs : List Char) :
    occurrences user (front ++ cs) =
      (List.range front.length).countP (fun i => OccursAt user (front ++ cs) i) +
        occurrences user cs := by
  simp only [occurrences, List.length_append, List.range_add, List.countP_append, List.countP_map,
    Function.comp_def, occursAt_append]

theorem occurrences_cons {c : Char} {cs : List Char} (h : ¬ '@' :: user <+: c :: cs) :
    occurrences user (c :: cs) = occurrences user cs := by
  have hnone : (List.range [c].length).countP (fun i => OccursAt user ([c] ++ cs) i) = 0 := by
    rw [List.countP_eq_zero]
    intro i hi
    obtain rfl := Nat.lt_one_iff.mp (List.mem_range.mp hi)
    exact fun hoccurs => h (of_decide_eq_true hoccurs)
  rw [← List.singleton_append, occurrences_append, hnone, Nat.zero_add]

theorem occurrences_of_occursAt (hat : '@' ∉ user) (after : List Char) :
    occurrences user ('@' :: user ++ after) = occurrences user after + 1 := by
  -- up to its end the occurrence is the only one
  have hzero : ∀ i ∈ List.range ('@' :: user).length,
      decide (OccursAt user ('@' :: user ++ after) i) = true ↔ (i == 0) = true := by
    intro i hi
    rw [decide_eq_true_iff, beq_iff_eq]
    refine ⟨eq_zero_of_occursAt hat after (List.mem_range.mp hi), ?_⟩
    rintro rfl
    exact occursAt_zero user after
  have hone : (List.range ('@' :: user).length).countP (· == 0) = 1 :=
    List.count_eq_one_of_mem List.nodup_range (List.mem_range.mpr (Nat.succ_pos _))
  rw [occurrences_append, List.countP_congr hzero, hone, Nat.add_comm]

/-- **The pass ends.** It makes as many rounds as there are occurrences. -/
theorem exists_finishes (hat : '@' ∉ user) (name done text : List Char) :
    ∃ last, Finishes (replaceNext user name) (occurrences user text) ⟨done, text⟩ last ∧
      last.done ++ last.rest = done ++ replaceMention user name text := by
  fun_induction replaceMention user name text generalizing done with
  | case1 =>
    exact ⟨⟨done, []⟩, .ended rfl, rfl⟩
  | case2 c cs hprefix after hcontinues ih =>
    -- a longer number begins with this one, and is left as it is
    obtain ⟨rfl, hcs⟩ := eq_append_of_isPrefixOf hprefix
    obtain ⟨last, hfinishes, hlast⟩ := ih (done ++ '@' :: user)
    have hround := replaceNext_of_occursAt user name done after
    rw [if_pos hcontinues] at hround
    refine ⟨last, ?_, ?_⟩
    · rw [hcs, ← List.cons_append, occurrences_of_occursAt hat]
      exact .again hround hfinishes
    · rw [hlast, List.append_assoc, List.cons_append]
  | case3 c cs hprefix after hends ih =>
    -- the number ends here, and the name takes its place
    obtain ⟨rfl, hcs⟩ := eq_append_of_isPrefixOf hprefix
    obtain ⟨last, hfinishes, hlast⟩ := ih (done ++ '@' :: name)
    have hround := replaceNext_of_occursAt user name done after
    rw [if_neg hends] at hround
    refine ⟨last, ?_, ?_⟩
    · rw [hcs, ← List.cons_append, occurrences_of_occursAt hat]
      exact .again hround hfinishes
    · rw [hlast, List.append_assoc, List.cons_append]
  | case4 c cs hprefix ih =>
    have hnot : ¬ '@' :: user <+: c :: cs := fun h => hprefix (List.isPrefixOf_iff_prefix.mpr h)
    obtain ⟨last, hfinishes, hlast⟩ := ih (done ++ [c])
    have hround := replaceNext_cons hnot name done
    rw [List.append_assoc, List.singleton_append] at hlast
    rw [occurrences_cons hnot]
    -- the character goes out with the next round, or is left with the rest
    rcases hfinishes.of_round_eq hround with hfinishes' | ⟨hfinishes', rfl⟩
    · exact ⟨last, hfinishes', hlast⟩
    · rw [List.append_assoc, List.singleton_append] at hlast
      exact ⟨_, hfinishes', hlast⟩

/-- **One pass is exact.** The user part of whom is mentioned has no at sign, and may be empty. Then
no two occurrences of an at sign with `user` behind it share a place. Whatever the text and the
name, what the pass makes of the text is to be read off each place by itself: the occurrences that
are not followed by a letter, a digit or an underscore are replaced by an at sign and the name, and
all other characters stay in their order. The pass makes one round for each occurrence, replaced or
kept, and ends there. -/
theorem one_pass_is_exact {user : List Char} (hat : '@' ∉ user) (name text : List Char) :
    (∀ i j, OccursAt user text i → OccursAt user text j → i < j → i + user.length < j) ∧
    replaceMention user name text = (List.range text.length).flatMap (shownAt user name text) ∧
    ∃ last, Finishes (replaceNext user name) (occurrences user text) ⟨[], text⟩ last ∧
      last.done ++ last.rest = replaceMention user name text := by
  refine ⟨fun i j hi hj => hi.apart hat hj, replaceMention_eq_placeByPlace hat name text, ?_⟩
  exact exists_finishes hat name [] text

/-- Two mentions side by side, a longer number, and a mention at the very end. -/
theorem four_rounds_for_bob :
    let user := "316".toList
    let text := "@316@316, not @3161 but @316".toList
    '@' ∉ user ∧
      replaceMention user "Bob".toList text = "@Bob@Bob, not @3161 but @Bob".toList ∧
      ∃ last, Finishes (replaceNext user "Bob".toList) 4 ⟨[], text⟩ last ∧
        last.done ++ last.rest = "@Bob@Bob, not @3161 but @Bob".toList := by
  intro user text
  have hat : '@' ∉ user := by decide +kernel
  obtain ⟨-, hplaces, last, hfinishes, hlast⟩ := one_pass_is_exact hat "Bob".toList text
  have hshown : (List.range text.length).flatMap (shownAt user "Bob".toList text) =
      "@Bob@Bob, not @3161 but @Bob".toList := by decide +kernel
  have hrounds : occurrences user text = 4 := by decide +kernel
  rw [hrounds] at hfinishes
  rw [hplaces, hshown] at hlast
  exact ⟨hat, hplaces.trans hshown, last, hfinishes, hlast⟩

end IrcGateway.Chat
