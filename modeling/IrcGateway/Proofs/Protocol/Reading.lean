import IrcGateway.Protocol.Parser
import Mathlib.Data.List.DropRight

/-!
# What a line can be read as

The reader cuts a line at spaces, semicolons and equals signs. What it finds between the cuts is
free of them, and `Message.Readable` collects that for a whole message: every message that is read
has it (`readable_of_parse`). It says nothing of the end of the line, which the reader treats apart.

Nor does the reader make anything up. All parameters consist of characters that stand before the
carriage returns and line feeds at the end of the line (`mem_dropLineEnd_of_parse`).
-/

namespace IrcGateway.Text

theorem isUpper_iff {c : Char} : c.isUpper = true ↔ 65 ≤ c.toNat ∧ c.toNat ≤ 90 := by
  change decide ('A'.val ≤ c.val ∧ c.val ≤ 'Z'.val) = true ↔ _
  rw [decide_eq_true_iff]
  exact and_congr UInt32.le_iff_toNat_le UInt32.le_iff_toNat_le

/-- The letters are the capitals and the small ones, which `Char.toUpper` looks for. -/
theorem isAlphanum_iff {c : Char} : c.isAlphanum = true ↔
    (c.isUpper = true ∨ 'a'.val ≤ c.val ∧ c.val ≤ 'z'.val) ∨ c.isDigit = true := by
  change (c.isUpper || (decide ('a'.val ≤ c.val) && decide (c.val ≤ 'z'.val)) || c.isDigit) = true
    ↔ _
  rw [Bool.or_eq_true, Bool.or_eq_true, Bool.and_eq_true, decide_eq_true_iff, decide_eq_true_iff]

/-- A letter or digit in upper case is a capital or a digit. -/
theorem isUpper_or_isDigit_toUpper {c : Char} (h : c.isAlphanum = true) :
    c.toUpper.isUpper = true ∨ c.toUpper.isDigit = true := by
  unfold Char.toUpper
  split
  · next hsmall =>
    left
    have hlow : 97 ≤ c.val.toNat := UInt32.le_iff_toNat_le.mp hsmall.1
    have hhigh : c.val.toNat ≤ 122 := UInt32.le_iff_toNat_le.mp hsmall.2
    -- the capital stands 32 places before the small letter
    have hval : (c.val + ('A'.val - 'a'.val)).toNat = c.val.toNat - 32 := by
      rw [UInt32.toNat_add, show ('A'.val - 'a'.val).toNat = 4294967264 from rfl]
      omega
    rw [isUpper_iff, Char.toNat, hval]
    omega
  · next hsmall =>
    exact (isAlphanum_iff.mp h).imp_left fun hletter => hletter.resolve_right hsmall

/-- Capitals and digits are their own upper case. -/
theorem toUpper_eq_self {c : Char} (h : c.isUpper = true ∨ c.isDigit = true) : c.toUpper = c := by
  rw [isUpper_iff, Char.isDigit_iff_toNat] at h
  unfold Char.toUpper
  split
  · next hsmall =>
    have hlow : 97 ≤ c.toNat := UInt32.le_iff_toNat_le.mp hsmall.1
    have hdigit : '9'.toNat = 57 := rfl
    omega
  · rfl

/-- The characters of a piece are characters of the text, and none at which it was cut. -/
theorem mem_and_not_cut_of_mem_pieces {cut : Char → Bool} {cs p : List Char}
    (hp : p ∈ pieces cut cs) {c : Char} (hc : c ∈ p) : c ∈ cs ∧ cut c = false := by
  induction cs generalizing p with
  | nil =>
    rw [pieces, List.mem_singleton] at hp
    simp [hp] at hc
  | cons d cs ih =>
    rw [pieces] at hp
    split at hp
    · rcases List.mem_cons.mp hp with rfl | hrest
      · simp at hc
      · exact (ih hrest hc).imp_left (List.mem_cons_of_mem d)
    · next hcut =>
      -- the character goes to the front of the first piece of what follows
      have hdone : c = d → c ∈ d :: cs ∧ cut c = false := by
        rintro rfl
        exact ⟨List.mem_cons_self, by simpa using hcut⟩
      split at hp
      · next hnone => exact absurd hnone (pieces_ne_nil cut cs)
      · next q qs hpieces =>
        rw [hpieces] at ih
        rcases List.mem_cons.mp hp with rfl | hrest
        · rcases List.mem_cons.mp hc with hd | hq
          · exact hdone hd
          · exact (ih List.mem_cons_self hq).imp_left (List.mem_cons_of_mem d)
        · exact (ih (List.mem_cons_of_mem q hrest) hc).imp_left (List.mem_cons_of_mem d)

end IrcGateway.Text

namespace IrcGateway.Protocol

open IrcGateway.Text

/-! ### Words -/

/-- A word without spaces is taken off whole, up to the spaces after it. -/
theorem nextWord_append {word rest : List Char} (hword : ' ' ∉ word)
    (hrest : ∀ c, rest.head? = some c → c = ' ') :
    nextWord (word ++ rest) = (word, rest.dropWhile (· == ' ')) := by
  unfold nextWord
  cases rest with
  | nil => rw [List.append_nil, splitAtFirst_eq_none_iff.mpr hword, List.dropWhile_nil]
  | cons c rest =>
    obtain rfl := hrest c rfl
    rw [splitAtFirst_append rest hword]
    rfl

/-- Between the word and the rest there are spaces alone, and all of them. -/
theorem exists_gap_nextWord (cs : List Char) :
    ∃ gap, cs = (nextWord cs).1 ++ gap ++ (nextWord cs).2 ∧ ' ' ∉ (nextWord cs).1 ∧
      (nextWord cs).2.head? ≠ some ' ' := by
  unfold nextWord
  split
  · next word rest hsplit =>
    obtain ⟨rfl, hword⟩ := splitAtFirst_eq_some_iff.mp hsplit
    refine ⟨' ' :: rest.takeWhile (· == ' '), ?_, hword, fun hhead => ?_⟩
    · rw [List.append_assoc, List.cons_append, List.takeWhile_append_dropWhile]
    · have hnot := List.head?_dropWhile_not (· == ' ') rest
      rw [hhead] at hnot
      simp at hnot
  · next hnone =>
    exact ⟨[], by simp, splitAtFirst_eq_none_iff.mp hnone, by simp⟩

theorem space_notMem_nextWord (cs : List Char) : ' ' ∉ (nextWord cs).1 :=
  (exists_gap_nextWord cs).choose_spec.2.1

theorem head?_nextWord_ne (cs : List Char) : (nextWord cs).2.head? ≠ some ' ' :=
  (exists_gap_nextWord cs).choose_spec.2.2

theorem nextWord_fst_subset (cs : List Char) : (nextWord cs).1 ⊆ cs := by
  obtain ⟨gap, hcs, -, -⟩ := exists_gap_nextWord cs
  intro c hc
  rw [hcs]
  simp [hc]

theorem nextWord_snd_subset (cs : List Char) : (nextWord cs).2 ⊆ cs := by
  obtain ⟨gap, hcs, -, -⟩ := exists_gap_nextWord cs
  intro c hc
  rw [hcs]
  simp [hc]

/-- A text that begins with no space begins with its word. -/
theorem head?_nextWord {c : Char} {cs : List Char} (hc : c ≠ ' ') :
    (nextWord (c :: cs)).1.head? = some c := by
  unfold nextWord
  rw [splitAtFirst, if_neg hc]
  cases splitAtFirst ' ' cs <;> rfl

/-! ### Messages that can be read -/

/-- A tag that reads as it is written. -/
structure Tag.WellFormed (t : Tag) : Prop where
  key : ∀ c ∈ t.key.toList, c ≠ ' ' ∧ c ≠ ';' ∧ c ≠ '='
  value : ∀ v, t.value = some v → ∀ c ∈ v.toList, c ≠ ' ' ∧ c ≠ ';'
  /-- Without a value there has to be something else. -/
  key_ne : t.value = none → t.key ≠ ""

/-- A parameter that needs no mark: it is not empty, holds no space and begins with no colon. -/
structure IsWord (p : String) : Prop where
  ne : p ≠ ""
  space : ' ' ∉ p.toList
  colon : p.toList.head? ≠ some ':'

/-- The parts of a message read as they are written, but for the end of the line. -/
structure Message.Readable (m : Message) : Prop where
  tags : ∀ t ∈ m.tags, t.WellFormed
  source : ∀ s, m.source = some s → ' ' ∉ s.toList
  command_ne : m.command ≠ ""
  command : ∀ c ∈ m.command.toList, c.isUpper = true ∨ c.isDigit = true
  /-- Only the last parameter may be free text. -/
  words : ∀ p ∈ m.params.dropLast, IsWord p

theorem wellFormed_of_mem_readTags {word : List Char} (hword : ' ' ∉ word) {t : Tag}
    (ht : t ∈ readTags word) : t.WellFormed := by
  unfold readTags at ht
  obtain ⟨p, hp, hcut⟩ := List.mem_map.mp ht
  obtain ⟨hpiece, hne⟩ := List.mem_filter.mp hp
  have hfree : ∀ c ∈ p, c ≠ ' ' ∧ c ≠ ';' := by
    intro c hc
    obtain ⟨hmem, hsemicolon⟩ := mem_and_not_cut_of_mem_pieces hpiece hc
    exact ⟨fun h => hword (h ▸ hmem), by simpa using hsemicolon⟩
  -- a piece with an equals sign has a key before the first one, another piece is all key
  split at hcut
  · next key value hsplit =>
    obtain ⟨rfl, hkey⟩ := splitAtFirst_eq_some_iff.mp hsplit
    subst hcut
    refine ⟨?_, ?_, by simp⟩
    · intro c hc
      rw [String.toList_ofList] at hc
      have hboth := hfree c (List.mem_append_left _ hc)
      exact ⟨hboth.1, hboth.2, fun h => hkey (h ▸ hc)⟩
    · intro v hv c hc
      rw [← Option.some.inj hv, String.toList_ofList] at hc
      exact hfree c (List.mem_append_right _ (List.mem_cons_of_mem _ hc))
  · next hsplit =>
    have hkey := splitAtFirst_eq_none_iff.mp hsplit
    subst hcut
    refine ⟨?_, by simp, ?_⟩
    · intro c hc
      rw [String.toList_ofList] at hc
      have hboth := hfree c hc
      exact ⟨hboth.1, hboth.2, fun h => hkey (h ▸ hc)⟩
    · intro _ hempty
      rw [String.ofList_eq_empty_iff] at hempty
      simp [hempty] at hne

/-- Every parameter but the last is a word, where the text begins with no space. -/
theorem isWord_of_mem_readParams {cs : List Char} (hcs : cs.head? ≠ some ' ') :
    ∀ p ∈ (readParams cs).dropLast, IsWord p := by
  fun_induction readParams cs with
  | case1 => simp
  | case2 trailing => simp
  | case3 c cs hcolon ih =>
    intro p hp
    have hc : c ≠ ' ' := fun h => hcs (h ▸ rfl)
    have hhead : (nextWord (c :: cs)).1.head? = some c := head?_nextWord hc
    -- the word is the last parameter only if nothing follows
    cases hrest : readParams (nextWord (c :: cs)).2 with
    | nil => simp [hrest] at hp
    | cons q qs =>
      rw [hrest, List.dropLast_cons_of_ne_nil (List.cons_ne_nil q qs), ← hrest] at hp
      rcases List.mem_cons.mp hp with rfl | hlater
      · refine ⟨?_, ?_, ?_⟩
        · intro hempty
          rw [String.ofList_eq_empty_iff] at hempty
          simp [hempty] at hhead
        · rw [String.toList_ofList]
          exact space_notMem_nextWord _
        · rw [String.toList_ofList, hhead]
          intro h
          exact hcolon (Option.some.inj h)
      · exact ih (head?_nextWord_ne _) p hlater

/-- Parameters consist of what they are read from. -/
theorem mem_of_mem_readParams {cs : List Char} {p : String} (hp : p ∈ readParams cs) :
    p.toList ⊆ cs := by
  fun_induction readParams cs with
  | case1 => simp at hp
  | case2 trailing =>
    rw [List.mem_singleton.mp hp, String.toList_ofList]
    exact List.subset_cons_self _ _
  | case3 c cs hcolon ih =>
    rcases List.mem_cons.mp hp with rfl | hlater
    · rw [String.toList_ofList]
      exact nextWord_fst_subset _
    · exact List.Subset.trans (ih hlater) (nextWord_snd_subset _)

/-! ### Reading a line -/

/-- What the reader does once it has come to the command. -/
theorem readCommand_eq_ok {tags : List Tag} {source : Option String} {cs : List Char} {m : Message}
    (h : readCommand tags source cs = .ok m) :
    (nextWord cs).1 ≠ [] ∧ (∀ c ∈ (nextWord cs).1, c.isAlphanum = true) ∧
      m = { tags, source, command := upper (String.ofList (nextWord cs).1)
            params := readParams (nextWord cs).2 } := by
  unfold readCommand at h
  simp only at h
  split at h
  · simp at h
  · next hne =>
    split at h
    · next hall => exact ⟨hne, List.all_eq_true.mp hall, (Except.ok.inj h).symm⟩
    · simp at h

/-- Before the command there may be tags and a source. -/
theorem exists_readCommand_of_readLine {cs : List Char} {m : Message} (h : readLine cs = .ok m) :
    ∃ tags source rest, readCommand tags source rest = .ok m ∧ rest ⊆ cs ∧
      (∀ t ∈ tags, t.WellFormed) ∧ ∀ s, source = some s → ' ' ∉ s.toList := by
  -- behind the tags, if there are any
  have hsource : ∀ {tags : List Tag} {cs : List Char}, (∀ t ∈ tags, t.WellFormed) →
      readSource tags cs = .ok m →
      ∃ tags source rest, readCommand tags source rest = .ok m ∧ rest ⊆ cs ∧
        (∀ t ∈ tags, t.WellFormed) ∧ ∀ s, source = some s → ' ' ∉ s.toList := by
    intro tags cs htags h
    unfold readSource at h
    split at h
    · -- a source is a word, and free of spaces
      next named =>
      refine ⟨tags, _, _, h, ?_, htags, ?_⟩
      · exact List.Subset.trans (nextWord_snd_subset named) (List.subset_cons_self _ _)
      · rintro s hs
        rw [← Option.some.inj hs, String.toList_ofList]
        exact space_notMem_nextWord _
    · exact ⟨tags, none, cs, h, List.Subset.refl cs, htags, by simp⟩
  unfold readLine at h
  split at h
  · simp at h
  · next tagged =>
    obtain ⟨tags, source, rest, hread, hsub, hboth⟩ :=
      hsource (fun t => wellFormed_of_mem_readTags (space_notMem_nextWord tagged)) h
    exact ⟨tags, source, rest, hread,
      List.Subset.trans (List.Subset.trans hsub (nextWord_snd_subset _))
        (List.subset_cons_self _ _), hboth⟩
  · exact hsource (by simp) h

/-- **What is read is readable.** -/
theorem readable_of_parse {line : String} {m : Message} (h : Message.parse line = .ok m) :
    m.Readable := by
  obtain ⟨tags, source, rest, hread, -, htags, hsource⟩ := exists_readCommand_of_readLine h
  obtain ⟨hne, halnum, rfl⟩ := readCommand_eq_ok hread
  refine ⟨htags, hsource, ?_, ?_, isWord_of_mem_readParams (head?_nextWord_ne _)⟩
  · simpa [upper, String.ofList_eq_empty_iff] using hne
  · intro c hc
    rw [upper, String.toList_ofList, String.toList_ofList] at hc
    obtain ⟨d, hd, rfl⟩ := List.mem_map.mp hc
    exact isUpper_or_isDigit_toUpper (halnum d hd)

/-- Parameters consist of characters before the end of the line. -/
theorem mem_dropLineEnd_of_parse {line : String} {m : Message} (h : Message.parse line = .ok m)
    {p : String} (hp : p ∈ m.params) : p.toList ⊆ dropLineEnd line.toList := by
  obtain ⟨tags, source, rest, hread, hsub, -⟩ := exists_readCommand_of_readLine h
  obtain ⟨-, -, rfl⟩ := readCommand_eq_ok hread
  have hparams := List.Subset.trans (mem_of_mem_readParams hp) (nextWord_snd_subset rest)
  exact List.Subset.trans (List.Subset.trans hparams hsub) (List.dropWhile_suffix _).subset

end IrcGateway.Protocol
