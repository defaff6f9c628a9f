import IrcGateway.Proofs.Protocol.RoundTrip
import IrcGateway.Service.Contact
import Mathlib.Data.List.TakeWhile

/-!
# Usable names, word by word

A name is gone through character by character, and an underscore is written late: only when a
character is kept and white space was skipped since the one before. What comes of it is said more
simply. Of each word of the name the usable characters are kept, and the words of which something is
left are joined by underscores (`safeName_eq`).

The loop runs along the pieces between white space, of which the first is the rest of the word being
read. Its two flags say what that piece still needs: an underscore if there was white space and
something was kept before, and nothing otherwise (`safeChars_begun`, `safeChars_not_begun`).

A usable name (`IsUsable`) consists of one word that is kept as it is (`IsUsable.safeName_eq_self`),
and what comes of a name is usable unless it is the fallback (`isUsable_safeName_of_ne_fallback`).
-/

namespace IrcGateway.Text

/-- What is no cut goes to the first piece. -/
theorem exists_pieces_cons {cut : Char → Bool} {c : Char} (h : cut c = false) (cs : List Char) :
    ∃ p ps, pieces cut cs = p :: ps ∧ pieces cut (c :: cs) = (c :: p) :: ps := by
  obtain ⟨p, ps, heq⟩ := List.exists_cons_of_ne_nil (pieces_ne_nil cut cs)
  exact ⟨p, ps, heq, by simp [pieces, h, heq]⟩

end IrcGateway.Text

namespace IrcGateway.Service

open IrcGateway.Text

/-! ### The words of a name -/

/-- The usable characters of a word. -/
def usable (word : List Char) : List Char :=
  word.filter fun c => !isDropped c

/-- What is left of some words, without those of which nothing is left. -/
def usableParts (words : List (List Char)) : List (List Char) :=
  (words.map usable).filter fun word => !word.isEmpty

/-- What is left of the words of a name. -/
def usableWords (name : List Char) : List (List Char) :=
  usableParts (words name)

theorem usableParts_cons (word : List Char) (words : List (List Char)) :
    usableParts (word :: words) =
      if usable word = [] then usableParts words else usable word :: usableParts words := by
  by_cases h : usable word = [] <;> simp [usableParts, h]

@[simp]
theorem usable_nil : usable [] = [] := rfl

theorem usable_cons_of_dropped {c : Char} (h : isDropped c = true) (word : List Char) :
    usable (c :: word) = usable word := by
  simp [usable, h]

theorem usable_cons_of_kept {c : Char} (h : isDropped c = false) (word : List Char) :
    usable (c :: word) = c :: usable word := by
  simp [usable, h]

/-- What `usableParts` keeps is not empty, and comes from one of the words. -/
theorem mem_usableParts {part : List Char} {words : List (List Char)}
    (h : part ∈ usableParts words) : part ≠ [] ∧ ∃ word ∈ words, part = usable word := by
  obtain ⟨hmem, hne⟩ := List.mem_filter.mp h
  obtain ⟨word, hword, rfl⟩ := List.mem_map.mp hmem
  exact ⟨by simpa using hne, word, hword, rfl⟩

theorem ne_nil_of_mem_usableWords {part name : List Char} (h : part ∈ usableWords name) :
    part ≠ [] :=
  (mem_usableParts h).1

/-- Empty pieces are no words, and nothing is left of them anyway. -/
theorem usableWords_eq (name : List Char) :
    usableWords name = usableParts (pieces isBlank name) := by
  unfold usableWords words
  induction pieces isBlank name with
  | nil => rfl
  | cons piece rest ih =>
    cases piece with
    | nil => rw [usableParts_cons, if_pos usable_nil, ← ih, List.filter_cons_of_neg (by simp)]
    | cons c cs => rw [List.filter_cons_of_pos (by simp), usableParts_cons, usableParts_cons, ih]

/-- Each word with an underscore before it. -/
def underscored (words : List (List Char)) : List Char :=
  words.flatMap fun word => '_' :: word

theorem intercalate_cons (word : List Char) (words : List (List Char)) :
    ['_'].intercalate (word :: words) = word ++ underscored words := by
  induction words generalizing word with
  | nil => simp [underscored]
  | cons next words ih =>
    rw [List.intercalate_cons_cons, ih]
    simp [underscored]

/-! ### The loop -/

/-- Something was kept before: the rest of the word being read comes at once, or, after white space,
behind an underscore like the words that follow. -/
theorem safeChars_begun (gap : Bool) {cs piece : List Char} {rest : List (List Char)}
    (h : pieces isBlank cs = piece :: rest) :
    safeChars gap true cs =
      if gap then underscored (usableParts (piece :: rest))
      else usable piece ++ underscored (usableParts rest) := by
  induction cs generalizing gap piece rest with
  | nil =>
    obtain ⟨rfl, rfl⟩ := List.cons.inj h
    cases gap <;> rfl
  | cons c cs ih =>
    unfold safeChars
    by_cases hblank : isBlank c = true
    · -- the word ends, and the next one needs an underscore
      obtain ⟨next, others, hpieces⟩ := List.exists_cons_of_ne_nil (pieces_ne_nil isBlank cs)
      rw [pieces, if_pos hblank, hpieces] at h
      obtain ⟨rfl, rfl⟩ := List.cons.inj h
      rw [if_pos hblank, ih true hpieces, usableParts_cons [], if_pos usable_nil]
      cases gap <;> rfl
    · rw [Bool.not_eq_true] at hblank
      obtain ⟨word, others, hpieces, hcons⟩ := exists_pieces_cons hblank cs
      rw [hcons] at h
      obtain ⟨rfl, rfl⟩ := List.cons.inj h
      rw [if_neg (by simp [hblank])]
      by_cases hdropped : isDropped c = true
      · -- nothing changes for the word
        rw [if_pos hdropped, ih gap hpieces, usableParts_cons (c :: word), usableParts_cons word,
          usable_cons_of_dropped hdropped]
      · rw [Bool.not_eq_true] at hdropped
        rw [if_neg (by simp [hdropped]), ih false hpieces, usableParts_cons (c :: word),
          usable_cons_of_kept hdropped, if_neg (List.cons_ne_nil _ _)]
        cases gap <;> simp [underscored]

/-- Nothing was kept before: white space does not count, and the first word of which something is
left comes without an underscore. -/
theorem safeChars_not_begun (gap : Bool) (cs : List Char) :
    safeChars gap false cs = ['_'].intercalate (usableWords cs) := by
  rw [usableWords_eq]
  induction cs generalizing gap with
  | nil => rfl
  | cons c cs ih =>
    unfold safeChars
    by_cases hblank : isBlank c = true
    · -- a gap before the first word leaves nothing
      rw [if_pos hblank, ih true, pieces, if_pos hblank, usableParts_cons, if_pos usable_nil]
    · -- a character of a word is dropped, or begins what is kept of it
      rw [Bool.not_eq_true] at hblank
      obtain ⟨word, others, hpieces, hcons⟩ := exists_pieces_cons hblank cs
      rw [if_neg (by simp [hblank]), hcons]
      by_cases hdropped : isDropped c = true
      · rw [if_pos hdropped, ih gap, hpieces, usableParts_cons (c :: word), usableParts_cons word,
          usable_cons_of_dropped hdropped]
      · rw [Bool.not_eq_true] at hdropped
        rw [if_neg (by simp [hdropped]), Bool.and_false, if_neg Bool.false_ne_true,
          safeChars_begun false hpieces, if_neg Bool.false_ne_true, usableParts_cons (c :: word),
          usable_cons_of_kept hdropped, if_neg (List.cons_ne_nil _ _), intercalate_cons]
        rfl

/-- Nothing is kept of white space, so that an underscore is never the last character. -/
theorem safeChars_append_blank (gap begun : Bool) {cs blanks : List Char}
    (h : ∀ c ∈ blanks, isBlank c = true) :
    safeChars gap begun (cs ++ blanks) = safeChars gap begun cs := by
  induction cs generalizing gap begun with
  | nil =>
    rw [List.nil_append, safeChars]
    induction blanks generalizing gap with
    | nil => rfl
    | cons c blanks ih =>
      obtain ⟨hc, hblanks⟩ := List.forall_mem_cons.mp h
      rw [safeChars, if_pos hc, ih hblanks true]
  | cons c cs ih => simp only [List.cons_append, safeChars, ih]

theorem safeChars_trimStart (cs : List Char) :
    safeChars false false (trimStart cs) = safeChars false false cs := by
  induction cs with
  | nil => rfl
  | cons c cs ih =>
    unfold trimStart
    by_cases hc : isBlank c = true
    · -- whether white space was skipped does not matter before the first character kept
      calc safeChars false false ((c :: cs).dropWhile isBlank)
        _ = safeChars false false (trimStart cs) := by rw [List.dropWhile_cons_of_pos hc, trimStart]
        _ = safeChars false false cs := ih
        _ = safeChars true false cs := by rw [safeChars_not_begun, safeChars_not_begun]
        _ = safeChars false false (c :: cs) := by rw [safeChars.eq_2, if_pos hc]
    · rw [List.dropWhile_cons_of_neg hc]

theorem safeChars_trimEnd (cs : List Char) :
    safeChars false false (trimEnd cs) = safeChars false false cs := by
  have hcut : trimEnd cs ++ (cs.reverse.takeWhile isBlank).reverse = cs := by
    rw [trimEnd, ← List.reverse_append, List.takeWhile_append_dropWhile, List.reverse_reverse]
  have hblanks : ∀ c ∈ (cs.reverse.takeWhile isBlank).reverse, isBlank c = true := by
    intro c hc
    exact List.mem_takeWhile_imp (List.mem_reverse.mp hc)
  rw [← safeChars_append_blank false false hblanks, hcut]

/-- White space at the ends of a name does not count. -/
theorem safeChars_trim (cs : List Char) :
    safeChars false false (trim cs) = safeChars false false cs := by
  rw [trim, safeChars_trimEnd, safeChars_trimStart]

/-- **A safe name is the usable part of a name, word by word.** -/
theorem safeName_eq (name fallback : String) :
    safeName name fallback =
      if usableWords name.toList = [] then fallback
      else String.ofList (['_'].intercalate (usableWords name.toList)) := by
  unfold safeName
  rw [safeChars_trim, safeChars_not_begun]
  cases hparts : usableWords name.toList with
  | nil => rfl
  | cons word words =>
    -- the first word has a character, so the match takes its other branch
    have hword : word ≠ [] := ne_nil_of_mem_usableWords (hparts ▸ List.mem_cons_self)
    obtain ⟨c, cs, rfl⟩ := List.exists_cons_of_ne_nil hword
    rw [intercalate_cons, if_neg (List.cons_ne_nil _ _)]
    rfl

/-! ### Usable names -/

/-- A name that can stand as it is: a word whose characters are neither reserved nor invisible. -/
structure IsUsable (name : String) : Prop where
  ne_empty : name ≠ ""
  not_blank : ∀ c ∈ name.toList, isBlank c = false
  not_control : ∀ c ∈ name.toList, isControl c = false
  not_reserved : ∀ c ∈ name.toList, isReserved c = false

theorem isDropped_eq_false_iff {c : Char} :
    isDropped c = false ↔ isReserved c = false ∧ isControl c = false :=
  Bool.or_eq_false_iff

theorem isUsable_iff {name : String} :
    IsUsable name ↔
      name ≠ "" ∧ ∀ c ∈ name.toList, isBlank c = false ∧ isDropped c = false := by
  constructor
  · intro h
    exact ⟨h.ne_empty, fun c hc => ⟨h.not_blank c hc,
      isDropped_eq_false_iff.mpr ⟨h.not_reserved c hc, h.not_control c hc⟩⟩⟩
  · rintro ⟨hne, h⟩
    exact ⟨hne, fun c hc => (h c hc).1, fun c hc => (isDropped_eq_false_iff.mp (h c hc).2).2,
      fun c hc => (isDropped_eq_false_iff.mp (h c hc).2).1⟩

instance (name : String) : Decidable (IsUsable name) :=
  decidable_of_iff (name ≠ "" ∧ name.toList.all (fun c => !isBlank c && !isDropped c) = true) <| by
    simp [isUsable_iff]

/-- A usable name goes on with usable characters. -/
theorem IsUsable.append {name more : String} (h : IsUsable name)
    (hmore : ∀ c ∈ more.toList, isBlank c = false ∧ isDropped c = false) :
    IsUsable (name ++ more) := by
  rw [isUsable_iff] at h ⊢
  constructor
  · intro hempty
    exact h.1 (String.append_eq_empty_iff.mp hempty).1
  · intro c hc
    rw [String.toList_append, List.mem_append] at hc
    exact hc.elim (h.2 c) (hmore c)

/-- A usable name is one word, of which everything is kept. -/
theorem IsUsable.usableWords_eq {name : String} (h : IsUsable name) :
    usableWords name.toList = [name.toList] := by
  obtain ⟨hne, hchars⟩ := isUsable_iff.mp h
  have hkept : usable name.toList = name.toList := by
    refine List.filter_eq_self.mpr fun c hc => ?_
    rw [(hchars c hc).2, Bool.not_false]
  have hnil : name.toList ≠ [] := fun hnil => hne (String.toList_eq_nil_iff.mp hnil)
  rw [Service.usableWords_eq, pieces_of_not_cut h.not_blank, usableParts_cons, hkept, if_neg hnil]
  rfl

theorem IsUsable.safeName_eq_self {name : String} (h : IsUsable name) (fallback : String) :
    safeName name fallback = name := by
  have hjoined : ['_'].intercalate (usableWords name.toList) = name.toList := by
    rw [h.usableWords_eq, List.intercalate_singleton]
  rw [safeName_eq, hjoined, h.usableWords_eq, if_neg (List.cons_ne_nil _ _), String.ofList_toList]

/-- What is left of a word has neither white space nor dropped characters. -/
theorem not_blank_and_not_dropped_of_mem {name part : List Char} (h : part ∈ usableWords name)
    {c : Char} (hc : c ∈ part) : isBlank c = false ∧ isDropped c = false := by
  rw [usableWords_eq] at h
  obtain ⟨-, piece, hpiece, rfl⟩ := mem_usableParts h
  obtain ⟨hmem, hkept⟩ := List.mem_filter.mp hc
  exact ⟨(mem_and_not_cut_of_mem_pieces hpiece hmem).2, by simpa using hkept⟩

/-- A name of which something is left has a usable form. -/
theorem isUsable_safeName_of_ne_nil {name : String} (h : usableWords name.toList ≠ [])
    (fallback : String) : IsUsable (safeName name fallback) := by
  obtain ⟨word, words, hwords⟩ := List.exists_cons_of_ne_nil h
  have hkept : ∀ part ∈ word :: words, ∀ c ∈ part, isBlank c = false ∧ isDropped c = false :=
    fun part hpart c hc => not_blank_and_not_dropped_of_mem (hwords ▸ hpart) hc
  have hword : word ≠ [] := ne_nil_of_mem_usableWords (hwords ▸ List.mem_cons_self)
  rw [safeName_eq, if_neg h, hwords, intercalate_cons, isUsable_iff, String.toList_ofList]
  refine ⟨by simp [hword], fun c hc => ?_⟩
  rcases List.mem_append.mp hc with hc | hc
  · exact hkept word List.mem_cons_self c hc
  · obtain ⟨part, hpart, hc⟩ := List.mem_flatMap.mp hc
    rcases List.mem_cons.mp hc with rfl | hc
    · decide
    · exact hkept part (List.mem_cons_of_mem _ hpart) c hc

/-- With a usable fallback every name has a usable form. -/
theorem isUsable_safeName (name : String) {fallback : String} (h : IsUsable fallback) :
    IsUsable (safeName name fallback) := by
  by_cases hwords : usableWords name.toList = []
  · rwa [safeName_eq, if_pos hwords]
  · exact isUsable_safeName_of_ne_nil hwords fallback

/-- Only the fallback can be unusable. -/
theorem isUsable_safeName_of_ne_fallback {name fallback : String}
    (h : safeName name fallback ≠ fallback) : IsUsable (safeName name fallback) := by
  refine isUsable_safeName_of_ne_nil (fun hwords => h ?_) fallback
  rw [safeName_eq, if_pos hwords]

end IrcGateway.Service
