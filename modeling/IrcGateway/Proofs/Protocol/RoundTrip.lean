import IrcGateway.Proofs.Protocol.Reading

/-!
# Writing a message and reading it back

`Message.WellFormed` says which messages come back as they were written: those whose parts are free
of what ends them, and whose last parameter does not end in what a reader drops at the end of a line
(`round_trip_iff_wellFormed`).

The message is written part by part and read part by part, and each part is read up to the space
behind it (`readLine_append`, `readParams_words`). Only the last parameter has nothing behind it. It
comes back without the carriage returns and line feeds at its end, or not at all if nothing else was
in it (`parse_format_of_params`). That is what is written of any readable message, so that the
converse needs no second look at the reader: a message that comes back was read, hence is readable,
and has then lost nothing of its last parameter.
-/

namespace IrcGateway.Text

theorem pieces_of_not_cut {cut : Char → Bool} {cs : List Char} (h : ∀ c ∈ cs, cut c = false) :
    pieces cut cs = [cs] := by
  induction cs with
  | nil => rfl
  | cons c cs ih =>
    obtain ⟨hc, hcs⟩ := List.forall_mem_cons.mp h
    simp [pieces, hc, ih hcs]

theorem pieces_append {cut : Char → Bool} {before : List Char} {sep : Char} (after : List Char)
    (h : ∀ c ∈ before, cut c = false) (hsep : cut sep = true) :
    pieces cut (before ++ sep :: after) = before :: pieces cut after := by
  induction before with
  | nil => simp [pieces, hsep]
  | cons c cs ih =>
    obtain ⟨hc, hcs⟩ := List.forall_mem_cons.mp h
    simp [pieces, hc, ih hcs]

/-- Pieces that are joined by a separator and hold none come back. -/
theorem pieces_intercalate {cut : Char → Bool} {sep : Char} (hsep : cut sep = true)
    {ps : List (List Char)} (hne : ps ≠ []) (h : ∀ p ∈ ps, ∀ c ∈ p, cut c = false) :
    pieces cut ([sep].intercalate ps) = ps := by
  induction ps with
  | nil => exact absurd rfl hne
  | cons p ps ih =>
    obtain ⟨hp, hps⟩ := List.forall_mem_cons.mp h
    cases ps with
    | nil => rw [List.intercalate_singleton, pieces_of_not_cut hp]
    | cons q qs =>
      rw [List.intercalate_cons_cons, List.append_assoc, List.singleton_append,
        pieces_append _ hp hsep, ih (List.cons_ne_nil q qs) hps]

end IrcGateway.Text

namespace IrcGateway.Protocol

open IrcGateway.Text

/-! ### Tags, source and command -/

theorem tagText_toList (t : Tag) :
    t.text.toList
      = t.key.toList ++ (match t.value with | some v => '=' :: v.toList | none => []) := by
  unfold Tag.text
  cases t.value <;> simp

/-- The text of a tag stays in one piece, and is not empty. -/
theorem Tag.WellFormed.text {t : Tag} (h : t.WellFormed) :
    t.text.toList ≠ [] ∧ ∀ c ∈ t.text.toList, c ≠ ' ' ∧ c ≠ ';' := by
  rw [tagText_toList]
  constructor
  · cases hv : t.value with
    | some v => simp
    | none => simpa using h.key_ne hv
  · intro c hc
    rcases List.mem_append.mp hc with hkey | hvalue
    · exact ⟨(h.key c hkey).1, (h.key c hkey).2.1⟩
    · cases hv : t.value with
      | none => simp [hv] at hvalue
      | some v =>
        rw [hv] at hvalue
        rcases List.mem_cons.mp hvalue with rfl | hmem
        · decide
        · exact h.value v hv c hmem

/-- The tags of one word. -/
def tagsWord (tags : List Tag) : List Char :=
  [';'].intercalate (tags.map fun t => t.text.toList)

theorem readTags_tagsWord {tags : List Tag} (hne : tags ≠ []) (h : ∀ t ∈ tags, t.WellFormed) :
    readTags (tagsWord tags) = tags := by
  have hpieces : pieces (· == ';') (tagsWord tags) = tags.map fun t => t.text.toList := by
    refine @pieces_intercalate (· == ';') ';' rfl _ (mt List.map_eq_nil_iff.mp hne) ?_
    intro p hp c hc
    obtain ⟨t, ht, rfl⟩ := List.mem_map.mp hp
    simpa using ((h t ht).text.2 c hc).2
  have hall : ∀ p ∈ tags.map fun t => t.text.toList, (!p.isEmpty) = true := by
    intro p hp
    obtain ⟨t, ht, rfl⟩ := List.mem_map.mp hp
    simpa using (h t ht).text.1
  unfold readTags
  rw [hpieces, List.filter_eq_self.mpr hall, List.map_map]
  -- tag by tag: the key ends at the first equals sign
  conv => rhs; rw [← List.map_id tags]
  refine List.map_congr_left fun t ht => ?_
  have hkey : '=' ∉ t.key.toList := fun hmem => ((h t ht).key '=' hmem).2.2 rfl
  obtain ⟨key, value⟩ := t
  simp only [Function.comp_apply, tagText_toList, id_eq]
  cases value with
  | some v => simp [splitAtFirst_append _ hkey]
  | none => simp [splitAtFirst_eq_none_iff.mpr hkey]

theorem space_notMem_tagsWord {tags : List Tag} (h : ∀ t ∈ tags, t.WellFormed) :
    ' ' ∉ tagsWord tags := by
  unfold tagsWord
  induction tags with
  | nil => simp
  | cons t tags ih =>
    obtain ⟨ht, htags⟩ := List.forall_mem_cons.mp h
    have hfirst : ' ' ∉ t.text.toList := fun hmem => (ht.text.2 ' ' hmem).1 rfl
    cases tags with
    | nil => simpa using hfirst
    | cons u us =>
      rw [List.map_cons, List.map_cons, List.intercalate_cons_cons]
      have hrest := ih htags
      rw [List.map_cons] at hrest
      simp [hfirst, hrest]

/-- Tags as they open a line. -/
def tagsChars (tags : List Tag) : List Char :=
  if tags = [] then [] else '@' :: (tagsWord tags ++ [' '])

/-- A source as it stands before the command. -/
def sourceChars : Option String → List Char
  | some s => ':' :: (s.toList ++ [' '])
  | none => []

theorem format_toList (m : Message) :
    m.format.toList = tagsChars m.tags ++ sourceChars m.source ++ m.command.toList
      ++ (paramsText m.params).toList := by
  unfold Message.format tagsChars tagsWord sourceChars
  cases m.source <;> cases m.tags <;> simp [Function.comp_def]

variable {m : Message}

/-- A command begins with neither an at sign nor a colon, nor with white space. -/
theorem Message.Readable.exists_command (h : m.Readable) :
    ∃ c cs, m.command.toList = c :: cs ∧ c ≠ '@' ∧ c ≠ ':' ∧ isBlank c = false := by
  obtain ⟨c, cs, hcommand⟩ := List.exists_cons_of_ne_nil
    (fun hnil => h.command_ne (String.toList_eq_nil_iff.mp hnil))
  refine ⟨c, cs, hcommand, ?_⟩
  have hc := h.command c (by simp [hcommand])
  -- a digit or a capital is none of the characters that mean something else
  have hbound : 48 ≤ c.toNat ∧ c.toNat ≤ 57 ∨ 65 ≤ c.toNat ∧ c.toNat ≤ 90 := by
    rw [isUpper_iff, Char.isDigit_iff_toNat] at hc
    exact hc.symm
  refine ⟨?_, ?_, ?_⟩
  · rintro rfl
    exact absurd hbound (by decide)
  · rintro rfl
    exact absurd hbound (by decide)
  · simp only [isBlank, Bool.or_eq_false_iff, Bool.and_eq_false_iff, beq_eq_false_iff_ne,
      decide_eq_false_iff_not]
    omega

theorem Message.Readable.space_notMem_command (h : m.Readable) : ' ' ∉ m.command.toList := by
  intro hmem
  rcases h.command ' ' hmem with hc | hc <;> simp at hc

theorem Message.Readable.upper_command (h : m.Readable) : upper m.command = m.command := by
  unfold upper
  rw [List.map_congr_left fun c hc => toUpper_eq_self (h.command c hc), List.map_id',
    String.ofList_toList]

variable {rest : List Char}

theorem readCommand_append (h : m.Readable) (hrest : ∀ c, rest.head? = some c → c = ' ') :
    readCommand m.tags m.source (m.command.toList ++ rest)
      = .ok { m with params := readParams (rest.dropWhile (· == ' ')) } := by
  have hall : m.command.toList.all Char.isAlphanum = true := by
    refine List.all_eq_true.mpr fun c hc => ?_
    exact isAlphanum_iff.mpr ((h.command c hc).imp_left .inl)
  unfold readCommand
  rw [nextWord_append h.space_notMem_command hrest]
  simp only
  rw [if_neg (by simpa using h.command_ne), if_pos hall, String.ofList_toList, h.upper_command]

theorem readSource_append (h : m.Readable) (hrest : ∀ c, rest.head? = some c → c = ' ') :
    readSource m.tags (sourceChars m.source ++ m.command.toList ++ rest)
      = .ok { m with params := readParams (rest.dropWhile (· == ' ')) } := by
  obtain ⟨c, cs, hcommand, -, hcolon, hblank⟩ := h.exists_command
  have hread := readCommand_append h hrest
  unfold readSource
  cases hs : m.source with
  | none =>
    rw [hs, hcommand] at hread
    simpa [sourceChars, hcommand, hcolon] using hread
  | some s =>
    -- the spaces that are skipped behind the source end where the command begins
    have hspace : c ≠ ' ' := by
      rintro rfl
      simp [isBlank] at hblank
    have hword : nextWord (s.toList ++ ' ' :: (m.command.toList ++ rest))
        = (s.toList, m.command.toList ++ rest) := by
      rw [nextWord_append (h.source s hs) (by simp), hcommand]
      simp [hspace]
    rw [hs] at hread
    simpa [sourceChars, hword, List.append_assoc] using hread

/-- What follows the tags begins with neither an at sign nor white space. -/
theorem Message.Readable.exists_sourceChars (h : m.Readable) :
    ∃ c cs, sourceChars m.source ++ m.command.toList = c :: cs ∧ c ≠ '@' ∧ isBlank c = false := by
  cases hs : m.source with
  | none =>
    obtain ⟨c, cs, hcommand, hat, -, hblank⟩ := h.exists_command
    exact ⟨c, cs, hcommand, hat, hblank⟩
  | some s => exact ⟨':', _, rfl, by decide, by decide⟩

/-- Tags, source and command are read as they were written, parameters from what follows. -/
theorem readLine_append (h : m.Readable) (hrest : ∀ c, rest.head? = some c → c = ' ') :
    readLine (tagsChars m.tags ++ sourceChars m.source ++ m.command.toList ++ rest)
      = .ok { m with params := readParams (rest.dropWhile (· == ' ')) } := by
  have hread := readSource_append h hrest
  obtain ⟨c, cs, hbody, hat, hblank⟩ := h.exists_sourceChars
  rw [hbody, List.cons_append] at hread
  rw [List.append_assoc (tagsChars m.tags), hbody, List.append_assoc, List.cons_append]
  unfold tagsChars
  split
  · -- without tags the line begins with what is not taken for their mark
    next htags =>
    rw [htags] at hread ⊢
    unfold readLine
    split
    · next hnil => simp at hnil
    · next tagged hcons => exact absurd (List.cons.inj hcons).1 hat
    · exact hread
  · -- with tags they are the first word, and no second space is skipped behind it
    next htags =>
    have hspace : c ≠ ' ' := by
      rintro rfl
      simp [isBlank] at hblank
    have hword : nextWord (tagsWord m.tags ++ ' ' :: (c :: (cs ++ rest)))
        = (tagsWord m.tags, c :: (cs ++ rest)) := by
      rw [nextWord_append (space_notMem_tagsWord h.tags) (by simp)]
      simp [hspace]
    rw [List.cons_append, List.append_assoc, List.singleton_append]
    simp only [readLine, hword, readTags_tagsWord htags h.tags]
    exact hread

/-! ### Parameters -/

/-- Parameters before the last one, each after a space. -/
def wordsChars (words : List String) : List Char :=
  words.flatMap fun p => ' ' :: p.toList

/-- What stands before the last parameter, behind its space. -/
def markChars (last : String) : List Char :=
  if needsMark last then [':'] else []

theorem paramsText_concat (words : List String) (last : String) :
    (paramsText (words ++ [last])).toList
      = wordsChars words ++ ' ' :: (markChars last ++ last.toList) := by
  unfold wordsChars markChars
  induction words with
  | nil => cases hmark : needsMark last <;> simp [paramsText, hmark]
  | cons p words ih =>
    -- a further parameter follows in any case
    obtain ⟨q, qs, hcons⟩ := List.exists_cons_of_ne_nil (show words ++ [last] ≠ [] by simp)
    rw [List.cons_append, hcons, paramsText, ← hcons]
    simp [ih]

theorem needsMark_eq_false_iff {p : String} : needsMark p = false ↔ IsWord p := by
  constructor
  · intro h
    unfold needsMark at h
    split at h
    · simp at h
    · next c cs hp =>
      simp only [Bool.or_eq_false_iff, beq_eq_false_iff_ne] at h
      refine ⟨?_, ?_, ?_⟩
      · rintro rfl
        simp at hp
      · simpa [hp] using h.2
      · simpa [hp] using h.1
  · rintro ⟨hne, hspace, hcolon⟩
    unfold needsMark
    split
    · next hp => exact absurd (String.toList_eq_nil_iff.mp hp) hne
    · next c cs hp =>
      rw [hp] at hspace hcolon
      simpa using ⟨by simpa using hcolon, by simpa using hspace⟩

/-- A text that begins like a word is read as that word. -/
theorem readParams_append {word : List Char} (hne : word ≠ []) (hword : ' ' ∉ word)
    (hcolon : word.head? ≠ some ':') (hrest : ∀ c, rest.head? = some c → c = ' ') :
    readParams (word ++ rest)
      = String.ofList word :: readParams (rest.dropWhile (· == ' ')) := by
  obtain ⟨c, cs, rfl⟩ := List.exists_cons_of_ne_nil hne
  have hc : c ≠ ':' := fun h => hcolon (h ▸ rfl)
  rw [List.cons_append, readParams]
  · rw [← List.cons_append, nextWord_append hword hrest]
  · exact hc

/-- The words are read one by one, and the rest after them. -/
theorem readParams_words {words : List String} (h : ∀ p ∈ words, IsWord p)
    (hrest : ∀ c, rest.head? = some c → c = ' ') :
    readParams ((wordsChars words ++ rest).dropWhile (· == ' '))
      = words ++ readParams (rest.dropWhile (· == ' ')) := by
  induction words with
  | nil => rfl
  | cons p words ih =>
    obtain ⟨hp, hwords⟩ := List.forall_mem_cons.mp h
    -- behind a word stands a space, be it of the next word or of what follows all of them
    have hfollows : ∀ c, (wordsChars words ++ rest).head? = some c → c = ' ' := by
      intro c hc
      cases words with
      | nil => exact hrest c hc
      | cons q qs => exact (Option.some.inj hc).symm
    have hdrop : (wordsChars (p :: words) ++ rest).dropWhile (· == ' ')
        = p.toList ++ (wordsChars words ++ rest) := by
      obtain ⟨c, cs, hcons⟩ := List.exists_cons_of_ne_nil
        (fun hnil => hp.ne (String.toList_eq_nil_iff.mp hnil))
      have hspace : c ≠ ' ' := fun heq => hp.space (by simp [hcons, heq])
      simp [wordsChars, hcons, hspace]
    rw [hdrop, readParams_append (by simpa using hp.ne) hp.space hp.colon hfollows, ih hwords,
      String.ofList_toList, List.cons_append]

/-! ### The end of the line -/

/-- A character that does not count at the end of a line. -/
def endsLine (c : Char) : Bool :=
  c == '\r' || c == '\n'

theorem endsLine_eq_false_iff {c : Char} : endsLine c = false ↔ c ≠ '\r' ∧ c ≠ '\n' := by
  simp [endsLine]

/-- Nothing is dropped before a character that counts. -/
theorem dropLineEnd_append {c : Char} (hc : endsLine c = false) (front back : List Char) :
    dropLineEnd (front ++ c :: back) = front ++ c :: dropLineEnd back := by
  change List.rdropWhile endsLine _ = front ++ c :: List.rdropWhile endsLine _
  unfold List.rdropWhile
  rw [List.reverse_append, List.reverse_cons, List.append_assoc, List.dropWhile_append]
  split
  · next hnil =>
    rw [List.isEmpty_iff] at hnil
    simp [hnil, hc]
  · simp

/-- Of what does not count all is dropped. -/
theorem dropLineEnd_append_of_forall {back : List Char} (h : ∀ c ∈ back, endsLine c = true)
    (front : List Char) : dropLineEnd (front ++ back) = dropLineEnd front := by
  change List.rdropWhile endsLine _ = List.rdropWhile endsLine _
  unfold List.rdropWhile
  rw [List.reverse_append, List.dropWhile_append_of_pos]
  intro c hc
  exact h c (List.mem_reverse.mp hc)

theorem dropLineEnd_eq_self_iff {cs : List Char} :
    dropLineEnd cs = cs ↔ ∀ c, cs.getLast? = some c → endsLine c = false := by
  change List.rdropWhile endsLine cs = cs ↔ _
  rw [List.rdropWhile_eq_self_iff]
  constructor
  · intro h c hc
    obtain ⟨front, rfl⟩ := List.getLast?_eq_some_iff.mp hc
    simpa using h (by simp)
  · intro h hne
    simpa using h _ (List.getLast?_eq_some_getLast hne)

/-- A message begins with something that counts. -/
theorem trimStart_format (h : m.Readable) (rest : List Char) :
    trimStart (tagsChars m.tags ++ sourceChars m.source ++ m.command.toList ++ rest)
      = tagsChars m.tags ++ sourceChars m.source ++ m.command.toList ++ rest := by
  obtain ⟨c, cs, hbody, -, hblank⟩ := h.exists_sourceChars
  rw [List.append_assoc (tagsChars m.tags), hbody]
  unfold trimStart tagsChars
  split
  · simp [hblank]
  · simp [show isBlank '@' = false from rfl]

/-- A readable message without parameters comes back as it is. -/
theorem parse_format_of_nil (h : m.Readable) (hp : m.params = []) :
    Message.parse m.format = .ok m := by
  have hend : dropLineEnd m.format.toList = m.format.toList := by
    refine dropLineEnd_eq_self_iff.mpr fun c hc => ?_
    -- the line ends with the command
    rw [format_toList, hp, paramsText, String.toList_empty, List.append_nil,
      List.getLast?_append_of_ne_nil _ (by simpa using h.command_ne)] at hc
    have hcommand := h.command c (List.mem_of_getLast? hc)
    unfold endsLine
    rw [Bool.or_eq_false_iff, beq_eq_false_iff_ne, beq_eq_false_iff_ne]
    constructor <;> rintro rfl <;> simp at hcommand
  have hnothing : ∀ c, ([] : List Char).head? = some c → c = ' ' := by simp
  have hread := readLine_append h hnothing
  rw [List.dropWhile_nil, readParams, ← hp] at hread
  unfold Message.parse
  rwa [hend, format_toList, trimStart_format h, hp]

/-- What is read back of the last parameter. -/
def lastRead (last : String) : List String :=
  if needsMark last = false ∧ dropLineEnd last.toList = [] then []
  else [String.ofList (dropLineEnd last.toList)]

theorem lastRead_eq_singleton_iff {last : String} :
    lastRead last = [last] ↔ ∀ c, last.toList.getLast? = some c → endsLine c = false := by
  rw [← dropLineEnd_eq_self_iff]
  unfold lastRead
  split
  · next hnone =>
    -- a parameter without a mark is not empty
    have hne := (needsMark_eq_false_iff.mp hnone.1).ne
    rw [hnone.2]
    exact ⟨fun h => by simp at h, fun h => absurd (String.toList_eq_nil_iff.mp h.symm) hne⟩
  · rw [List.singleton_inj, ← String.toList_inj, String.toList_ofList]

theorem readParams_last (last : String) :
    readParams ((' ' :: (markChars last ++ dropLineEnd last.toList)).dropWhile (· == ' '))
      = lastRead last := by
  unfold markChars lastRead
  cases hmark : needsMark last with
  | true => simp [readParams]
  | false =>
    have hword := needsMark_eq_false_iff.mp hmark
    -- what is left of a word is how it begins
    have hbegins : dropLineEnd last.toList <+: last.toList := List.rdropWhile_prefix _ _
    cases hleft : dropLineEnd last.toList with
    | nil => simp [readParams]
    | cons c cs =>
      rw [hleft] at hbegins
      have hspace : ' ' ∉ c :: cs := fun hmem => hword.space (hbegins.subset hmem)
      have hcolon : (c :: cs).head? ≠ some ':' := by
        obtain ⟨back, hback⟩ := hbegins
        have := hword.colon
        rwa [← hback] at this
      have hnothing : ∀ c, ([] : List Char).head? = some c → c = ' ' := by simp
      have hread := readParams_append (List.cons_ne_nil c cs) hspace hcolon hnothing
      have hc : c ≠ ' ' := fun heq => hspace (heq ▸ List.mem_cons_self)
      simpa [hc, readParams] using hread

/-- **What comes back.** Of a readable message all comes back but what a reader drops at the end of
the line. -/
theorem parse_format_of_params (h : m.Readable) {words : List String} {last : String}
    (hp : m.params = words ++ [last]) :
    Message.parse m.format = .ok { m with params := words ++ lastRead last } := by
  have hwords : ∀ p ∈ words, IsWord p := by
    have := h.words
    rwa [hp, List.dropLast_concat] at this
  -- the line is cut behind the space of the last parameter, or behind its mark
  have hend : dropLineEnd m.format.toList
      = tagsChars m.tags ++ sourceChars m.source ++ m.command.toList
        ++ (wordsChars words ++ ' ' :: (markChars last ++ dropLineEnd last.toList)) := by
    rw [format_toList, hp, paramsText_concat, ← List.append_assoc, ← List.append_assoc]
    unfold markChars
    cases needsMark last with
    | false => exact dropLineEnd_append (c := ' ') (by decide) _ _
    | true =>
      have := dropLineEnd_append (c := ':') (by decide) (tagsChars m.tags ++ sourceChars m.source
        ++ m.command.toList ++ wordsChars words ++ [' ']) last.toList
      simpa using this
  -- behind the command and behind each word stands a space
  have hlast : ∀ c, (' ' :: (markChars last ++ dropLineEnd last.toList)).head? = some c → c = ' ' :=
    fun c hc => (Option.some.inj hc).symm
  have hrest : ∀ c, (wordsChars words
      ++ ' ' :: (markChars last ++ dropLineEnd last.toList)).head? = some c → c = ' ' := by
    intro c hc
    cases words with
    | nil => exact hlast c hc
    | cons p ps => exact (Option.some.inj hc).symm
  unfold Message.parse
  rw [hend, trimStart_format h, readLine_append h hrest, readParams_words hwords hlast,
    readParams_last]

/-! ### Messages that come back -/

/-- A message that comes back as it was written. -/
structure Message.WellFormed (m : Message) : Prop extends m.Readable where
  /-- The last parameter does not end in what a reader drops. -/
  ending : ∀ p, m.params.getLast? = some p → ∀ c, p.toList.getLast? = some c → c ≠ '\r' ∧ c ≠ '\n'

/-- Of a readable message nothing is lost exactly if nothing of its last parameter is. -/
theorem Message.Readable.parse_format_iff (h : m.Readable) :
    Message.parse m.format = .ok m ↔ ∀ p, m.params.getLast? = some p →
      ∀ c, p.toList.getLast? = some c → c ≠ '\r' ∧ c ≠ '\n' := by
  rcases List.eq_nil_or_concat m.params with hp | ⟨words, last, hp⟩
  · simp [parse_format_of_nil h hp, hp]
  · rw [List.concat_eq_append] at hp
    have heq : { m with params := words ++ lastRead last } = m ↔ lastRead last = [last] := by
      rw [← List.append_right_inj words, ← hp]
      constructor
      · intro hm
        exact congrArg Message.params hm
      · intro hm
        rw [hm]
    simp only [parse_format_of_params h hp, Except.ok.injEq, heq, lastRead_eq_singleton_iff, hp,
      List.getLast?_concat, Option.some.injEq, forall_eq', endsLine_eq_false_iff]

/-- **The round trip.** A message that is written and read comes back exactly if it is well formed.
In particular every message comes back that was read from a line with carriage returns and line
feeds at its end alone. -/
theorem round_trip_iff_wellFormed :
    (∀ m : Message, Message.parse m.format = .ok m ↔ m.WellFormed) ∧
      ∀ (body ending : String) (m : Message), (∀ c ∈ body.toList, c ≠ '\r' ∧ c ≠ '\n') →
        (∀ c ∈ ending.toList, c = '\r' ∨ c = '\n') → Message.parse (body ++ ending) = .ok m →
        Message.parse m.format = .ok m := by
  constructor
  · intro m
    constructor
    · intro hread
      -- what comes back was read
      have h := readable_of_parse hread
      exact ⟨h, h.parse_format_iff.mp hread⟩
    · rintro ⟨h, hending⟩
      exact h.parse_format_iff.mpr hending
  · intro body ending m hbody hending hread
    refine (readable_of_parse hread).parse_format_iff.mpr fun p hp c hc => hbody c ?_
    -- the last parameter was read from the line before its end
    have hsub := mem_dropLineEnd_of_parse hread (List.mem_of_getLast? hp)
    have hends : ∀ c ∈ ending.toList, endsLine c = true := by simpa [endsLine] using hending
    rw [String.toList_append, dropLineEnd_append_of_forall hends] at hsub
    exact (List.rdropWhile_prefix _ _).subset (hsub (List.mem_of_getLast? hc))

/-- A line with spaces to spare, a command in small letters and a marked last parameter. -/
theorem hello_there_comes_back :
    let m : Message :=
      { source := some "bob", command := "PRIVMSG", params := ["#test", "hello  there"] }
    Message.parse (" :bob  privmsg   #test   :hello  there" ++ "\r\n") = .ok m ∧
      Message.parse m.format = .ok m ∧ m.format = ":bob PRIVMSG #test :hello  there" := by
  intro m
  have hread : Message.parse (" :bob  privmsg   #test   :hello  there" ++ "\r\n") = .ok m := by
    decide +kernel
  have hbody : (" :bob  privmsg   #test   :hello  there".toList.all fun c => c ≠ '\r' ∧ c ≠ '\n')
      = true := by decide
  have hending : ("\r\n".toList.all fun c => c = '\r' ∨ c = '\n') = true := by decide
  rw [List.all_eq_true] at hbody hending
  simp only [decide_eq_true_eq] at hbody hending
  exact ⟨hread, round_trip_iff_wellFormed.2 _ _ m hbody hending hread, by decide⟩

end IrcGateway.Protocol
