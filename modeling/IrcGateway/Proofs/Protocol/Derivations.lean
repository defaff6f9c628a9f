import IrcGateway.Proofs.Protocol.Grammar

/-!
# The grammar of lines

A line is read as `["@" tags spaces] [":" source spaces] command {spaces param} [spaces ":" text]`,
and spaces may follow. A `Derivation` is a tree of this grammar, and its message is what the line
says. Texts without a derivation fall into three kinds, one for each error; `Derives` names all four
kinds, and the reader finds what it names (`readLine_eq_iff`).

Before that the line loses the carriage returns and line feeds at its end, and then the white space
at its start (`Trims`). So what a line is read as is settled by its one derivation, if it has one
(`parse_accepts_its_grammar`).
-/

namespace IrcGateway.Protocol

open IrcGateway.Text

/-! ### Derivations -/

/-- A line as the grammar derives it. -/
structure Derivation where
  opening : Opening := {}
  command : String
  tail : Tail := .stop 0

namespace Derivation

def text (d : Derivation) : List Char :=
  d.opening.text ++ (d.command.toList ++ d.tail.text)

/-- What the line says. -/
def message (d : Derivation) : Message :=
  { tags := d.opening.tagList
    source := d.opening.sourceName
    command := upper d.command
    params := d.tail.params }

/-- The parts are of the form that the grammar asks for. -/
structure Valid (d : Derivation) : Prop where
  tags : ∀ ps gap, d.opening.tags = some (ps, gap) → ValidPieces ps ∧ 0 < gap
  source : ∀ name gap, d.opening.source = some (name, gap) → ' ' ∉ name.toList ∧ 0 < gap
  command_ne : d.command ≠ ""
  command : ∀ c ∈ d.command.toList, c.isAlphanum = true
  tail : d.tail.Valid

variable {d d' : Derivation}

theorem Valid.exists_command (h : d.Valid) :
    ∃ c cs, d.command.toList = c :: cs ∧ c ≠ '@' ∧ c ≠ ':' ∧ c ≠ ' ' := by
  obtain ⟨c, cs, hcommand⟩ := List.exists_cons_of_ne_nil
    (fun hnil => h.command_ne (String.toList_eq_nil_iff.mp hnil))
  have hc := h.command c (by simp [hcommand])
  refine ⟨c, cs, hcommand, ?_, ?_, ?_⟩ <;> rintro rfl <;> exact absurd hc (by decide)

theorem Valid.space_notMem_command (h : d.Valid) : ' ' ∉ d.command.toList :=
  fun hmem => absurd (h.command ' ' hmem) (by decide)

/-- The command marks where the opening ends. -/
theorem Valid.before (h : d.Valid) : d.opening.Before (d.command.toList ++ d.tail.text) := by
  obtain ⟨c, cs, hcommand, hat, hcolon, hspace⟩ := h.exists_command
  have hhead : (d.command.toList ++ d.tail.text).head? = some c := by rw [hcommand]; rfl
  refine ⟨?_, ?_, ?_, ?_, ?_⟩
  · -- a space stands behind the tags, so that they need not end the line
    intro ps gap ht
    obtain ⟨hps, hgap⟩ := h.tags ps gap ht
    exact ⟨hps, fun hzero => absurd hzero (Nat.pos_iff_ne_zero.mp hgap)⟩
  · -- without tags the line begins with its source or with its command
    rintro -
    unfold Opening.sourceText
    split
    · rw [List.nil_append, hhead]
      exact fun heq => hat (Option.some.inj heq)
    · simp
  · intro name gap hs
    obtain ⟨hname, hgap⟩ := h.source name gap hs
    exact ⟨hname, fun hzero => absurd hzero (Nat.pos_iff_ne_zero.mp hgap)⟩
  · rintro -
    rw [hhead]
    exact fun heq => hcolon (Option.some.inj heq)
  · rw [hhead]
    exact fun heq => hspace (Option.some.inj heq)

/-- **A derivation is read as its message.** -/
theorem Valid.readLine (h : d.Valid) : readLine d.text = .ok d.message := by
  obtain ⟨c, cs, hcommand, -⟩ := h.exists_command
  have hne : d.opening.text ++ (d.command.toList ++ d.tail.text) ≠ [] := by simp [hcommand]
  rw [text, h.before.readLine hne]
  unfold readCommand
  rw [(Tail.cut h.tail h.space_notMem_command).nextWord]
  simp only
  rw [if_neg (by simp [hcommand]), if_pos (List.all_eq_true.mpr h.command), String.ofList_toList,
    Tail.readParams_body h.tail]
  rfl

/-- **No text has two derivations.** -/
theorem Valid.eq_of_text_eq (h : d.Valid) (h' : d'.Valid) (heq : d.text = d'.text) : d = d' := by
  obtain ⟨hopening, hrest⟩ := Opening.eq_of_text_append_eq h.before h'.before heq
  -- behind the opening both texts are cut at the end of the same word
  have hcut := Tail.cut h.tail h.space_notMem_command
  rw [hrest] at hcut
  obtain ⟨hcommand, hgap, hbody⟩ := hcut.unique (Tail.cut h'.tail h'.space_notMem_command)
  have htail := Tail.eq_of_body_eq h.tail h'.tail hgap hbody
  obtain ⟨opening, command, tail⟩ := d
  obtain ⟨opening', command', tail'⟩ := d'
  obtain rfl : opening = opening' := hopening
  obtain rfl : command = command' := String.toList_inj.mp hcommand
  obtain rfl : tail = tail' := htail
  rfl

end Derivation

/-- What becomes of a text that does not begin with white space: it has a derivation, or there is
nothing, or no command follows what opens it, or the word in the command's place is none. -/
inductive Derives (body : List Char) : Except ParseError Message → Prop where
  | empty (heq : body = []) : Derives body (.error .empty)
  | missing {o : Opening} (h : o.Before []) (hne : body ≠ []) (heq : body = o.text) :
      Derives body (.error .missingCommand)
  | invalid {o : Opening} {word after : List Char} (h : o.Before (word ++ after))
      (hspace : ' ' ∉ word) (hafter : ∀ c, after.head? = some c → c = ' ')
      (hbad : ∃ c ∈ word, c.isAlphanum = false) (heq : body = o.text ++ (word ++ after)) :
      Derives body (.error (.invalidCommand (String.ofList word)))
  | message {d : Derivation} (h : d.Valid) (heq : body = d.text) : Derives body (.ok d.message)

/-- The reader finds what the grammar says. -/
theorem Derives.readLine {body : List Char} {result : Except ParseError Message}
    (h : Derives body result) : readLine body = result := by
  cases h with
  | empty heq => rw [heq, Protocol.readLine]
  | @missing o h hne heq =>
    rw [heq, ← List.append_nil o.text] at hne ⊢
    rw [h.readLine hne]
    rfl
  | @invalid o word after h hspace hafter hbad heq =>
    -- one wrong character makes the whole word no command
    obtain ⟨c, hc, halnum⟩ := hbad
    have hne : word ≠ [] := List.ne_nil_of_mem hc
    have hall : ¬ word.all Char.isAlphanum = true := by
      intro hall
      rw [List.all_eq_true.mp hall c hc] at halnum
      simp at halnum
    rw [heq, h.readLine (by simp [hne]), readCommand, nextWord_append hspace hafter]
    simp only
    rw [if_neg hne, if_neg hall]
  | message h heq => rw [heq, h.readLine]

/-- Of every text the grammar says something. -/
theorem exists_derives {body : List Char} (hbody : body.head? ≠ some ' ') :
    ∃ result, Derives body result := by
  obtain ⟨o, rest, hbefore, rfl⟩ := Opening.exists_before hbody
  -- what follows the opening is nothing, or its first word is a command, or it is none
  by_cases hnil : rest = []
  · subst hnil
    by_cases hempty : o.text = []
    · exact ⟨_, .empty (by rw [hempty, List.append_nil])⟩
    · exact ⟨_, .missing hbefore (by simpa using hempty) (List.append_nil _)⟩
  · obtain ⟨c, cs, rfl⟩ := List.exists_cons_of_ne_nil hnil
    obtain ⟨gap, hcut⟩ := exists_cut (c :: cs)
    have hhead : (nextWord (c :: cs)).1.head? = some c :=
      head?_nextWord fun hspace => hbefore.space (hspace ▸ rfl)
    by_cases halnum : ∀ b ∈ (nextWord (c :: cs)).1, b.isAlphanum = true
    · obtain ⟨tail, htail, rfl, hbody⟩ := Tail.exists_of_body hcut.head hcut.last
      -- a command follows, so that there are spaces behind tags and source
      let d : Derivation := ⟨o, String.ofList (nextWord (c :: cs)).1, tail⟩
      have hrest : d.command.toList ++ d.tail.text = c :: cs := by
        rw [String.toList_ofList, tail.text_eq, hbody]
        exact hcut.eq.symm
      have hd : d.Valid := by
        refine ⟨?_, ?_, ?_, ?_, htail⟩
        · intro ps gap ht
          obtain ⟨hps, hgap⟩ := hbefore.tags ps gap ht
          exact ⟨hps, Nat.pos_of_ne_zero fun hzero => by simpa using hgap hzero⟩
        · intro name gap hs
          obtain ⟨hname, hgap⟩ := hbefore.source name gap hs
          exact ⟨hname, Nat.pos_of_ne_zero fun hzero => by simpa using hgap hzero⟩
        · intro hempty
          rw [String.ofList_eq_empty_iff] at hempty
          simp [hempty] at hhead
        · rw [String.toList_ofList]
          exact halnum
      exact ⟨_, .message hd (congrArg (o.text ++ ·) hrest.symm)⟩
    · simp only [not_forall, Bool.not_eq_true] at halnum
      obtain ⟨bad, hbad, hnot⟩ := halnum
      have heq := hcut.eq
      refine ⟨_, .invalid (o := o) (heq ▸ hbefore) hcut.free (head?_spaces_append hcut.last)
        ⟨bad, hbad, hnot⟩ (by rw [← heq])⟩

/-- **The reader finds exactly what the grammar says.** -/
theorem readLine_eq_iff {body : List Char} (hbody : body.head? ≠ some ' ')
    {result : Except ParseError Message} : readLine body = result ↔ Derives body result := by
  constructor
  · rintro rfl
    obtain ⟨result, hderives⟩ := exists_derives hbody
    rwa [hderives.readLine]
  · exact Derives.readLine

/-! ### The ends of a line -/

/-- The carriage returns and line feeds at the end of a line are taken off it, and then the white
space at its start. -/
structure Trims (line lead body ending : List Char) : Prop where
  eq : line = lead ++ body ++ ending
  ending : ∀ c ∈ ending, c = '\r' ∨ c = '\n'
  /-- All of them are taken off. -/
  last : ∀ c, (lead ++ body).getLast? = some c → c ≠ '\r' ∧ c ≠ '\n'
  lead : ∀ c ∈ lead, isBlank c = true
  /-- All of it is taken off. -/
  first : ∀ c, body.head? = some c → isBlank c = false

theorem exists_trims (line : List Char) :
    ∃ lead ending, Trims line lead (trimStart (dropLineEnd line)) ending := by
  -- the white space at the start is what trimming drops
  have hfront : (dropLineEnd line).takeWhile isBlank ++ trimStart (dropLineEnd line)
      = dropLineEnd line := List.takeWhile_append_dropWhile
  refine ⟨(dropLineEnd line).takeWhile isBlank, line.rtakeWhile endsLine, ?_, ?_, ?_, ?_, ?_⟩
  · rw [hfront]
    exact (List.rdropWhile_append_rtakeWhile (p := endsLine)).symm
  · intro c hc
    simpa [endsLine] using List.mem_rtakeWhile_imp hc
  · intro c hc
    rw [hfront] at hc
    have hdropped : dropLineEnd (dropLineEnd line) = dropLineEnd line :=
      List.rdropWhile_idempotent endsLine line
    exact endsLine_eq_false_iff.mp (dropLineEnd_eq_self_iff.mp hdropped c hc)
  · intro c hc
    exact List.mem_takeWhile_imp hc
  · intro c hc
    have hnot := List.head?_dropWhile_not isBlank (dropLineEnd line)
    rw [← trimStart, hc] at hnot
    exact hnot

variable {line lead lead' body body' ending ending' : List Char}

/-- Without its end a line is what the reader takes it for. -/
theorem Trims.dropLineEnd_eq (h : Trims line lead body ending) :
    dropLineEnd line = lead ++ body := by
  have hending : ∀ c ∈ ending, endsLine c = true := by
    intro c hc
    simpa [endsLine] using h.ending c hc
  rw [h.eq, dropLineEnd_append_of_forall hending, dropLineEnd_eq_self_iff]
  intro c hc
  exact endsLine_eq_false_iff.mpr (h.last c hc)

theorem Trims.trimStart_eq (h : Trims line lead body ending) :
    trimStart (dropLineEnd line) = body := by
  rw [h.dropLineEnd_eq, trimStart, List.dropWhile_append_of_pos h.lead]
  cases body with
  | nil => rfl
  | cons c cs => exact List.dropWhile_cons_of_neg (by simp [h.first c rfl])

/-- There is one way to trim a line. -/
theorem Trims.unique (h : Trims line lead body ending) (h' : Trims line lead' body' ending') :
    lead' = lead ∧ body' = body ∧ ending' = ending := by
  -- the reader drops one end and then the other, and so fixes all three parts
  obtain rfl : body' = body := h'.trimStart_eq.symm.trans h.trimStart_eq
  have hfront : lead' ++ body' = lead ++ body' := h'.dropLineEnd_eq.symm.trans h.dropLineEnd_eq
  obtain rfl := List.append_cancel_right hfront
  exact ⟨rfl, rfl, List.append_cancel_left (h'.eq.symm.trans h.eq)⟩

/-! ### Reading a line -/

/-- **The grammar of lines.** Take the carriage returns and line feeds at the end of a line off it,
and then the white space at its start; there is one way to do so. Of what is left:

* it is read as a message exactly if it has a derivation of which this is the message, and it has
  only one;
* the line counts as empty exactly if nothing but white space was left before the second step;
* a command is missing exactly if there are tags or a source and nothing follows;
* a command is invalid exactly if what follows the tags and the source begins with a word in which
  there is something other than ASCII letters and digits, and then the error holds that word. -/
theorem parse_accepts_its_grammar (line : String) :
    ∃ lead body ending : List Char, Trims line.toList lead body ending ∧
      (∀ lead' body' ending', Trims line.toList lead' body' ending' →
        lead' = lead ∧ body' = body ∧ ending' = ending) ∧
      (∀ m, Message.parse line = .ok m ↔
        ∃ d : Derivation, d.Valid ∧ d.text = body ∧ d.message = m) ∧
      (∀ d d' : Derivation, d.Valid → d'.Valid → d.text = body → d'.text = body → d = d') ∧
      (Message.parse line = .error .empty ↔ ∀ c ∈ lead ++ body, isBlank c = true) ∧
      (Message.parse line = .error .missingCommand ↔
        body ≠ [] ∧ ∃ o : Opening, o.Before [] ∧ o.text = body) ∧
      (∀ word, Message.parse line = .error (.invalidCommand word) ↔
        ∃ (o : Opening) (after : List Char), o.Before (word.toList ++ after) ∧
          ' ' ∉ word.toList ∧ (∀ c, after.head? = some c → c = ' ') ∧
          (∃ c ∈ word.toList, c.isAlphanum = false) ∧
          o.text ++ (word.toList ++ after) = body) := by
  obtain ⟨lead, ending, htrims⟩ := exists_trims line.toList
  have hspace : (trimStart (dropLineEnd line.toList)).head? ≠ some ' ' := by
    intro hc
    exact absurd (htrims.first ' ' hc) (by decide)
  -- no space stands before the body, so that reading it is deriving it
  have hderives : ∀ result, Message.parse line = result ↔
      Derives (trimStart (dropLineEnd line.toList)) result := fun _ => readLine_eq_iff hspace
  -- each outcome belongs to one constructor of `Derives`
  refine ⟨lead, _, ending, htrims, fun _ _ _ h => htrims.unique h, ?_, ?_, ?_, ?_, ?_⟩
  · intro m
    rw [hderives]
    constructor
    · intro h
      cases h with
      | message hd heq => exact ⟨_, hd, heq.symm, rfl⟩
    · rintro ⟨d, hd, heq, rfl⟩
      exact .message hd heq.symm
  · intro d d' hd hd' heq heq'
    exact hd.eq_of_text_eq hd' (heq.trans heq'.symm)
  · rw [hderives, ← htrims.dropLineEnd_eq, ← trimStart_eq_nil_iff]
    constructor
    · intro h
      cases h with
      | empty heq => exact heq
    · exact .empty
  · rw [hderives]
    constructor
    · intro h
      cases h with
      | missing h hne heq => exact ⟨hne, _, h, heq.symm⟩
    · rintro ⟨hne, o, h, heq⟩
      exact .missing h hne heq.symm
  · intro word
    rw [hderives]
    constructor
    · intro h
      cases h with
      | @invalid o word after h hfree hafter hbad heq =>
        refine ⟨o, after, ?_⟩
        rw [String.toList_ofList]
        exact ⟨h, hfree, hafter, hbad, heq.symm⟩
    · rintro ⟨o, after, h, hfree, hafter, hbad, heq⟩
      rw [← String.ofList_toList (s := word)]
      exact .invalid h hfree hafter hbad heq.symm

/-- A line with everything that a line can have, and the one way to derive it. -/
theorem derivation_of_full_line :
    let line := "\t@a=1;;b  :n cmd x  :y  z\r\n"
    let m : Message :=
      { tags := [⟨"a", some "1"⟩, ⟨"b", none⟩], source := some "n", command := "CMD"
        params := ["x", "y  z"] }
    Message.parse line = .ok m ∧
      ∃! d : Derivation, d.Valid ∧ d.text = "@a=1;;b  :n cmd x  :y  z".toList ∧ d.message = m := by
  intro line m
  have hparse : Message.parse line = .ok m := by decide +kernel
  obtain ⟨lead, body, ending, htrims, -, hok, honly, -⟩ := parse_accepts_its_grammar line
  have hbody : body = "@a=1;;b  :n cmd x  :y  z".toList :=
    htrims.trimStart_eq.symm.trans (by decide +kernel)
  obtain ⟨d, hd, htext, hmessage⟩ := (hok m).mp hparse
  rw [← hbody]
  refine ⟨hparse, d, ⟨hd, htext, hmessage⟩, fun d' hd' => ?_⟩
  exact honly d' d hd'.1 hd hd'.2.1 htext

example : Message.parse " \r\n" = .error .empty := by decide +kernel

example : Message.parse "@a :n  " = .error .missingCommand := by decide +kernel

example : Message.parse ":n PRIV-MSG x" = .error (.invalidCommand "PRIV-MSG") := by decide +kernel

end IrcGateway.Protocol
