import IrcGateway.Proofs.Protocol.Tagging
import IrcGateway.Protocol.Capabilities
import Mathlib.Data.List.Sort

/-!
# Capability tokens

Capabilities are asked for, kept and told as tokens: texts that are not empty and hold no white
space (`IsToken`). The words of any text are tokens, and tokens that are joined by spaces come back
as its words (`words_spaced`), also if there are none. A token stays one in lower case
(`IsToken.lower`), so that a client can take a list of capabilities apart again.

What is kept is in ascending order, hence determined by the tokens in it (`eq_of_mem_iff`): after
each request they are those that were there and those that were asked for (`mem_tokens_addAll`).

A line that tells capabilities marks its list with a colon even where nothing is in it, and is read
with that list (`Line.parse_capabilities`). A request is read with all its tokens in one parameter
or with each in its own, as it was written (`parse_request_together`, `parse_request_apart`).
-/

namespace IrcGateway.Text

/-! ### Words of a text -/

theorem isBlank_toLower (c : Char) : isBlank c.toLower = isBlank c := by
  unfold isBlank
  rw [toNat_toLower]
  split
  · next hcapital =>
    -- neither a capital nor a small letter is blank
    rw [Bool.eq_iff_iff]
    simp only [Bool.or_eq_true, Bool.and_eq_true, decide_eq_true_eq, beq_iff_eq]
    omega
  · rfl

/-- A text that is not empty and holds no white space. -/
structure IsToken (t : String) : Prop where
  ne : t ≠ ""
  bare : ∀ c ∈ t.toList, isBlank c = false

theorem isToken_iff {t : String} :
    IsToken t ↔ t ≠ "" ∧ (t.toList.all fun c => !isBlank c) = true := by
  rw [List.all_eq_true]
  simp only [Bool.not_eq_true']
  exact ⟨fun h => ⟨h.ne, h.bare⟩, fun h => ⟨h.1, h.2⟩⟩

instance (t : String) : Decidable (IsToken t) :=
  decidable_of_iff _ isToken_iff.symm

theorem isToken_of_mem_words {cs : List Char} {t : String}
    (ht : t ∈ (words cs).map String.ofList) : IsToken t := by
  obtain ⟨word, hword, rfl⟩ := List.mem_map.mp ht
  obtain ⟨hpiece, hne⟩ := List.mem_filter.mp hword
  refine ⟨fun hempty => ?_, fun c hc => ?_⟩
  · rw [String.ofList_eq_empty_iff] at hempty
    simp [hempty] at hne
  · rw [String.toList_ofList] at hc
    exact (mem_and_not_cut_of_mem_pieces hpiece hc).2

namespace IsToken

variable {t : String}

theorem toList_ne (h : IsToken t) : t.toList ≠ [] :=
  fun hnil => h.ne (String.toList_eq_nil_iff.mp hnil)

theorem lower (h : IsToken t) : IsToken (lower t) where
  ne := by simpa [Text.lower] using h.ne
  bare := by simpa [Text.lower, isBlank_toLower] using h.bare

/-- There is nothing to trim. -/
theorem trim_eq_self (h : IsToken t) : trim t.toList = t.toList := by
  have hkept : ∀ cs : List Char, (∀ c ∈ cs, isBlank c = false) → cs.dropWhile isBlank = cs := by
    intro cs hcs
    cases cs with
    | nil => rfl
    | cons c cs => exact List.dropWhile_cons_of_neg (by simp [hcs c List.mem_cons_self])
  have hback : t.toList.reverse.dropWhile isBlank = t.toList.reverse :=
    hkept _ fun c hc => h.bare c (List.mem_reverse.mp hc)
  rw [trim, trimStart, hkept _ h.bare, trimEnd, hback, List.reverse_reverse]

theorem oneLine (h : IsToken t) : OneLine t := by
  intro hlf
  simpa [isBlank] using h.bare _ hlf

theorem space (h : IsToken t) : ' ' ∉ t.toList := by
  intro hspace
  simpa [isBlank] using h.bare _ hspace

theorem append {more : String} (h : IsToken t) (hmore : IsToken more) : IsToken (t ++ more) := by
  refine ⟨fun hempty => h.ne (String.append_eq_empty_iff.mp hempty).1, fun c hc => ?_⟩
  rw [String.toList_append, List.mem_append] at hc
  exact hc.elim (h.bare c) (hmore.bare c)

end IsToken

/-- Texts that are joined by spaces hold nothing else. -/
theorem mem_spaced {ts : List String} {c : Char} (hc : c ∈ (" ".intercalate ts).toList) :
    c = ' ' ∨ ∃ t ∈ ts, c ∈ t.toList := by
  induction ts with
  | nil => simp at hc
  | cons t ts ih =>
    cases ts with
    | nil => exact .inr ⟨t, List.mem_cons_self, by simpa using hc⟩
    | cons u us =>
      rw [String.intercalate_cons_cons, String.toList_append, String.toList_append,
        List.mem_append, List.mem_append] at hc
      rcases hc with (hfirst | hspace) | hrest
      · exact .inr ⟨t, List.mem_cons_self, hfirst⟩
      · exact .inl (List.mem_singleton.mp hspace)
      · exact (ih hrest).imp_right fun ⟨x, hx, hmem⟩ => ⟨x, List.mem_cons_of_mem t hx, hmem⟩

/-- Texts that are joined by spaces come apart where they were joined, if no cut is made in them. -/
theorem pieces_spaced {cut : Char → Bool} (hspace : cut ' ' = true) {ts : List String}
    (hne : ts ≠ []) (h : ∀ t ∈ ts, ∀ c ∈ t.toList, cut c = false) :
    pieces cut (" ".intercalate ts).toList = ts.map String.toList := by
  rw [String.toList_intercalate]
  refine @pieces_intercalate cut ' ' hspace _ (mt List.map_eq_nil_iff.mp hne) fun p hp => ?_
  obtain ⟨t, ht, rfl⟩ := List.mem_map.mp hp
  exact h t ht

theorem map_ofList_toList (ts : List String) : (ts.map String.toList).map String.ofList = ts := by
  simp [Function.comp_def]

/-- **Tokens that are joined by spaces** are the words of the text. -/
theorem words_spaced {ts : List String} (h : ∀ t ∈ ts, IsToken t) :
    (words (" ".intercalate ts).toList).map String.ofList = ts := by
  rcases eq_or_ne ts [] with rfl | hne
  · rfl
  · have hall : ∀ p ∈ ts.map String.toList, (!p.isEmpty) = true := by
      intro p hp
      obtain ⟨t, ht, rfl⟩ := List.mem_map.mp hp
      simpa using (h t ht).ne
    rw [words, pieces_spaced rfl hne fun t ht => (h t ht).bare, List.filter_eq_self.mpr hall,
      map_ofList_toList]

end IrcGateway.Text

namespace IrcGateway.Protocol

open IrcGateway.Text

/-! ### The list that is kept -/

theorem insertToken_ascending {token : String} {ts : List String} (h : ts.Pairwise (· < ·)) :
    (insertToken token ts).Pairwise (· < ·) := by
  induction ts with
  | nil => exact List.pairwise_singleton _ _
  | cons t ts ih =>
    obtain ⟨hfirst, hrest⟩ := List.pairwise_cons.mp h
    rw [insertToken]
    split
    · next hlt =>
      refine List.pairwise_cons.mpr ⟨fun x hx => ?_, h⟩
      rcases List.mem_cons.mp hx with rfl | hx
      · exact hlt
      · exact String.lt_trans hlt (hfirst x hx)
    split
    · exact h
    · next hnot hne =>
      -- the token stands behind the first one, as it is neither smaller nor the same
      have hlt : t < token :=
        Decidable.byContradiction fun hge =>
          hne (String.le_antisymm (String.not_lt.mp hge) (String.not_lt.mp hnot))
      refine List.pairwise_cons.mpr ⟨fun x hx => ?_, ih hrest⟩
      rcases mem_insertToken.mp hx with rfl | hx
      · exact hlt
      · exact hfirst x hx

namespace Capabilities

variable {c c' : Capabilities} {ts : List String}

theorem tokens_add (hopen : c.negotiating = true) {t : String} (ht : IsToken t) :
    (c.add t).1 = { c with tokens := insertToken (lower t) c.tokens } := by
  have hkept : ¬ (c.negotiating = false ∨ trim t.toList = []) := by
    rw [ht.trim_eq_self]
    simpa [hopen] using ht.ne
  have hnormal : normal t = lower t := by
    rw [normal, ht.trim_eq_self, String.ofList_toList]
  rw [add, if_neg hkept, hnormal]

/-- Tokens are put among those that are there, in lower case. -/
theorem mem_tokens_addAll (hopen : c.negotiating = true) (hts : ∀ t ∈ ts, IsToken t) {x : String} :
    x ∈ (c.addAll ts).tokens ↔ x ∈ c.tokens ∨ x ∈ ts.map lower := by
  induction ts generalizing c with
  | nil => simp [addAll]
  | cons t ts ih =>
    obtain ⟨ht, hrest⟩ := List.forall_mem_cons.mp hts
    have hadd := tokens_add hopen ht
    have hnext : (c.add t).1.negotiating = true := by rw [hadd, hopen]
    change x ∈ ((c.add t).1.addAll ts).tokens ↔ _
    rw [ih hnext hrest, hadd, mem_insertToken, List.map_cons, List.mem_cons]
    grind

theorem addAll_ascending (h : c.tokens.Pairwise (· < ·)) (ts : List String) :
    (c.addAll ts).tokens.Pairwise (· < ·) := by
  induction ts generalizing c with
  | nil => exact h
  | cons t ts ih =>
    change ((c.add t).1.addAll ts).tokens.Pairwise (· < ·)
    refine ih ?_
    unfold add
    split
    · exact h
    · exact insertToken_ascending h

/-- **A list that is kept is determined by its tokens.** -/
theorem eq_of_mem_iff (h : c.tokens.Pairwise (· < ·)) (h' : c'.tokens.Pairwise (· < ·))
    (hopen : c.negotiating = c'.negotiating) (hmem : ∀ t, t ∈ c.tokens ↔ t ∈ c'.tokens) :
    c = c' := by
  have : Std.Irrefl fun a b : String => a < b := ⟨String.lt_irrefl⟩
  have : Std.Antisymm fun a b : String => a < b :=
    ⟨fun _ _ hab hba => absurd (String.lt_trans hab hba) (String.lt_irrefl _)⟩
  have htokens : c.tokens = c'.tokens := h.eq_of_mem_iff h' hmem
  cases c
  cases c'
  exact congr (congrArg Capabilities.mk htokens) hopen

end Capabilities

/-! ### Lines with a list of tokens -/

/-- A line with some words behind its command is read word by word, and the rest after them. -/
theorem parse_of_words {m : Message} (h : m.Readable) {line : String} {words : List String}
    (hwords : ∀ p ∈ words, IsWord p) {rest : List Char} (hrest : ∀ c, rest.head? = some c → c = ' ')
    (hline : dropLineEnd line.toList = tagsChars m.tags ++ sourceChars m.source
      ++ m.command.toList ++ (wordsChars words ++ rest)) :
    Message.parse line
      = .ok { m with params := words ++ readParams (rest.dropWhile (· == ' ')) } := by
  have hfollows : ∀ c, (wordsChars words ++ rest).head? = some c → c = ' ' := by
    intro c hc
    cases words with
    | nil => exact hrest c hc
    | cons p ps => exact (Option.some.inj hc).symm
  rw [Message.parse, hline, trimStart_format h, readLine_append h hfollows,
    readParams_words hwords hrest]

theorem endsLine_of_mem_spaced {tokens : List String} (h : ∀ t ∈ tokens, IsToken t) {c : Char}
    (hc : c ∈ (" ".intercalate tokens).toList) : endsLine c = false := by
  rcases mem_spaced hc with rfl | ⟨t, ht, hmem⟩
  · rfl
  · rw [endsLine_eq_false_iff]
    constructor <;> rintro rfl <;> simpa [isBlank] using (h t ht).bare _ hmem

theorem isWord_of_isToken {t : String} (h : IsToken t) (hcolon : t.toList.head? ≠ some ':') :
    IsWord t where
  ne := h.ne
  space := h.space
  colon := hcolon

/-- Tokens that are joined by spaces come back as a last parameter. -/
theorem lastRead_spaced {tokens : List String} (h : ∀ t ∈ tokens, IsToken t) :
    lastRead (" ".intercalate tokens) = [" ".intercalate tokens] :=
  lastRead_eq_singleton_iff.mpr fun _ hc => endsLine_of_mem_spaced h (List.mem_of_getLast? hc)

/-- The message in a line that tells capabilities. -/
def capabilityMessage (subcommand : String) (tokens : List String) : Message :=
  { source := some serverName, command := "CAP",
    params := ["*", subcommand, " ".intercalate tokens] }

/-- **Capabilities that are told** are read as they are, also if there are none: the colon before
them is always there. -/
theorem Line.parse_capabilities {subcommand : String} {tokens : List String}
    (hsub : IsWord subcommand) (hts : ∀ t ∈ tokens, IsToken t) :
    Message.parse (Line.capabilities subcommand tokens).text =
      .ok (capabilityMessage subcommand tokens) := by
  let opening : Message := { source := some serverName, command := "CAP" }
  have hopening : opening.Readable := by
    refine ⟨by simp [opening], by decide, by decide, by simp [opening], by simp [opening]⟩
  have hwords : ∀ p ∈ ["*", subcommand], IsWord p := by
    simpa using ⟨⟨by decide, by decide, by decide⟩, hsub⟩
  let joined := (" ".intercalate tokens).toList
  have hchars : (Line.capabilities subcommand tokens).text.toList
      = tagsChars opening.tags ++ sourceChars opening.source ++ opening.command.toList
        ++ (wordsChars ["*", subcommand] ++ ' ' :: ':' :: joined) := by
    simp [Line.text, opening, tagsChars, sourceChars, wordsChars, joined]
  -- the line ends with the colon or with the list, of which nothing is dropped
  have hend : dropLineEnd (Line.capabilities subcommand tokens).text.toList
      = (Line.capabilities subcommand tokens).text.toList := by
    refine dropLineEnd_eq_self_iff.mpr fun c hc => ?_
    have hlast : c ∈ ':' :: joined := by
      rw [hchars, ← List.append_assoc, List.getLast?_append_of_ne_nil _ (List.cons_ne_nil _ _),
        List.getLast?_cons_cons] at hc
      exact List.mem_of_getLast? hc
    rcases List.mem_cons.mp hlast with rfl | hjoined
    · rfl
    · exact endsLine_of_mem_spaced hts hjoined
  rw [parse_of_words hopening hwords (by simp) (hend.trans hchars)]
  simp [readParams, joined, opening, capabilityMessage, -String.toList_intercalate]

section Requests

variable {tokens : List String}

/-- Words, each behind a space, are words joined by spaces, behind a space. -/
theorem wordsChars_eq_spaced (hne : tokens ≠ []) :
    wordsChars tokens = ' ' :: (" ".intercalate tokens).toList := by
  unfold wordsChars
  induction tokens with
  | nil => exact absurd rfl hne
  | cons t ts ih =>
    cases ts with
    | nil => simp
    | cons u us =>
      rw [List.flatMap_cons, ih (List.cons_ne_nil u us), String.intercalate_cons_cons]
      simp

/-- Of the line of a request only its end is dropped. -/
theorem dropLineEnd_request {opening : String} (hopening : opening.toList.all (!endsLine ·) = true)
    (htokens : ∀ t ∈ tokens, IsToken t) :
    dropLineEnd (opening ++ " ".intercalate tokens ++ "\r\n").toList
      = opening.toList ++ (" ".intercalate tokens).toList := by
  have hlineEnd : ∀ c ∈ "\r\n".toList, endsLine c = true := by simp [endsLine]
  rw [String.toList_append, String.toList_append, dropLineEnd_append_of_forall hlineEnd]
  refine dropLineEnd_eq_self_iff.mpr fun c hc => ?_
  rcases List.mem_append.mp (List.mem_of_getLast? hc) with hmem | hmem
  · simpa using List.all_eq_true.mp hopening c hmem
  · exact endsLine_of_mem_spaced htokens hmem

/-- A request with its tokens in one parameter, which a colon marks. -/
theorem parse_request_together (htokens : ∀ t ∈ tokens, IsToken t) :
    Message.parse ("CAP REQ :" ++ " ".intercalate tokens ++ "\r\n")
      = .ok { command := "CAP", params := ["REQ", " ".intercalate tokens] } := by
  have hopening : ({ command := "CAP" } : Message).Readable :=
    ⟨by simp, by simp, by decide, by simp, by simp⟩
  have hreq : ∀ p ∈ ["REQ"], IsWord p := by
    simpa using ⟨by decide, by decide, by decide⟩
  let marked := ' ' :: ':' :: (" ".intercalate tokens).toList
  have hmarked : ∀ c, marked.head? = some c → c = ' ' := by simp [marked]
  have hline : dropLineEnd ("CAP REQ :" ++ " ".intercalate tokens ++ "\r\n").toList
      = "CAP".toList ++ (wordsChars ["REQ"] ++ marked) :=
    dropLineEnd_request (by decide) htokens
  rw [parse_of_words hopening hreq hmarked hline]
  simp [marked, readParams, -String.toList_intercalate]

/-- A request with each token in a parameter of its own. -/
theorem parse_request_apart (hne : tokens ≠ [])
    (htokens : ∀ t ∈ tokens, IsToken t ∧ t.toList.head? ≠ some ':') :
    Message.parse ("CAP REQ " ++ " ".intercalate tokens ++ "\r\n")
      = .ok { command := "CAP", params := "REQ" :: tokens } := by
  have hopening : ({ command := "CAP" } : Message).Readable :=
    ⟨by simp, by simp, by decide, by simp, by simp⟩
  have hwords : ∀ p ∈ "REQ" :: tokens, IsWord p := by
    rw [List.forall_mem_cons]
    exact ⟨⟨by decide, by decide, by decide⟩,
      fun t ht => isWord_of_isToken (htokens t ht).1 (htokens t ht).2⟩
  -- without a colon the tokens are words like all others
  have hline : dropLineEnd ("CAP REQ " ++ " ".intercalate tokens ++ "\r\n").toList
      = "CAP".toList ++ (wordsChars ("REQ" :: tokens) ++ []) := by
    rw [dropLineEnd_request (by decide) fun t ht => (htokens t ht).1, List.append_nil,
      show wordsChars ("REQ" :: tokens) = " REQ".toList ++ wordsChars tokens from rfl,
      wordsChars_eq_spaced hne]
    rfl
  rw [parse_of_words hopening hwords (by simp) hline]
  simp [readParams]

end Requests

end IrcGateway.Protocol
