import IrcGateway.Proofs.Protocol.RoundTrip
import Mathlib.Data.List.ReduceOption

/-!
# The parts of a line

What the grammar of lines is made of: words with spaces after them, the parameters behind a command
(`Tail`), tags in pieces between semicolons, and what stands before a command (`Opening`). Each is
kept as it is written: how many spaces stand anywhere, and which pieces are empty.

Three things are shown of each part. A valid one is read as what it stands for; every text has one;
and no text has two. All of them rest on the one fact about words that `Cut` states: a word, the
spaces after it and the rest are what the reader takes apart, and there is one way to cut a text.
-/

namespace IrcGateway.Text

/-- The pieces joined again are the text. -/
theorem intercalate_pieces (sep : Char) (cs : List Char) :
    [sep].intercalate (pieces (· == sep) cs) = cs := by
  induction cs with
  | nil => rfl
  | cons c cs ih =>
    rw [pieces]
    split
    · -- at a separator an empty piece begins the list
      next hcut =>
      obtain ⟨p, ps, hp⟩ := List.exists_cons_of_ne_nil (pieces_ne_nil (· == sep) cs)
      rw [hp, List.intercalate_cons_cons, ← hp, ih, eq_of_beq hcut]
      rfl
    · split
      · next hnone => exact absurd hnone (pieces_ne_nil _ cs)
      · -- another character begins the first piece, which may be the only one
        next p ps hp =>
        rw [hp] at ih
        cases ps with
        | nil =>
          rw [List.intercalate_singleton] at ih ⊢
          rw [ih]
        | cons q qs =>
          rw [List.intercalate_cons_cons] at ih ⊢
          rw [List.cons_append, List.cons_append, ih]

end IrcGateway.Text

namespace IrcGateway.Protocol

open IrcGateway.Text

/-! ### Words and the spaces after them -/

/-- As many spaces. -/
def spaces (n : Nat) : List Char :=
  List.replicate n ' '

theorem dropWhile_spaces_append (n : Nat) {rest : List Char} (h : rest.head? ≠ some ' ') :
    (spaces n ++ rest).dropWhile (· == ' ') = rest := by
  induction n with
  | zero =>
    cases rest with
    | nil => rfl
    | cons c cs =>
      have hc : c ≠ ' ' := fun heq => h (heq ▸ rfl)
      exact List.dropWhile_cons_of_neg (by simpa using hc)
  | succ n ih => exact ih

/-- A text is cut into a word, the spaces after it, and what follows them. -/
structure Cut (cs word : List Char) (gap : Nat) (rest : List Char) : Prop where
  eq : cs = word ++ (spaces gap ++ rest)
  free : ' ' ∉ word
  head : rest.head? ≠ some ' '
  /-- Only at the end of the text is there no space. -/
  last : gap = 0 → rest = []

/-- What follows a word begins with a space. -/
theorem head?_spaces_append {gap : Nat} {rest : List Char} (h : gap = 0 → rest = []) :
    ∀ c, (spaces gap ++ rest).head? = some c → c = ' ' := by
  intro c hc
  cases gap with
  | zero => simp [h rfl, spaces] at hc
  | succ n => exact (Option.some.inj hc).symm

/-- The reader takes apart what is cut. -/
theorem Cut.nextWord {cs word rest : List Char} {gap : Nat} (h : Cut cs word gap rest) :
    nextWord cs = (word, rest) := by
  rw [h.eq, nextWord_append h.free (head?_spaces_append h.last), dropWhile_spaces_append gap h.head]

/-- There is one cut, and it is where the reader cuts. -/
theorem exists_cut (cs : List Char) : ∃ gap, Cut cs (nextWord cs).1 gap (nextWord cs).2 := by
  -- the gap is one space, at which the reader splits, and those that it drops behind it
  obtain ⟨-, -, hword, hrest⟩ := exists_gap_nextWord cs
  unfold Protocol.nextWord at hword hrest ⊢
  split at hword
  · next word rest hsplit =>
    obtain ⟨rfl, -⟩ := splitAtFirst_eq_some_iff.mp hsplit
    have hgap : rest.takeWhile (· == ' ') = spaces (rest.takeWhile (· == ' ')).length := by
      refine List.eq_replicate_of_mem fun c hc => ?_
      exact eq_of_beq (List.mem_takeWhile_imp (p := (· == ' ')) hc)
    simp only [hsplit] at hrest ⊢
    refine ⟨(rest.takeWhile (· == ' ')).length + 1, ?_, hword, hrest, by simp⟩
    rw [spaces, List.replicate_succ, List.cons_append, ← spaces, ← hgap,
      List.takeWhile_append_dropWhile]
  · next hsplit =>
    simp only [hsplit] at hrest ⊢
    exact ⟨0, by simp [spaces], hword, hrest, fun _ => rfl⟩

theorem Cut.unique {cs word word' rest rest' : List Char} {gap gap' : Nat}
    (h : Cut cs word gap rest) (h' : Cut cs word' gap' rest') :
    word = word' ∧ gap = gap' ∧ rest = rest' := by
  obtain ⟨rfl, rfl⟩ := Prod.mk.inj (h.nextWord.symm.trans h'.nextWord)
  refine ⟨rfl, ?_, rfl⟩
  -- word and rest are the same, so that the lengths tell the gap
  have hlength := congrArg List.length (h.eq.symm.trans h'.eq)
  simpa [spaces] using hlength

/-! ### Parameters -/

/-- What follows the command. -/
inductive Tail where
  /-- Nothing, perhaps behind spaces. -/
  | stop (gap : Nat)
  /-- Free text behind `gap + 1` spaces and a colon. -/
  | trailing (gap : Nat) (text : String)
  /-- A parameter behind `gap + 1` spaces, and more. -/
  | param (gap : Nat) (word : String) (rest : Tail)

namespace Tail

def text : Tail → List Char
  | stop gap => spaces gap
  | trailing gap text => spaces (gap + 1) ++ ':' :: text.toList
  | param gap word rest => spaces (gap + 1) ++ (word.toList ++ rest.text)

/-- Parameters that no colon marks are words. -/
def Valid : Tail → Prop
  | stop _ => True
  | trailing _ _ => True
  | param _ word rest => IsWord word ∧ rest.Valid

def params : Tail → List String
  | stop _ => []
  | trailing _ text => [text]
  | param _ word rest => word :: rest.params

/-- How many spaces stand before the first parameter. -/
def gap : Tail → Nat
  | stop gap => gap
  | trailing gap _ => gap + 1
  | param gap _ _ => gap + 1

/-- The text behind these spaces. -/
def body : Tail → List Char
  | stop _ => []
  | trailing _ text => ':' :: text.toList
  | param _ word rest => word.toList ++ rest.text

theorem text_eq (t : Tail) : t.text = spaces t.gap ++ t.body := by
  cases t with
  | stop gap => exact (List.append_nil _).symm
  | trailing => rfl
  | param => rfl

end Tail

theorem IsWord.toList_ne {p : String} (h : IsWord p) : p.toList ≠ [] :=
  fun hnil => h.ne (String.toList_eq_nil_iff.mp hnil)

namespace Tail

variable {t t' : Tail}

theorem head?_body (h : t.Valid) : t.body.head? ≠ some ' ' := by
  cases t with
  | stop => simp [body]
  | trailing => simp [body]
  | param gap word rest =>
    obtain ⟨c, cs, hcs⟩ := List.exists_cons_of_ne_nil h.1.toList_ne
    intro hc
    rw [body, hcs] at hc
    exact h.1.space (by simpa [hcs] using .inl (Option.some.inj hc).symm)

theorem body_of_gap (h : t.gap = 0) : t.body = [] := by
  cases t with
  | stop => rfl
  | trailing => simp [gap] at h
  | param => simp [gap] at h

/-- A word with a tail behind it is cut at the tail. -/
theorem cut (h : t.Valid) {word : List Char} (hword : ' ' ∉ word) :
    Cut (word ++ t.text) word t.gap t.body where
  eq := by rw [t.text_eq]
  free := hword
  head := head?_body h
  last := body_of_gap

/-- **A tail is read as its parameters.** -/
theorem readParams_body (h : t.Valid) : readParams t.body = t.params := by
  induction t with
  | stop => rw [body, readParams, params]
  | trailing gap text => rw [body, readParams, params, String.ofList_toList]
  | param gap word rest ih =>
    have hfollows := head?_spaces_append (body_of_gap (t := rest))
    rw [body, rest.text_eq, readParams_append h.1.toList_ne h.1.space h.1.colon hfollows,
      dropWhile_spaces_append rest.gap (head?_body h.2), ih h.2, params, String.ofList_toList]

/-- Every text has a tail, in which the reader finds its parameters. -/
theorem exists_of_body {cs : List Char} (hcs : cs.head? ≠ some ' ') {gap : Nat}
    (hgap : gap = 0 → cs = []) : ∃ t : Tail, t.Valid ∧ t.gap = gap ∧ t.body = cs := by
  -- the reader finds nothing, a marked text, or a word and then more
  fun_induction readParams cs generalizing gap with
  | case1 => exact ⟨.stop gap, trivial, rfl, rfl⟩
  | case2 trailing =>
    obtain ⟨n, rfl⟩ := Nat.exists_eq_succ_of_ne_zero fun h => by simpa using hgap h
    exact ⟨.trailing n (String.ofList trailing), trivial, rfl, by simp [body]⟩
  | case3 c cs hcolon ih =>
    obtain ⟨n, rfl⟩ := Nat.exists_eq_succ_of_ne_zero fun h => by simpa using hgap h
    have hhead : (nextWord (c :: cs)).1.head? = some c :=
      head?_nextWord fun hspace => hcs (hspace ▸ rfl)
    obtain ⟨gap, hcut⟩ := exists_cut (c :: cs)
    obtain ⟨rest, hvalid, rfl, hbody⟩ := ih (head?_nextWord_ne _) hcut.last
    -- the first word is a parameter, as no colon marks it
    refine ⟨.param n (String.ofList (nextWord (c :: cs)).1) rest, ⟨⟨?_, ?_, ?_⟩, hvalid⟩, rfl, ?_⟩
    · intro hempty
      rw [String.ofList_eq_empty_iff] at hempty
      simp [hempty] at hhead
    · rw [String.toList_ofList]
      exact hcut.free
    · rw [String.toList_ofList, hhead]
      exact fun h => hcolon (Option.some.inj h)
    · rw [body, String.toList_ofList, rest.text_eq, hbody]
      exact hcut.eq.symm

/-- **No text has two tails.** -/
theorem eq_of_body_eq (h : t.Valid) (h' : t'.Valid) (hgap : t.gap = t'.gap)
    (hbody : t.body = t'.body) : t = t' := by
  induction t generalizing t' with
  | stop gap =>
    cases t' with
    | stop gap' => exact congrArg stop hgap
    | trailing => simp [body] at hbody
    | param gap' word' rest' =>
      exact absurd (List.append_eq_nil_iff.mp hbody.symm).1 h'.1.toList_ne
  | trailing gap text =>
    cases t' with
    | stop => simp [body] at hbody
    | trailing gap' text' =>
      obtain rfl : text = text' := String.toList_inj.mp (List.cons.inj hbody).2
      exact congrArg (trailing · text) (Nat.succ.inj hgap)
    | param gap' word' rest' =>
      -- a word does not begin with a colon
      obtain ⟨c, cs, hcs⟩ := List.exists_cons_of_ne_nil h'.1.toList_ne
      rw [body, body, hcs] at hbody
      exact absurd (by rw [hcs, ← (List.cons.inj hbody).1]; rfl) h'.1.colon
  | param gap word rest ih =>
    cases t' with
    | stop => exact absurd (List.append_eq_nil_iff.mp hbody).1 h.1.toList_ne
    | trailing gap' text' =>
      obtain ⟨c, cs, hcs⟩ := List.exists_cons_of_ne_nil h.1.toList_ne
      rw [body, body, hcs] at hbody
      exact absurd (by rw [hcs, (List.cons.inj hbody).1]; rfl) h.1.colon
    | param gap' word' rest' =>
      -- both words end at the first space, and so do the gaps behind them
      have hcut := cut h.2 h.1.space
      rw [show word.toList ++ rest.text = word'.toList ++ rest'.text from hbody] at hcut
      obtain ⟨hword, hrestGap, hrestBody⟩ := hcut.unique (cut h'.2 h'.1.space)
      obtain rfl := String.toList_inj.mp hword
      obtain rfl := ih h.2 h'.2 hrestGap hrestBody
      exact congrArg (param · word rest) (Nat.succ.inj hgap)

end Tail

/-! ### Tags -/

/-- A piece between semicolons, which is a tag unless it is empty. -/
def pieceText : Option Tag → List Char
  | none => []
  | some t => t.text.toList

/-- Pieces, with semicolons between them. -/
def piecesText (ps : List (Option Tag)) : List Char :=
  [';'].intercalate (ps.map pieceText)

/-- There is a piece, and the tags among the pieces read as they are written. -/
def ValidPieces (ps : List (Option Tag)) : Prop :=
  ps ≠ [] ∧ ∀ t, some t ∈ ps → t.WellFormed

/-- What one piece is. -/
def readPiece (p : List Char) : Option Tag :=
  if p = [] then none
  else
    match splitAtFirst '=' p with
    | some (key, value) => some ⟨String.ofList key, some (String.ofList value)⟩
    | none => some ⟨String.ofList p, none⟩

/-- All pieces of a word. -/
def readPieces (word : List Char) : List (Option Tag) :=
  (pieces (· == ';') word).map readPiece

/-- The tags of a word are its pieces without the empty ones. -/
theorem readTags_eq (word : List Char) : readTags word = (readPieces word).reduceOption := by
  unfold readTags readPieces
  induction pieces (· == ';') word with
  | nil => rfl
  | cons p ps ih =>
    rw [List.map_cons, List.filter_cons]
    cases p with
    | nil => simpa [readPiece] using ih
    | cons c cs =>
      rw [if_pos (show (!(c :: cs).isEmpty) = true from rfl), List.map_cons, ih, readPiece,
        if_neg (List.cons_ne_nil c cs)]
      cases splitAtFirst '=' (c :: cs) <;> rfl

theorem pieceText_readPiece (p : List Char) : pieceText (readPiece p) = p := by
  unfold readPiece
  split
  · next hp => exact hp.symm
  · split
    · next key value hsplit =>
      rw [(splitAtFirst_eq_some_iff.mp hsplit).1]
      simp [pieceText, tagText_toList]
    · simp [pieceText, tagText_toList]

theorem readPiece_pieceText {p : Option Tag} (h : ∀ t, p = some t → t.WellFormed) :
    readPiece (pieceText p) = p := by
  cases p with
  | none => rfl
  | some t =>
    have ht := h t rfl
    have hkey : '=' ∉ t.key.toList := fun hmem => (ht.key '=' hmem).2.2 rfl
    rw [readPiece, if_neg (show pieceText (some t) ≠ [] from ht.text.1),
      show pieceText (some t) = _ from tagText_toList t]
    obtain ⟨key, value⟩ := t
    cases value with
    | some v => simp [splitAtFirst_append _ hkey]
    | none => simp [splitAtFirst_eq_none_iff.mpr hkey]

/-- Every word has its pieces. -/
theorem piecesText_readPieces (word : List Char) : piecesText (readPieces word) = word := by
  have hback : (pieceText ∘ readPiece) = id := funext pieceText_readPiece
  rw [piecesText, readPieces, List.map_map, hback, List.map_id, intercalate_pieces]

theorem validPieces_readPieces {word : List Char} (h : ' ' ∉ word) :
    ValidPieces (readPieces word) := by
  refine ⟨fun hnil => pieces_ne_nil _ word (List.map_eq_nil_iff.mp hnil), fun t ht => ?_⟩
  have hmem : t ∈ readTags word := by
    rw [readTags_eq]
    exact List.reduceOption_mem_iff.mpr ht
  exact wellFormed_of_mem_readTags h hmem

/-- **No word has two lists of pieces.** -/
theorem readPieces_piecesText {ps : List (Option Tag)} (h : ValidPieces ps) :
    readPieces (piecesText ps) = ps := by
  have hpieces : pieces (· == ';') (piecesText ps) = ps.map pieceText := by
    refine @pieces_intercalate (· == ';') ';' rfl _ (mt List.map_eq_nil_iff.mp h.1) ?_
    intro p hp c hc
    obtain ⟨_ | t, ht, rfl⟩ := List.mem_map.mp hp
    · simp [pieceText] at hc
    · simpa using ((h.2 t ht).text.2 c hc).2
  rw [readPieces, hpieces, List.map_map]
  conv => rhs; rw [← List.map_id ps]
  refine List.map_congr_left fun p hp => ?_
  exact readPiece_pieceText fun t ht => h.2 t (ht ▸ hp)

theorem space_notMem_piecesText {ps : List (Option Tag)} (h : ValidPieces ps) :
    ' ' ∉ piecesText ps := by
  -- a space in the word would be one in a piece
  intro hmem
  obtain ⟨p, hp, hspace⟩ : ∃ p ∈ ps, ' ' ∈ pieceText p := by
    have hjoined : ∀ qs : List (Option Tag), ' ' ∈ piecesText qs → ∃ p ∈ qs, ' ' ∈ pieceText p := by
      intro qs
      unfold piecesText
      induction qs with
      | nil => simp
      | cons q qs ih =>
        cases qs with
        | nil => simp
        | cons q' qs' =>
          rw [List.map_cons, List.map_cons, List.intercalate_cons_cons, List.append_assoc,
            List.mem_append, List.mem_append]
          rintro (hq | hsep | hrest)
          · exact ⟨q, List.mem_cons_self, hq⟩
          · simp at hsep
          · obtain ⟨p, hp, hspace⟩ := ih hrest
            exact ⟨p, List.mem_cons_of_mem q hp, hspace⟩
    exact hjoined ps hmem
  cases p with
  | none => simp [pieceText] at hspace
  | some t => exact ((h.2 t hp).text.2 ' ' hspace).1 rfl

/-! ### What opens a line -/

/-- What stands before the command: tags and a source, each with the spaces after it. -/
structure Opening where
  tags : Option (List (Option Tag) × Nat) := none
  source : Option (String × Nat) := none

namespace Opening

/-- The source as it stands in the line. -/
def sourceText (o : Opening) : List Char :=
  match o.source with
  | none => []
  | some (name, gap) => ':' :: (name.toList ++ spaces gap)

def text (o : Opening) : List Char :=
  match o.tags with
  | none => o.sourceText
  | some (ps, gap) => '@' :: (piecesText ps ++ spaces gap) ++ o.sourceText

/-- The tags that it gives a message. -/
def tagList (o : Opening) : List Tag :=
  match o.tags with
  | none => []
  | some (ps, _) => ps.reduceOption

/-- The source that it gives a message. -/
def sourceName (o : Opening) : Option String :=
  o.source.map (·.1)

/-- The opening is all that opens a line on which `rest` follows. -/
structure Before (o : Opening) (rest : List Char) : Prop where
  tags : ∀ ps gap, o.tags = some (ps, gap) →
    ValidPieces ps ∧ (gap = 0 → o.sourceText ++ rest = [])
  noTags : o.tags = none → (o.sourceText ++ rest).head? ≠ some '@'
  source : ∀ name gap, o.source = some (name, gap) → ' ' ∉ name.toList ∧ (gap = 0 → rest = [])
  noSource : o.source = none → rest.head? ≠ some ':'
  space : rest.head? ≠ some ' '

variable {o o' : Opening} {rest rest' : List Char}

theorem sourceText_of_none (hs : o.source = none) : o.sourceText = [] := by
  rw [sourceText, hs]

theorem sourceText_append {name : String} {gap : Nat} (hs : o.source = some (name, gap))
    (rest : List Char) :
    o.sourceText ++ rest = ':' :: (name.toList ++ (spaces gap ++ rest)) := by
  simp [sourceText, hs]

theorem text_of_none (ht : o.tags = none) : o.text = o.sourceText := by
  rw [text, ht]

theorem text_append {ps : List (Option Tag)} {gap : Nat} (ht : o.tags = some (ps, gap))
    (rest : List Char) :
    o.text ++ rest = '@' :: (piecesText ps ++ (spaces gap ++ (o.sourceText ++ rest))) := by
  simp [text, ht]

theorem Before.head?_sourceText (h : o.Before rest) : (o.sourceText ++ rest).head? ≠ some ' ' := by
  unfold sourceText
  split
  · exact h.space
  · simp

theorem Before.cutSource (h : o.Before rest) {name : String} {gap : Nat}
    (hs : o.source = some (name, gap)) :
    Cut (name.toList ++ (spaces gap ++ rest)) name.toList gap rest where
  eq := rfl
  free := (h.source name gap hs).1
  head := h.space
  last := (h.source name gap hs).2

theorem Before.cutTags (h : o.Before rest) {ps : List (Option Tag)} {gap : Nat}
    (ht : o.tags = some (ps, gap)) :
    Cut (piecesText ps ++ (spaces gap ++ (o.sourceText ++ rest))) (piecesText ps) gap
      (o.sourceText ++ rest) where
  eq := rfl
  free := space_notMem_piecesText (h.tags ps gap ht).1
  head := h.head?_sourceText
  last := (h.tags ps gap ht).2

/-- The source is read, and the command behind it. -/
theorem Before.readSource (h : o.Before rest) (tags : List Tag) :
    readSource tags (o.sourceText ++ rest) = readCommand tags o.sourceName rest := by
  cases hs : o.source with
  | none =>
    rw [sourceText_of_none hs, List.nil_append, sourceName, hs]
    unfold Protocol.readSource
    split
    · next named => exact absurd rfl (h.noSource hs)
    · rfl
  | some source =>
    rw [sourceText_append hs, sourceName, hs]
    simp only [Protocol.readSource, (h.cutSource hs).nextWord, String.ofList_toList,
      Option.map_some]

/-- **An opening is read as its tags and its source.** -/
theorem Before.readLine (h : o.Before rest) (hne : o.text ++ rest ≠ []) :
    readLine (o.text ++ rest) = readCommand o.tagList o.sourceName rest := by
  cases ht : o.tags with
  | none =>
    rw [text_of_none ht] at hne ⊢
    rw [tagList, ht, ← h.readSource]
    unfold Protocol.readLine
    split
    · next hnil => exact absurd hnil hne
    · next tagged hcons => exact absurd (by rw [hcons]; rfl) (h.noTags ht)
    · rfl
  | some tags =>
    rw [text_append ht, tagList, ht]
    simp only [Protocol.readLine, (h.cutTags ht).nextWord, readTags_eq,
      readPieces_piecesText (h.tags _ _ ht).1]
    exact h.readSource _

/-- What follows the tags begins with a source or has none. -/
theorem exists_source {cs : List Char} (hcs : cs.head? ≠ some ' ') :
    ∃ (source : Option (String × Nat)) (rest : List Char),
      sourceText { source } ++ rest = cs ∧
      (∀ name gap, source = some (name, gap) → ' ' ∉ name.toList ∧ (gap = 0 → rest = [])) ∧
      (source = none → rest.head? ≠ some ':') ∧ rest.head? ≠ some ' ' := by
  by_cases hcolon : cs.head? = some ':'
  · obtain ⟨named, rfl⟩ := List.head?_eq_some_iff.mp hcolon
    obtain ⟨gap, hcut⟩ := exists_cut named
    refine ⟨some (String.ofList (nextWord named).1, gap), (nextWord named).2, ?_, ?_, by simp,
      hcut.head⟩
    · conv => rhs; rw [hcut.eq]
      simp [sourceText]
    · rintro name gap' heq
      obtain ⟨rfl, rfl⟩ := Prod.mk.inj (Option.some.inj heq)
      rw [String.toList_ofList]
      exact ⟨hcut.free, hcut.last⟩
  · exact ⟨none, cs, rfl, by simp, fun _ => hcolon, hcs⟩

/-- Every text has an opening. -/
theorem exists_before {cs : List Char} (hcs : cs.head? ≠ some ' ') :
    ∃ (o : Opening) (rest : List Char), o.Before rest ∧ o.text ++ rest = cs := by
  -- with tags the source is looked for behind them
  by_cases hat : cs.head? = some '@'
  · obtain ⟨tagged, rfl⟩ := List.head?_eq_some_iff.mp hat
    obtain ⟨gap, hcut⟩ := exists_cut tagged
    obtain ⟨source, rest, htext, hsource, hnone, hspace⟩ := exists_source hcut.head
    refine ⟨⟨some (readPieces (nextWord tagged).1, gap), source⟩, rest,
      ⟨?_, by simp, hsource, hnone, hspace⟩, ?_⟩
    · rintro ps gap' heq
      obtain ⟨rfl, rfl⟩ := Prod.mk.inj (Option.some.inj heq)
      refine ⟨validPieces_readPieces hcut.free, fun hgap => ?_⟩
      exact htext.trans (hcut.last hgap)
    · conv => rhs; rw [hcut.eq, ← htext]
      simp [text, piecesText_readPieces, sourceText]
  · obtain ⟨source, rest, htext, hsource, hnone, hspace⟩ := exists_source hcs
    exact ⟨⟨none, source⟩, rest, ⟨by simp, fun _ => htext ▸ hat, hsource, hnone, hspace⟩, htext⟩

/-- No text has two sources. -/
theorem eq_of_sourceText_append_eq (h : o.Before rest) (h' : o'.Before rest')
    (heq : o.sourceText ++ rest = o'.sourceText ++ rest') :
    o.source = o'.source ∧ rest = rest' := by
  cases hs : o.source with
  | none =>
    rw [sourceText_of_none hs, List.nil_append] at heq
    cases hs' : o'.source with
    | none =>
      rw [sourceText_of_none hs', List.nil_append] at heq
      exact ⟨rfl, heq⟩
    | some source' =>
      -- one text begins with a colon, the other does not
      rw [sourceText_append hs'] at heq
      exact absurd (by rw [heq]; rfl) (h.noSource hs)
  | some source =>
    rw [sourceText_append hs] at heq
    cases hs' : o'.source with
    | none =>
      rw [sourceText_of_none hs', List.nil_append] at heq
      exact absurd (by rw [← heq]; rfl) (h'.noSource hs')
    | some source' =>
      rw [sourceText_append hs'] at heq
      -- both names end at the first space
      have hcut := h.cutSource hs
      rw [(List.cons.inj heq).2] at hcut
      obtain ⟨hname, hgap, hrest⟩ := hcut.unique (h'.cutSource hs')
      exact ⟨congrArg some (Prod.ext (String.toList_inj.mp hname) hgap), hrest⟩

/-- **No text has two openings.** -/
theorem eq_of_text_append_eq (h : o.Before rest) (h' : o'.Before rest')
    (heq : o.text ++ rest = o'.text ++ rest') : o = o' ∧ rest = rest' := by
  suffices o.tags = o'.tags ∧ o.sourceText ++ rest = o'.sourceText ++ rest' by
    obtain ⟨hsource, hrest⟩ := eq_of_sourceText_append_eq h h' this.2
    obtain ⟨tags, source⟩ := o
    obtain ⟨tags', source'⟩ := o'
    exact ⟨congr (congrArg mk this.1) hsource, hrest⟩
  cases ht : o.tags with
  | none =>
    rw [text_of_none ht] at heq
    cases ht' : o'.tags with
    | none =>
      rw [text_of_none ht'] at heq
      exact ⟨rfl, heq⟩
    | some tags' =>
      -- only with tags does a line begin with their mark
      rw [text_append ht'] at heq
      exact absurd (by rw [heq]; rfl) (h.noTags ht)
  | some tags =>
    rw [text_append ht] at heq
    cases ht' : o'.tags with
    | none =>
      rw [text_of_none ht'] at heq
      exact absurd (by rw [← heq]; rfl) (h'.noTags ht')
    | some tags' =>
      rw [text_append ht'] at heq
      have hcut := h.cutTags ht
      rw [(List.cons.inj heq).2] at hcut
      obtain ⟨hword, hgap, hrest⟩ := hcut.unique (h'.cutTags ht')
      -- the same word has the same pieces
      have hpieces := congrArg readPieces hword
      rw [readPieces_piecesText (h.tags _ _ ht).1, readPieces_piecesText (h'.tags _ _ ht').1]
        at hpieces
      exact ⟨congrArg some (Prod.ext hpieces hgap), hrest⟩

end Opening

end IrcGateway.Protocol
