import IrcGateway.Proofs.Protocol.RoundTrip
import IrcGateway.Proofs.Text.OneLine
import IrcGateway.Protocol.Line
import IrcGateway.Session

/-!
# A tag before a line

A line that opens with its source can be given a tag, and is read as it was before, with that tag
(`parse_tag_append`). All lines of the gateway open so (`Line.head?_text`), and a time stamp is
written without the characters that would end the tag (`wellFormed_timeTag`). Hence who reads a
dated line of the gateway finds the date, and nothing else has changed (`parse_dated`).
-/

namespace IrcGateway.Protocol

open IrcGateway.Text IrcGateway.Time

/-- The message with other tags. -/
def Message.withTags (tags : List Tag) (m : Message) : Message :=
  { m with tags }

/-- Tags are read before the rest, and do not matter to it. -/
theorem readCommand_withTags (tags : List Tag) (source : Option String) (cs : List Char) :
    readCommand tags source cs = (readCommand [] source cs).map (.withTags tags) := by
  unfold readCommand
  simp only
  split
  · rfl
  · split <;> rfl

theorem readSource_withTags (tags : List Tag) (cs : List Char) :
    readSource tags cs = (readSource [] cs).map (.withTags tags) := by
  unfold readSource
  split <;> exact readCommand_withTags tags _ _

variable {line : String}

/-- Without tags the source is read at once, and the end of the line is dropped behind the colon. -/
theorem parse_of_colon {cs : List Char} (hline : line.toList = ':' :: cs) :
    Message.parse line = readSource [] (':' :: dropLineEnd cs) := by
  have hdrop := @dropLineEnd_append ':' rfl [] cs
  rw [List.nil_append, List.nil_append] at hdrop
  unfold Message.parse
  rw [hline, hdrop]
  rfl

/-- **A tag before a line** that opens with its source is read as a tag, and the rest as before. -/
theorem parse_tag_append {t : Tag} (ht : t.WellFormed) (hline : line.toList.head? = some ':') :
    Message.parse ("@" ++ t.text ++ " " ++ line)
      = (Message.parse line).map (.withTags [t]) := by
  obtain ⟨cs, hcs⟩ := List.head?_eq_some_iff.mp hline
  -- the colon keeps the end of the line from the tag, and is where the tag's word ends
  have htagged : Message.parse ("@" ++ t.text ++ " " ++ line)
      = readLine ('@' :: (tagsWord [t] ++ ' ' :: ':' :: dropLineEnd cs)) := by
    have hchars : ("@" ++ t.text ++ " " ++ line).toList
        = ('@' :: (t.text.toList ++ [' '])) ++ ':' :: cs := by
      simp [hcs]
    have hone : tagsWord [t] = t.text.toList := List.intercalate_singleton
    unfold Message.parse
    rw [hchars, dropLineEnd_append rfl, List.cons_append, List.append_assoc, hone]
    rfl
  have hall : ∀ u ∈ [t], u.WellFormed := by simpa using ht
  have hword : nextWord (tagsWord [t] ++ ' ' :: ':' :: dropLineEnd cs)
      = (tagsWord [t], ':' :: dropLineEnd cs) := by
    rw [nextWord_append (space_notMem_tagsWord hall) (by simp)]
    rfl
  calc
    Message.parse ("@" ++ t.text ++ " " ++ line)
      = readSource (readTags (tagsWord [t])) (':' :: dropLineEnd cs) := by
        rw [htagged]
        simp only [readLine, hword]
    _ = readSource [t] (':' :: dropLineEnd cs) := by
        rw [readTags_tagsWord (List.cons_ne_nil t []) hall]
    _ = (Message.parse line).map (.withTags [t]) := by
        rw [parse_of_colon hcs, readSource_withTags]

/-- A line that opens with its source has no tags. -/
theorem tags_of_parse (hline : line.toList.head? = some ':') {m : Message}
    (h : Message.parse line = .ok m) : m.tags = [] := by
  obtain ⟨cs, hcs⟩ := List.head?_eq_some_iff.mp hline
  rw [parse_of_colon hcs, readSource_withTags] at h
  cases hread : readSource [] (':' :: dropLineEnd cs) with
  | error e => simp [hread, Except.map] at h
  | ok m' =>
    rw [hread] at h
    exact congrArg Message.tags (Except.ok.inj h).symm

/-- The lines of the gateway open with their source. -/
theorem Line.head?_text (l : Line) : l.text.toList.head? = some ':' := by
  cases l <;> simp [text, Message.format, numeric, spoken]

/-- The tag that dates a line. -/
def timeTag (text : String) : Tag :=
  ⟨"time", some text⟩

theorem wellFormed_timeTag (ms : Int) : (timeTag (momentText ms)).WellFormed where
  key := by simp [timeTag]
  value := by
    intro v hv c hc
    obtain rfl : momentText ms = v := Option.some.inj hv
    -- neither a digit nor a mark between digits ends a tag
    rcases mem_momentText hc with hdigit | hother
    · constructor <;> rintro rfl <;> simp at hdigit
    · constructor <;> rintro rfl <;> simp at hother
  key_ne := by simp [timeTag]

/-- A moment, as the text that a stamp is written as. -/
theorem exists_momentText (stamp : Stamp) (clock : Int) :
    ∃ ms, stamp.text (momentText clock) = momentText ms := by
  cases stamp with
  | clock => exact ⟨clock, rfl⟩
  | «at» ms => exact ⟨ms, rfl⟩

/-- A dated line, with its date as a tag. -/
theorem text_of_some (now : String) (stamp : Stamp) (line : String) :
    Sent.text now ⟨some stamp, line⟩
      = "@" ++ (timeTag (stamp.text now)).text ++ " " ++ line := by
  simp only [Sent.text, timeTag, Tag.text]
  rw [← String.append_assoc, ← String.append_assoc]
  rfl

/-- **Who reads a dated line of the gateway** finds the date, and all else as in the bare line. -/
theorem parse_dated (l : Line) (stamp : Stamp) (clock : Int) :
    Message.parse (Sent.text (momentText clock) ⟨some stamp, l.text⟩)
      = (Message.parse l.text).map (.withTags [timeTag (stamp.text (momentText clock))]) := by
  obtain ⟨ms, hms⟩ := exists_momentText stamp clock
  rw [text_of_some, hms]
  exact parse_tag_append (wellFormed_timeTag ms) l.head?_text

end IrcGateway.Protocol
