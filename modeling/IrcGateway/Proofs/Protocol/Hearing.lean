import IrcGateway.Proofs.Protocol.Tagging
import IrcGateway.Proofs.Text.OneLine
import IrcGateway.Protocol.Line

/-!
# What a client hears

Writing a line escapes nothing. A line therefore holds a line feed exactly if one of the texts does
that it is about (`Line.oneLine_text_iff`).

A client cuts the characters it receives into lines and reads each of them (`received`). What was
written earlier is read apart from what was written later (`received_append`), and a line of the
gateway that is one line is read by itself (`received_tagged`): as what it says, with its date if
the client asked for dates (`dateTags`).

Of a line with words for all parameters but the last a client reads the same command
(`command_parse_spoken`), and of a private message everything but the end of its text
(`Line.parse_privmsg`).
-/

namespace IrcGateway.Protocol

open IrcGateway.Text

theorem oneLine_paramsText_iff {params : List String} :
    OneLine (paramsText params) ↔ ∀ p ∈ params, OneLine p := by
  have hspace : OneLine " " := by decide
  fun_induction paramsText params with
  | case1 => simp [OneLine]
  | case2 last =>
    have hmark : OneLine (if needsMark last then ":" else "") := by split <;> decide
    simp [hspace, hmark]
  | case3 p q ps ih => simp [hspace, ih]

theorem oneLine_format_iff {m : Message} (h : m.tags = []) :
    OneLine m.format ↔
      (∀ s, m.source = some s → OneLine s) ∧ OneLine m.command ∧ ∀ p ∈ m.params, OneLine p := by
  have hcolon : OneLine ":" := by decide
  have hspace : OneLine " " := by decide
  unfold Message.format
  rw [h]
  cases m.source <;> simp [oneLine_paramsText_iff, hcolon, hspace, and_assoc]

/-- The texts that a line is about, besides the gateway's own. -/
def Line.parts : Line → List String
  | welcome nick => [nick]
  | yourHost nick => [nick]
  | created nick => [nick]
  | myInfo nick => [nick]
  | noMotd nick => [nick]
  | join nick channel => [nick, channel]
  | part nick channel => [nick, channel]
  | kick author channel nick => [author, channel, nick]
  | privmsg sender target text => [sender, target, text]
  | topic nick channel text => [nick, channel, text]
  | names nick channel members => nick :: channel :: members
  | endOfNames nick channel => [nick, channel]
  | noSuchNick nick target => [nick, target]
  | needMoreParams nick command => [nick, command]
  | pong token => [token]
  | capabilities subcommand tokens => subcommand :: tokens

/-- **Nothing is escaped.** A line holds a line feed exactly if one of its parts does. -/
theorem Line.oneLine_text_iff (l : Line) : OneLine l.text ↔ ∀ p ∈ l.parts, OneLine p := by
  -- the gateway's own texts hold none
  cases l <;>
    simp +decide [text, parts, numeric, spoken, oneLine_format_iff, oneLine_spaced]

end IrcGateway.Protocol

namespace IrcGateway

open IrcGateway.Protocol IrcGateway.Text IrcGateway.Time

/-- What a client reads of all that is written to it, for a clock that shows `now`. -/
def received (now : String) (sent : List Sent) : List (Except ParseError Message) :=
  (wireLines (sent.flatMap (·.wire now))).map fun line => Message.parse (String.ofList line)

/-- The tags of a line with a stamp: its date, if the client asked for dates. -/
def dateTags (s : Session) (stamp : Stamp) (now : String) : List Tag :=
  if s.capabilities.has serverTime then [timeTag (stamp.text now)] else []

theorem received_cons (now : String) (line : Sent) (rest : List Sent) :
    received now (line :: rest) = received now [line] ++ received now rest := by
  have hwire : line.wire now ++ rest.flatMap (·.wire now)
      = (line.text now).toList ++ '\r' :: '\n' :: rest.flatMap (·.wire now) := by
    rw [Sent.wire, List.append_assoc]
    rfl
  unfold received
  rw [List.flatMap_cons, hwire, wireLines_append, List.map_append, List.flatMap_cons,
    List.flatMap_nil, List.append_nil]
  rfl

/-- What was written earlier is read apart from what was written later. -/
theorem received_append (now : String) (earlier later : List Sent) :
    received now (earlier ++ later) = received now earlier ++ received now later := by
  induction earlier with
  | nil => rfl
  | cons line rest ih =>
    rw [List.cons_append, received_cons, ih, received_cons now line rest, List.append_assoc]

namespace Protocol

/-- A line of the gateway is read as what it says, with its date if the client asked for dates. -/
theorem parse_tagged (l : Line) (s : Session) (stamp : Stamp) (clock : Int) :
    Message.parse ((s.tagged stamp l.text).text (momentText clock)) =
      (Message.parse l.text).map (.withTags (dateTags s stamp (momentText clock))) := by
  unfold Session.tagged dateTags
  cases s.capabilities.has serverTime with
  | true => exact parse_dated l stamp clock
  | false =>
    simp only [Bool.false_eq_true, if_false, Sent.text]
    cases hparse : Message.parse l.text with
    | error error => rfl
    | ok m =>
      -- the line has no tags as it is
      have htags := tags_of_parse l.head?_text hparse
      rw [Except.map, Message.withTags, ← htags]

theorem oneLine_text_tagged {l : Line} (h : OneLine l.text) (s : Session) (stamp : Stamp)
    (clock : Int) : OneLine ((s.tagged stamp l.text).text (momentText clock)) := by
  unfold Session.tagged
  split
  · rw [text_of_some]
    obtain ⟨ms, hms⟩ := exists_momentText stamp clock
    have hdate : OneLine (timeTag (momentText ms)).text := by
      simp only [timeTag, Tag.text, oneLine_append]
      exact ⟨by decide, oneLine_momentText ms⟩
    rw [hms]
    simp only [oneLine_append]
    exact ⟨⟨⟨by decide, hdate⟩, by decide⟩, h⟩
  · exact h

/-- A line of the gateway that is one line is read by itself. -/
theorem received_tagged {l : Line} (h : OneLine l.text) (s : Session) (stamp : Stamp)
    (clock : Int) :
    received (momentText clock) [s.tagged stamp l.text] =
      [(Message.parse l.text).map (.withTags (dateTags s stamp (momentText clock)))] := by
  have hone := wireLines_eq_singleton (oneLine_text_tagged h s stamp clock)
  unfold received
  rw [List.flatMap_singleton, Sent.wire, hone, List.map_singleton, String.ofList_toList,
    parse_tagged]

/-- What somebody says with a command is readable, if all parameters but the last are words. -/
theorem readable_spoken {person command : String} {params : List String}
    (hperson : ' ' ∉ person.toList) (hne : command ≠ "")
    (hcommand : (command.toList.all fun c => c.isUpper || c.isDigit) = true)
    (hwords : ∀ p ∈ params.dropLast, IsWord p) : (Line.spoken person command params).Readable where
  tags := by simp [Line.spoken]
  source := by simpa [Line.spoken] using hperson
  command_ne := hne
  command c hc := Bool.or_eq_true_iff.mp (List.all_eq_true.mp hcommand c hc)
  words := hwords

/-- Of what somebody says at least the command is read. -/
theorem command_parse_spoken {person command : String} {params : List String}
    (hperson : ' ' ∉ person.toList) (hne : command ≠ "")
    (hcommand : (command.toList.all fun c => c.isUpper || c.isDigit) = true)
    (hwords : ∀ p ∈ params.dropLast, IsWord p) (hparams : params ≠ []) :
    (Message.parse (Line.spoken person command params).format).map (·.command) = .ok command := by
  have hsplit : (Line.spoken person command params).params
      = params.dropLast ++ [params.getLast hparams] := (List.dropLast_concat_getLast hparams).symm
  rw [parse_format_of_params (readable_spoken hperson hne hcommand hwords) hsplit]
  rfl

/-- Of a private message all is read but the end of its text. -/
theorem Line.parse_privmsg {sender target body : String} (hsender : ' ' ∉ sender.toList)
    (htarget : IsWord target) :
    Message.parse (Line.privmsg sender target body).text =
      .ok (spoken sender "PRIVMSG" (target :: lastRead body)) := by
  have hreadable : (spoken sender "PRIVMSG" [target, body]).Readable :=
    readable_spoken hsender (by decide) (by decide) (by simpa using htarget)
  have hparams : (spoken sender "PRIVMSG" [target, body]).params = [target] ++ [body] := rfl
  exact parse_format_of_params hreadable hparams

end Protocol

end IrcGateway
