import IrcGateway.Proofs.Protocol.Nicks
import IrcGateway.Proofs.Session.Capabilities

/-!
# What a client can call itself

NICK takes its first parameter as it comes. A parameter is a word unless it is the last of its
command and marked, so that a client which marks it can call itself anything: a text with spaces, or
nothing at all, even after it had a nick. The nick is always a word, from the first NICK on, exactly
for clients that never do so (`nick_is_as_named`). Whether the lines of the gateway can be read
depends on that, and, for the line that tells of the client being removed from a channel, on how the
nick ends.
-/

namespace IrcGateway.Session

open IrcGateway.Protocol IrcGateway.Text IrcGateway.Time

/-- The command is NICK and names a nick. -/
def NamesNick (m : Message) (nick : String) : Prop :=
  m.command = "NICK" ∧ m.params.head? = some nick

/-! ### What was said -/

/-- What was said was read from a line, and was said last at some point. -/
theorem exists_prefix_of_mem_said {s : Session} {moves : List Move} {m : Message}
    (hm : m ∈ said s moves) : (∃ line, lineMessage? line = some m) ∧
      ∃ before front, before <+: moves ∧ said s before = front ++ [m] := by
  induction moves generalizing s with
  | nil => simp [said] at hm
  | cons move rest ih =>
    rcases List.mem_append.mp hm with hnow | hlater
    · rcases said_cases s move with ⟨hsaid, -⟩ | ⟨line, _, m', -, hline, -, hsaid, -⟩
      · simp [hsaid] at hnow
      · obtain rfl : m = m' := by simpa [hsaid] using hnow
        exact ⟨⟨line, hline⟩, [move], [], List.prefix_append [move] rest, by simp [said, hsaid]⟩
    · obtain ⟨hline, before, front, hbefore, hsaid⟩ := ih hlater
      exact ⟨hline, move :: before, move.said s ++ front,
        List.cons_prefix_cons.mpr ⟨rfl, hbefore⟩, by rw [said, hsaid, List.append_assoc]⟩

/-- The nick after some commands is empty if none of them names one, and named by one otherwise. -/
theorem nickOf_cases (said : List Message) :
    (nickOf said = "" ∧ ∀ m ∈ said, ∀ nick, ¬ NamesNick m nick) ∨
      ∃ m ∈ said, NamesNick m (nickOf said) := by
  have hmem : ∀ nick, nick ∈ said.filterMap
      (fun m => if m.command = "NICK" then m.params.head? else none) ↔
        ∃ m ∈ said, NamesNick m nick := by
    intro nick
    simp [NamesNick]
  unfold nickOf
  cases hlast : (said.filterMap
      fun m => if m.command = "NICK" then m.params.head? else none).getLast? with
  | none =>
    rw [List.getLast?_eq_none_iff] at hlast
    refine .inl ⟨rfl, fun m hm nick hnames => ?_⟩
    simpa [hlast] using (hmem nick).mpr ⟨m, hm, hnames⟩
  | some nick => exact .inr ((hmem nick).mp (List.mem_of_getLast? hlast))

/-- **What a client can call itself.** At every point of a run the nick is what the last NICK names
that names one, on one line. What is named is a word or, if it is marked, any text, and then there
is no other parameter. All that was named so far was a word exactly if the nick was one at all
points since the first was named. Lines with the nick are read accordingly: the whole nick is found
in them where it fits, and not where it does not. -/
theorem nick_is_as_named (queueSize : Nat) (moves : List Move) :
    let first := start queueSize
    let s := run first moves
    (s.nick = nickOf (said first moves) ∧ OneLine s.nick) ∧
    (∀ m ∈ said first moves, ∀ nick, NamesNick m nick → IsWord nick ∨ m.params = [nick]) ∧
    ((∀ m ∈ said first moves, ∀ nick, NamesNick m nick → IsWord nick) ↔
      ∀ before, before <+: moves →
        ((run first before).nick = "" ∧ ∀ m ∈ said first before, ∀ nick, ¬ NamesNick m nick) ∨
          IsWord (run first before).nick) ∧
    (∀ place line, Line.HasNick s.nick place line →
      (place.Fits s.nick → line.Finds place s.nick) ∧
        (line.Legible → line.Finds place s.nick → place.Fits s.nick)) := by
  intro first s
  have hnick : ∀ moves, (run first moves).nick = nickOf (said first moves) := fun moves =>
    ((Registered.start queueSize).run moves).nick
  refine ⟨⟨hnick moves, oneLine_nick_run queueSize moves⟩, ?named, ⟨?always, ?atAnyPoint⟩,
    fun place line h => h.finds_iff⟩
  case named =>
    intro m hm nick hnames
    obtain ⟨⟨line, hline⟩, -⟩ := exists_prefix_of_mem_said hm
    have hwords := (readable_of_parse (parse_of_lineMessage hline)).words
    obtain ⟨more, hparams⟩ := List.head?_eq_some_iff.mp hnames.2
    -- a parameter with another one behind it is a word
    cases more with
    | nil => exact .inr hparams
    | cons q qs => exact .inl (hwords nick (by simp [hparams]))
  case always =>
    intro hall before hbefore
    obtain ⟨after, rfl⟩ := hbefore
    rw [hnick before]
    rcases nickOf_cases (said first before) with hnone | ⟨m, hm, hnames⟩
    · exact .inl hnone
    · exact .inr (hall m (said_append first before after ▸ List.mem_append_left _ hm) _ hnames)
  case atAnyPoint =>
    -- right after it was named, the nick was what is named
    intro hpoints m hm nick hnames
    obtain ⟨-, before, front, hbefore, hsaid⟩ := exists_prefix_of_mem_said hm
    have hnow : (run first before).nick = nick := by
      rw [hnick before, hsaid, nickOf_concat, if_pos hnames.1, hnames.2]
      rfl
    rcases hpoints before hbefore with ⟨-, hnone⟩ | hword
    · exact absurd hnames (hnone m (by simp [hsaid]) nick)
    · exact hnow ▸ hword

/-- A client that marks its nick is welcomed under a nick that it does not find in the welcome. That
it was removed from a channel it can read. -/
theorem al_ice_is_not_welcomed :
    let say := fun text : String => Move.receive (text.toList.map fun c => c.toNat.toUInt8)
    let moves := [say "NICK alice\r\nNICK :al ice\r\n", .read, .read]
    let s := run (start 10) moves
    s.nick = "al ice" ∧ ¬ Line.Finds .first s.nick (.welcome s.nick) ∧
      Line.Finds .second s.nick (.kick "bob" "#family" s.nick) := by
  intro say moves s
  have hnick : s.nick = "al ice" := by decide +kernel
  have hfinds := (nick_is_as_named 10 moves).2.2.2
  have hkicked : Line.HasNick s.nick .second (.kick "bob" "#family" s.nick) :=
    .kicked (by decide) ⟨by decide, by decide, by decide⟩
  refine ⟨hnick, fun hwelcome => ?_, (hfinds _ _ hkicked).1 ?_⟩
  · have hword : IsWord s.nick := (hfinds _ _ .welcome).2 trivial hwelcome
    have hspace := hword.space
    rw [hnick] at hspace
    exact hspace (by decide)
  · rw [hnick]
    intro c hc
    have hlast : c = 'e' := (Option.some.inj hc).symm
    rw [hlast]
    decide

/-- **A nick that is taken back.** A client that had a nick marks nothing as its nick, and has none
any more. -/
theorem alice_becomes_nobody :
    let say := fun text : String => Move.receive (text.toList.map fun c => c.toNat.toUInt8)
    let s := run (start 10) [say "NICK alice\r\nNICK :\r\n", .read]
    let s' := Move.apply s .read
    s.nick = "alice" ∧ s'.nick = "" ∧ s'.stopped = false := by
  decide +kernel

end IrcGateway.Session
