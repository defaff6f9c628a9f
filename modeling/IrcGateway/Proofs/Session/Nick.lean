import IrcGateway.Proofs.Protocol.RoundTrip
import IrcGateway.Proofs.Session.Inbound
import IrcGateway.Proofs.Text.OneLine

/-!
# The client's nick

A client may call itself almost anything, but never something with a line feed: what it says is read
from lines, and the line feed at the end of one is dropped. Only NICK changes the nick
(`nick_handle`), so that it is a text of one line in every run of a session (`oneLine_nick_run`).
-/

namespace IrcGateway.Session

open IrcGateway.Protocol IrcGateway.Text IrcGateway.Time

/-! ### What is read from a line -/

theorem lf_notMem_dropLast {line : List UInt8} (h : byteLines line = [line]) :
    10 ∉ line.dropLast := by
  induction line with
  | nil => simp
  | cons b bs ih =>
    rw [byteLines] at h
    split at h
    · next hb =>
      -- a line ends with its line feed
      have hbs : bs = [] := by
        have := (List.cons.inj h).1
        simpa [hb] using this.symm
      simp [hbs]
    · next hb =>
      cases hrest : byteLines bs with
      | nil =>
        rw [hrest] at h
        have hbs : bs = [] := by simpa using h
        simp [hbs]
      | cons first more =>
        -- the rest is one line too, and loses its last byte with this one
        rw [hrest] at h
        simp only [List.cons.injEq, true_and] at h
        rw [h.1, h.2] at hrest
        cases bs with
        | nil => simp
        | cons c cs =>
          rw [List.dropLast_cons_cons, List.mem_cons, not_or]
          exact ⟨Ne.symm hb, ih hrest⟩

/-- A message is read from what stands before the end of its line. -/
theorem oneLine_of_lineMessage {line : List UInt8} {m : Message} (hl : byteLines line = [line])
    (hm : lineMessage? line = some m) {p : String} (hp : p ∈ m.params) : OneLine p := by
  have hsub := mem_dropLineEnd_of_parse (parse_of_lineMessage hm) hp
  rw [String.toList_ofList] at hsub
  have hfront := lf_notMem_dropLast hl
  have hkept : ∀ cs, dropLineEnd cs ⊆ cs := fun cs => (List.rdropWhile_prefix _ _).subset
  by_cases hlast : line.getLast? = some 10
  · -- the line feed at the end becomes one of the text, and is dropped there
    obtain ⟨front, rfl⟩ := List.getLast?_eq_some_iff.mp hlast
    rw [List.dropLast_concat] at hfront
    have hlf : ∀ c ∈ ['\n'], endsLine c = true := by simp [endsLine]
    rw [Utf8.decodeLossy_concat_lf, dropLineEnd_append_of_forall hlf] at hsub
    exact fun hlf => Utf8.lf_notMem_decodeLossy hfront (hkept _ (hsub hlf))
  · -- the last line of the input has none
    have hnone : 10 ∉ line := by
      intro hmem
      cases hline : line.getLast? with
      | none => simp [List.getLast?_eq_none_iff.mp hline] at hmem
      | some last =>
        obtain ⟨front, rfl⟩ := List.getLast?_eq_some_iff.mp hline
        rw [List.dropLast_concat] at hfront
        rcases List.mem_append.mp hmem with hmem | hmem
        · exact hfront hmem
        · exact hlast (by rw [hline, List.mem_singleton.mp hmem])
    exact fun hlf => Utf8.lf_notMem_decodeLossy hnone (hkept _ (hsub hlf))

/-! ### What changes the nick -/

/-- Only NICK changes the nick, to what it says. -/
theorem nick_handle (s : Session) (m : Message) :
    (s.handle m).nick = if m.command = "NICK" then m.params.head?.getD s.nick else s.nick := by
  unfold handle
  by_cases hnick : m.command = "NICK"
  · rw [if_neg (by simp [hnick]), if_neg (by simp [hnick]), if_pos hnick, if_pos hnick]
    cases m.params with
    | nil => rfl
    | cons nick more =>
      obtain ⟨password, h⟩ := exists_settle { s with nick, nickChanges := s.nickChanges + 1 }
      simp only [h]
      rfl
  rw [if_neg hnick, if_neg hnick]
  -- the others in the order in which they are tried: PING, QUIT, USER, PASS, CAP and the rest
  split
  · split
    · next h => rw [sent_of_write h]
    · rfl
  split
  · rfl
  split
  · obtain ⟨password, h⟩ := exists_settle { s with userSeen := true }
    rw [h]
  split
  · obtain ⟨password, h⟩ := exists_setPassword s (m.params.head?.getD "")
    rw [h]
  split
  · obtain ⟨capabilities, password, sent, h⟩ := exists_handleCapability s m
    rw [h]
  · rfl

/-! ### The nick along a run -/

theorem oneLine_nick_read {s s' : Session} (hs : OneLine s.nick) (hread : s.read = some s') :
    OneLine s'.nick := by
  obtain ⟨-, hreads⟩ := reads hread
  cases hreads with
  | @line line rest hm hl =>
    obtain ⟨-, hline, -⟩ := splitLine_eq_some hl
    cases hmessage : lineMessage? line with
    | none => rwa [handleLine_eq_self hmessage]
    | some m =>
      rw [handleLine_eq_handle hmessage, nick_handle]
      split
      · -- the nick is a part of the line that was read
        cases hparams : m.params with
        | nil => exact hs
        | cons nick more =>
          have hmem : nick ∈ m.params := hparams ▸ List.mem_cons_self
          exact oneLine_of_lineMessage hline hmessage hmem
      · exact hs
  | _ => exact hs

theorem oneLine_nick_apply {s : Session} (hs : OneLine s.nick) (move : Move) :
    OneLine (move.apply s).nick := by
  -- only the reader changes the nick
  cases move with
  | receive bytes =>
    rw [Move.apply, receive]
    split <;> exact hs
  | read =>
    rw [Move.apply]
    cases hread : s.read with
    | none => exact hs
    | some s' => exact oneLine_nick_read hs hread
  | take =>
    rw [Move.apply, take]
    cases s.queue <;> exact hs
  | write time line =>
    obtain ⟨sent, h⟩ := exists_orUnchanged s time line
    rw [Move.apply, h]
    exact hs
  | _ => exact hs

/-- **The nick is a text of one line.** -/
theorem oneLine_nick_run (queueSize : Nat) (moves : List Move) :
    OneLine (run (start queueSize) moves).nick := by
  -- the nick is empty at first, and the induction is over runs from any session with such a nick
  suffices ∀ s : Session, OneLine s.nick → OneLine (run s moves).nick from
    this _ (by decide : OneLine "")
  intro s hs
  induction moves generalizing s with
  | nil => exact hs
  | cons move rest ih => exact ih _ (oneLine_nick_apply hs move)

end IrcGateway.Session
