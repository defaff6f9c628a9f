import IrcGateway.Proofs.Protocol.Hearing

/-!
# Lines with a nick

The gateway puts the nick of its client into most of its lines, at one of three places: as the
source, as the first parameter, or as the last of two. It escapes nothing, so that a client finds
the whole nick there only if the nick is fit for that place (`finds_iff`). A source may not hold a
space, a first parameter has to be a word, and of a last parameter the end is dropped if it looks
like the end of a line.

That a nick which is not fit is never found takes more than that its parts are read as something
else, since a text that the reader takes from elsewhere in the line might be the nick by chance. It
is not if something legible stands behind the nick: then that character would be read with it, and
the text has one more of it than the nick (`isWord_of_head?_readParams`).
-/

namespace IrcGateway.Protocol

open IrcGateway.Text

/-! ### Places of a line -/

/-- Where a nick can stand in a line. -/
inductive Place where
  | source
  | first
  | second
  deriving DecidableEq, Repr

namespace Place

/-- What a message has at a place. -/
def find : Place → Message → Option String
  | source, m => m.source
  | first, m => m.params[0]?
  | second, m => m.params[1]?

/-- The text can be read as a whole from a place; the second parameter is the last. -/
def Fits : Place → String → Prop
  | source, text => ' ' ∉ text.toList
  | first, text => IsWord text
  | second, text => ∀ c, text.toList.getLast? = some c → c ≠ '\r' ∧ c ≠ '\n'

end Place

/-- A client that reads the line finds the text at the place. -/
def Line.Finds (place : Place) (text : String) (l : Line) : Prop :=
  ∃ m, Message.parse l.text = .ok m ∧ place.find m = some text

/-- The line has the nick at a place. Whoever else is the source has no space, and a nick is kicked
from a channel that is a word. -/
inductive Line.HasNick (nick : String) : Place → Line → Prop where
  | welcome : HasNick nick .first (.welcome nick)
  | yourHost : HasNick nick .first (.yourHost nick)
  | created : HasNick nick .first (.created nick)
  | myInfo : HasNick nick .first (.myInfo nick)
  | noMotd : HasNick nick .first (.noMotd nick)
  | join (channel : String) : HasNick nick .source (.join nick channel)
  | part (channel : String) : HasNick nick .source (.part nick channel)
  | kicks (channel other : String) : HasNick nick .source (.kick nick channel other)
  | kicked {author channel : String} (hauthor : ' ' ∉ author.toList) (hchannel : IsWord channel) :
      HasNick nick .second (.kick author channel nick)
  | speaks (target body : String) : HasNick nick .source (.privmsg nick target body)
  | told {sender : String} (hsender : ' ' ∉ sender.toList) (body : String) :
      HasNick nick .first (.privmsg sender nick body)
  | topic (channel title : String) : HasNick nick .first (.topic nick channel title)
  | names (channel : String) (members : List String) :
      HasNick nick .first (.names nick channel members)
  | endOfNames (channel : String) : HasNick nick .first (.endOfNames nick channel)
  | noSuchNick (target : String) : HasNick nick .first (.noSuchNick nick target)
  | needMoreParams (command : String) : HasNick nick .first (.needMoreParams nick command)

/-- The text holds a character that is more than a space, a colon or the end of a line. -/
def Legible (text : String) : Prop :=
  (text.toList.any fun c => c != ' ' && c != ':' && !endsLine c) = true

instance (text : String) : Decidable (Legible text) :=
  inferInstanceAs (Decidable (_ = true))

/-- Behind its first parameter the line has something legible. In most lines the gateway sees to
that, and in the others it is a channel or what somebody says. -/
def Line.Legible : Line → Prop
  | topic _ channel _ => Protocol.Legible channel
  | privmsg _ _ body => Protocol.Legible body
  | _ => True

/-! ### What is read behind a command -/

theorem mem_dropLineEnd {c : Char} (hc : endsLine c = false) {cs : List Char} (hmem : c ∈ cs) :
    c ∈ dropLineEnd cs := by
  obtain ⟨front, back, rfl⟩ := List.append_of_mem hmem
  rw [dropLineEnd_append hc]
  simp

/-- Behind the command and a space, a line is read as its parameters, its end apart. -/
theorem parse_behind {m : Message} (h : m.Readable) {line : String} {body : List Char}
    (hline : line.toList = tagsChars m.tags ++ sourceChars m.source ++ m.command.toList
      ++ ' ' :: body) :
    Message.parse line
      = .ok { m with params := readParams ((dropLineEnd body).dropWhile (· == ' ')) } := by
  rw [Message.parse, hline, dropLineEnd_append (by rfl), trimStart_format h,
    readLine_append h (by simp)]
  rfl

/-- Every parameter stands behind a space. -/
theorem exists_paramsText_cons (p : String) (ps : List String) :
    ∃ body, (paramsText (p :: ps)).toList = ' ' :: body ∧
      ∀ q ∈ p :: ps, ∀ c ∈ q.toList, c ∈ body := by
  induction ps generalizing p with
  | nil =>
    refine ⟨markChars p ++ p.toList, paramsText_concat [] p, fun q hq c hc => ?_⟩
    rw [List.mem_singleton.mp hq] at hc
    exact List.mem_append_right _ hc
  | cons q qs ih =>
    obtain ⟨body, htext, hmem⟩ := ih q
    refine ⟨p.toList ++ ' ' :: body, by simp [paramsText, htext], ?_⟩
    intro r hr c hc
    rcases List.mem_cons.mp hr with rfl | hr
    · exact List.mem_append_left _ hc
    · exact List.mem_append_right _ (List.mem_cons_of_mem _ (hmem r hr c hc))

/-- A nick is read as the first parameter only if it is a word, where something legible follows. -/
theorem isWord_of_head?_readParams {nick : String} {rest : List Char} {c : Char} (hc : c ∈ rest)
    (hspace : c ≠ ' ') (hcolon : c ≠ ':')
    (hread : (readParams ((nick.toList ++ ' ' :: rest).dropWhile (· == ' '))).head? = some nick) :
    IsWord nick := by
  have hcut := List.takeWhile_append_dropWhile (p := (· == ' ')) (l := nick.toList ++ ' ' :: rest)
  have hbegins := List.head?_dropWhile_not (· == ' ') (nick.toList ++ ' ' :: rest)
  have hgap : c ∉ (nick.toList ++ ' ' :: rest).takeWhile (· == ' ') := fun hmem =>
    hspace (eq_of_beq (List.mem_takeWhile_imp (p := (· == ' ')) hmem))
  generalize (nick.toList ++ ' ' :: rest).dropWhile (· == ' ') = cs at *
  -- the parameters are none, a marked text, or begin with a word
  fun_cases readParams cs with
  | case1 => simp [readParams] at hread
  | case2 trailing =>
    -- the marked text is all that follows, and has one legible character more than the nick
    rw [readParams, List.head?_cons, Option.some.injEq] at hread
    rw [← hread, String.toList_ofList] at hcut
    have hcount := congrArg (List.count c) hcut
    rw [← hread, String.toList_ofList] at hgap
    have hmore : 0 < List.count c rest := List.count_pos_iff.mpr hc
    simp only [List.count_append, List.count_cons, List.count_eq_zero_of_not_mem hgap] at hcount
    simp [Ne.symm hspace, Ne.symm hcolon] at hcount
    omega
  | case3 d ds hd =>
    rw [readParams.eq_3 d ds hd, List.head?_cons, Option.some.injEq] at hread
    have hd' : d ≠ ' ' := by simpa using hbegins
    have hhead : (nextWord (d :: ds)).1.head? = some d := head?_nextWord hd'
    subst hread
    refine ⟨?_, ?_, ?_⟩
    · intro hempty
      rw [String.ofList_eq_empty_iff] at hempty
      simp [hempty] at hhead
    · rw [String.toList_ofList]
      exact space_notMem_nextWord _
    · rw [String.toList_ofList, hhead]
      exact fun heq => hd (Option.some.inj heq)

/-! ### Lines with a nick -/

section HasNick

variable {nick : String} {l : Line}

/-- A line with the nick at its source is a message that the nick says. -/
theorem Line.HasNick.exists_spoken (h : HasNick nick .source l) :
    ∃ command p ps, l.text = (spoken nick command (p :: ps)).format ∧ command ≠ "" ∧
      (command.toList.all fun c => c.isUpper || c.isDigit) = true := by
  cases h with
  | join channel => exact ⟨"JOIN", _, _, rfl, by decide, by decide⟩
  | part channel => exact ⟨"PART", _, _, rfl, by decide, by decide⟩
  | kicks channel other => exact ⟨"KICK", _, _, rfl, by decide, by decide⟩
  | speaks target body => exact ⟨"PRIVMSG", _, _, rfl, by decide, by decide⟩

/-- A line with the nick as its first parameter is a message with more parameters behind it. -/
theorem Line.HasNick.exists_addressed (h : HasNick nick .first l) :
    ∃ person command p ps, l.text = (spoken person command (nick :: p :: ps)).format ∧
      ' ' ∉ person.toList ∧ command ≠ "" ∧
      (command.toList.all fun c => c.isUpper || c.isDigit) = true ∧
      (l.Legible → ∃ q ∈ p :: ps, Protocol.Legible q) := by
  have hserver : ' ' ∉ serverName.toList := by decide
  -- What is legible behind the nick is a fixed text, but where the parameter is free: what is told
  -- and the title of a channel are legible only if the line is.
  cases h with
  | welcome =>
    have htext : Protocol.Legible ("Welcome to " ++ serverName ++ ", " ++ nick ++ "!") := by
      simp [Protocol.Legible, endsLine]
    exact ⟨_, "001", _, _, rfl, hserver, by decide, by decide,
      fun _ => ⟨_, List.mem_cons_self, htext⟩⟩
  | yourHost =>
    exact ⟨_, "002", _, _, rfl, hserver, by decide, by decide,
      fun _ => ⟨_, List.mem_cons_self, by decide⟩⟩
  | created =>
    exact ⟨_, "003", _, _, rfl, hserver, by decide, by decide,
      fun _ => ⟨_, List.mem_cons_self, by decide⟩⟩
  | myInfo =>
    exact ⟨_, "004", _, _, rfl, hserver, by decide, by decide,
      fun _ => ⟨_, List.mem_cons_self, by decide⟩⟩
  | noMotd =>
    exact ⟨_, "422", _, _, rfl, hserver, by decide, by decide,
      fun _ => ⟨_, List.mem_cons_self, by decide⟩⟩
  | told hsender body =>
    exact ⟨_, "PRIVMSG", _, _, rfl, hsender, by decide, by decide,
      fun hlegible => ⟨_, List.mem_cons_self, hlegible⟩⟩
  | topic channel title =>
    exact ⟨_, "332", _, _, rfl, hserver, by decide, by decide,
      fun hlegible => ⟨_, List.mem_cons_self, hlegible⟩⟩
  | names channel members =>
    exact ⟨_, "353", _, _, rfl, hserver, by decide, by decide,
      fun _ => ⟨"=", List.mem_cons_self, by decide⟩⟩
  | endOfNames channel =>
    exact ⟨_, "366", _, _, rfl, hserver, by decide, by decide,
      fun _ => ⟨"End of /NAMES list", by simp, by decide⟩⟩
  | noSuchNick target =>
    exact ⟨_, "401", _, _, rfl, hserver, by decide, by decide,
      fun _ => ⟨"No such nick/channel", by simp, by decide⟩⟩
  | needMoreParams command =>
    exact ⟨_, "461", _, _, rfl, hserver, by decide, by decide,
      fun _ => ⟨"Not enough parameters", by simp, by decide⟩⟩

/-- As a source, a nick is found unless it holds a space. -/
theorem Line.HasNick.finds_source_iff (h : HasNick nick .source l) :
    l.Finds .source nick ↔ Place.Fits .source nick := by
  obtain ⟨command, p, ps, htext, hne, hcommand⟩ := h.exists_spoken
  constructor
  · rintro ⟨m, hparse, hfound⟩
    exact (readable_of_parse hparse).source nick hfound
  · -- what stands before the parameters is read for itself
    intro hfits
    let opening : Message := { source := some nick, command }
    have hopening : opening.Readable :=
      @readable_spoken nick command [] hfits hne hcommand (by simp)
    obtain ⟨body, hparams, -⟩ := exists_paramsText_cons p ps
    have hline : l.text.toList = tagsChars opening.tags ++ sourceChars opening.source
        ++ opening.command.toList ++ ' ' :: body := by
      rw [htext, format_toList, ← hparams]
      rfl
    exact ⟨_, parse_behind hopening hline, rfl⟩

/-- As a first parameter, a nick is found if it is a word, and only then if something legible stands
behind it. -/
theorem Line.HasNick.finds_first_iff (h : HasNick nick .first l) :
    (Place.Fits .first nick → l.Finds .first nick) ∧
      (l.Legible → l.Finds .first nick → Place.Fits .first nick) := by
  obtain ⟨person, command, p, ps, htext, hperson, hne, hcommand, hlegible⟩ := h.exists_addressed
  let opening : Message := { source := some person, command }
  have hopening : opening.Readable :=
    @readable_spoken person command [] hperson hne hcommand (by simp)
  obtain ⟨body, hparams, hmem⟩ := exists_paramsText_cons p ps
  have hline : l.text.toList = tagsChars opening.tags ++ sourceChars opening.source
      ++ opening.command.toList ++ ' ' :: (nick.toList ++ ' ' :: body) := by
    rw [htext, format_toList, ← hparams]
    simp [Line.spoken, opening, paramsText]
  -- the space behind the nick keeps the end of the line from it
  have hparse := parse_behind hopening hline
  rw [dropLineEnd_append (by rfl)] at hparse
  constructor
  · -- a word is read as the first parameter
    intro hword
    have hread := readParams_words (List.forall_mem_singleton.mpr hword)
      (show ∀ c, (' ' :: dropLineEnd body).head? = some c → c = ' ' by simp)
    have hfirst : readParams ((nick.toList ++ ' ' :: dropLineEnd body).dropWhile (· == ' '))
        = nick :: readParams ((dropLineEnd body).dropWhile (· == ' ')) := by
      simpa [wordsChars] using hread
    exact ⟨_, hparse, by simp [Place.find, hfirst]⟩
  · -- and what is read there is a word, if what follows does not vanish
    rintro hlegible' ⟨m, hparse', hfound⟩
    rw [hparse, Except.ok.injEq] at hparse'
    obtain ⟨q, hq, hany⟩ := hlegible hlegible'
    obtain ⟨c, hc, hordinary⟩ := List.any_eq_true.mp hany
    simp only [Bool.and_eq_true, bne_iff_ne, Bool.not_eq_true'] at hordinary
    refine isWord_of_head?_readParams (mem_dropLineEnd hordinary.2 (hmem q hq c hc))
      hordinary.1.1 hordinary.1.2 ?_
    rw [← hparse'] at hfound
    simpa [Place.find, List.head?_eq_getElem?] using hfound

/-- As a last parameter, a nick is found unless it ends like a line. -/
theorem Line.HasNick.finds_second_iff (h : HasNick nick .second l) :
    l.Finds .second nick ↔ Place.Fits .second nick := by
  cases h with
  | @kicked author channel hauthor hchannel =>
    have hreadable : (spoken author "KICK" [channel, nick]).Readable :=
      readable_spoken hauthor (by decide) (by decide) (by simpa using hchannel)
    have hparse : Message.parse (Line.kick author channel nick).text = _ :=
      parse_format_of_params hreadable (show _ = [channel] ++ [nick] from rfl)
    have hfits : Place.Fits .second nick ↔ lastRead nick = [nick] := by
      rw [lastRead_eq_singleton_iff]
      simp only [Place.Fits, endsLine_eq_false_iff]
    rw [hfits]
    unfold Finds
    rw [hparse]
    constructor
    · rintro ⟨m, hm, hfound⟩
      rw [← Except.ok.inj hm] at hfound
      -- the last parameter is gone, or it is what is left of it
      unfold lastRead at hfound ⊢
      split at hfound
      · simp [Place.find] at hfound
      · next hleft =>
        rw [if_neg hleft]
        simpa [Place.find] using hfound
    · intro hwhole
      exact ⟨_, rfl, by simp [Place.find, hwhole]⟩

/-- **What a client finds of a nick.** A nick that fits a place is found there as a whole. One that
does not is not, where something legible stands behind it. -/
theorem Line.HasNick.finds_iff {place : Place} (h : HasNick nick place l) :
    (place.Fits nick → l.Finds place nick) ∧
      (l.Legible → l.Finds place nick → place.Fits nick) := by
  cases place with
  | source => exact ⟨h.finds_source_iff.mpr, fun _ => h.finds_source_iff.mp⟩
  | first => exact h.finds_first_iff
  | second => exact ⟨h.finds_second_iff.mpr, fun _ => h.finds_second_iff.mp⟩

end HasNick

end IrcGateway.Protocol
