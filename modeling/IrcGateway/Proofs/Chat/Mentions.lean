import IrcGateway.Chat.Rendering
import Mathlib.Data.List.Nodup
import Mathlib.Data.List.Perm.Basic
import Mathlib.Data.List.TakeWhile

/-!
# Mentions at once and one after the other

A mention is an at sign with a token behind it, the longest run of letters, digits and underscores.
Replacing mentions at once (`substitute`) goes through a text from left to right, looks each token
behind an at sign up, and does not look into what it puts in. Mentions of one person are replaced
like that (`replaceMention_eq`), but those of several people one after the other, each in the text
that the others have left.

Two substitutions one after the other are one substitution, in which what the first puts in has gone
through the second (`substitute_substitute`). The argument is that no mention begins in one part of
the text and ends in another: what is put in stands between an at sign and a character that
continues no token (`substitute_append`). By it the loop over all people is a substitution, too
(`resolveMentions_eq`), and each name in it is as the people listed later leave it.

It is the intended substitution exactly if nobody's name mentions somebody else of the list
(`one_after_the_other`).
-/

namespace IrcGateway.Chat

open IrcGateway.Text IrcGateway.Service

/-! ### Tokens -/

/-- The token that a text begins with, empty if it begins with something else. -/
def token (cs : List Char) : List Char :=
  cs.takeWhile continuesToken

/-- The text behind its token. -/
def behind (cs : List Char) : List Char :=
  cs.dropWhile continuesToken

/-- A text that consists of one token. -/
def IsToken (cs : List Char) : Prop :=
  ∀ c ∈ cs, continuesToken c = true

/-- A text that ends the token before it. -/
def Ends (cs : List Char) : Prop :=
  ∀ c ∈ cs.head?, continuesToken c = false

theorem continuesToken_at : continuesToken '@' = false := by
  decide +kernel

theorem continuesToken_of_isDigit {c : Char} (h : c.isDigit = true) : continuesToken c = true := by
  have halphanum : c.isAlphanum = true := by
    change (c.isAlpha || c.isDigit) = true
    rw [h, Bool.or_true]
  rw [continuesToken, isLetterOrDigit_of_isAlphanum halphanum, Bool.true_or]

theorem ends_iff {cs : List Char} : Ends cs ↔ ¬ cs.head?.any continuesToken = true := by
  unfold Ends
  cases cs.head? <;> simp

theorem ends_at (cs : List Char) : Ends ('@' :: cs) := by
  intro c hc
  rw [← Option.mem_some.mp hc]
  exact continuesToken_at

theorem token_append_behind (cs : List Char) : token cs ++ behind cs = cs :=
  List.takeWhile_append_dropWhile

theorem isToken_token (cs : List Char) : IsToken (token cs) :=
  fun _ hc => List.mem_takeWhile_imp hc

theorem ends_behind (cs : List Char) : Ends (behind cs) := by
  intro c hc
  have hdrop := List.head?_dropWhile_not continuesToken cs
  rw [behind] at hc
  rw [Option.mem_def.mp hc] at hdrop
  exact hdrop

/-- A text that ends tokens has no part in the token before it. -/
theorem token_append {rest : List Char} (h : Ends rest) (cs : List Char) :
    token (cs ++ rest) = token cs ∧ behind (cs ++ rest) = behind cs ++ rest := by
  unfold token behind
  induction cs with
  | nil =>
    cases rest with
    | nil => exact ⟨rfl, rfl⟩
    | cons c rest => simp [h c rfl]
  | cons c cs ih => by_cases hc : continuesToken c = true <;> simp [hc, ih]

theorem IsToken.token_eq {cs : List Char} (h : IsToken cs) : token cs = cs :=
  List.takeWhile_eq_self_iff.mpr h

theorem IsToken.behind_eq {cs : List Char} (h : IsToken cs) : behind cs = [] :=
  List.dropWhile_eq_nil_iff.mpr h

theorem IsToken.token_append {cs rest : List Char} (h : IsToken cs) (hrest : Ends rest) :
    token (cs ++ rest) = cs ∧ behind (cs ++ rest) = rest := by
  rw [(Chat.token_append hrest cs).1, (Chat.token_append hrest cs).2, h.token_eq, h.behind_eq]
  exact ⟨rfl, rfl⟩

/-- A token goes on if what stands behind it does not end it. -/
theorem IsToken.token_append_ne {cs rest : List Char} (h : IsToken cs) (hrest : ¬ Ends rest) :
    token (cs ++ rest) ≠ cs := by
  intro heq
  have hrest' : token rest = [] := by
    rw [token, List.takeWhile_append_of_pos h] at heq
    exact List.append_right_eq_self.mp heq
  have hbehind := token_append_behind rest
  rw [hrest', List.nil_append] at hbehind
  exact hrest (hbehind ▸ ends_behind rest)

/-! ### Replacing mentions at once -/

/-- The text with every token behind an at sign replaced by what `names` has for it. -/
def substitute (names : List Char → Option (List Char)) : List Char → List Char
  | [] => []
  | c :: cs =>
    if c = '@' then '@' :: ((names (token cs)).getD (token cs) ++ substitute names (behind cs))
    else c :: substitute names cs
termination_by cs => cs.length
decreasing_by
  · exact Nat.lt_succ_of_le (List.length_dropWhile_le _ cs)
  · exact Nat.lt_succ_self _

section Substitute

variable (names : List Char → Option (List Char))

@[simp]
theorem substitute_nil : substitute names [] = [] := by
  rw [substitute]

theorem substitute_at (cs : List Char) :
    substitute names ('@' :: cs) =
      '@' :: ((names (token cs)).getD (token cs) ++ substitute names (behind cs)) := by
  rw [substitute, if_pos rfl]

theorem substitute_cons {c : Char} (h : c ≠ '@') (cs : List Char) :
    substitute names (c :: cs) = c :: substitute names cs := by
  rw [substitute, if_neg h]

/-- Outside a mention a token stays. -/
theorem substitute_token_append {cs : List Char} (h : IsToken cs) (rest : List Char) :
    substitute names (cs ++ rest) = cs ++ substitute names rest := by
  induction cs with
  | nil => rfl
  | cons c cs ih =>
    obtain ⟨hc, hcs⟩ := List.forall_mem_cons.mp h
    have hne : c ≠ '@' := by
      rintro rfl
      exact absurd hc (by rw [continuesToken_at]; exact Bool.false_ne_true)
    rw [List.cons_append, substitute_cons names hne, ih hcs, List.cons_append]

/-- A mention that `names` has nothing for stays. -/
theorem substitute_at_of_none {cs : List Char} (h : names (token cs) = none) :
    substitute names ('@' :: cs) = '@' :: substitute names cs := by
  rw [substitute_at, h, Option.getD_none, ← substitute_token_append names (isToken_token cs),
    token_append_behind]

/-- A text that is a mention is replaced as a whole. -/
theorem substitute_mention {cs : List Char} (h : IsToken cs) :
    substitute names ('@' :: cs) = '@' :: (names cs).getD cs := by
  rw [substitute_at, h.token_eq, h.behind_eq, substitute_nil, List.append_nil]

/-- What is put in stands behind the at sign, so that it still ends what comes before. -/
theorem ends_substitute {cs : List Char} (h : Ends cs) : Ends (substitute names cs) := by
  cases cs with
  | nil => rwa [substitute_nil]
  | cons c cs =>
    by_cases hc : c = '@'
    · rw [hc, substitute_at]
      exact ends_at _
    · rw [substitute_cons names hc]
      exact h

/-- No mention reaches into a text that ends tokens. -/
theorem substitute_append {rest : List Char} (h : Ends rest) (cs : List Char) :
    substitute names (cs ++ rest) = substitute names cs ++ substitute names rest := by
  fun_induction substitute names cs with
  | case1 => rfl
  | case2 cs ih =>
    rw [List.cons_append, substitute_at, (token_append h cs).1, (token_append h cs).2, ih,
      List.cons_append, List.append_assoc]
  | case3 c cs hc ih => rw [List.cons_append, substitute_cons names hc, ih, List.cons_append]

end Substitute

/-- **One substitution after the other.** It is one substitution, if that replaces each mention by
what the second makes of what the first puts in its place. -/
theorem substitute_substitute {first second both : List Char → Option (List Char)}
    (h : ∀ word, IsToken word →
      '@' :: (both word).getD word = substitute second ('@' :: (first word).getD word))
    (cs : List Char) : substitute second (substitute first cs) = substitute both cs := by
  fun_induction substitute first cs with
  | case1 => rw [substitute_nil, substitute_nil]
  | case2 cs ih =>
    -- what the first puts in stands between the at sign and something that ends it
    have hends : Ends (substitute first (behind cs)) := ends_substitute first (ends_behind cs)
    calc substitute second
          ('@' :: ((first (token cs)).getD (token cs) ++ substitute first (behind cs)))
      _ = substitute second ('@' :: (first (token cs)).getD (token cs))
            ++ substitute second (substitute first (behind cs)) := by
          rw [← List.cons_append, substitute_append second hends]
      _ = ('@' :: (both (token cs)).getD (token cs)) ++ substitute both (behind cs) := by
          rw [← h _ (isToken_token cs), ih]
      _ = substitute both ('@' :: cs) := by rw [substitute_at, List.cons_append]
  | case3 c cs hc ih => rw [substitute_cons second hc, substitute_cons both hc, ih]

/-! ### Texts that stay -/

/-- The text has an at sign with `user` behind it, as a whole token. -/
def Mentions (cs user : List Char) : Prop :=
  ∃ before after, cs = before ++ '@' :: (user ++ after) ∧ Ends after

theorem Mentions.append_left {cs user : List Char} (h : Mentions cs user) (before : List Char) :
    Mentions (before ++ cs) user := by
  obtain ⟨front, after, rfl, hends⟩ := h
  exact ⟨before ++ front, after, by rw [List.append_assoc], hends⟩

theorem mentions_token (cs : List Char) : Mentions ('@' :: cs) (token cs) :=
  ⟨[], behind cs, by rw [token_append_behind, List.nil_append], ends_behind cs⟩

/-- A text stays if what it mentions is replaced by itself or not at all. -/
theorem substitute_eq_self {names : List Char → Option (List Char)} {cs : List Char}
    (h : ∀ word, Mentions cs word → (names word).getD word = word) : substitute names cs = cs := by
  fun_induction substitute names cs with
  | case1 => rfl
  | case2 cs ih =>
    have hbehind : ∀ word, Mentions (behind cs) word → (names word).getD word = word := by
      intro word hword
      have hlonger := hword.append_left ('@' :: token cs)
      rw [List.cons_append, token_append_behind] at hlonger
      exact h word hlonger
    rw [h _ (mentions_token cs), ih hbehind, token_append_behind]
  | case3 c cs hc ih =>
    rw [ih fun word hword => h word (hword.append_left [c])]

/-! ### The mentions of one person -/

/-- A name for one token alone. -/
def single (user name : List Char) (word : List Char) : Option (List Char) :=
  if word = user then some name else none

theorem single_of_ne {user word : List Char} (h : word ≠ user) (name : List Char) :
    single user name word = none :=
  if_neg h

/-- What begins with an at sign and `user` consists of these and of what is behind them. -/
theorem eq_append_of_isPrefixOf {user cs : List Char} {c : Char}
    (h : ('@' :: user).isPrefixOf (c :: cs) = true) :
    c = '@' ∧ cs = user ++ cs.drop user.length := by
  obtain ⟨hc, hcs⟩ := List.cons_prefix_cons.mp (List.isPrefixOf_iff_prefix.mp h)
  exact ⟨hc.symm, (List.prefix_iff_eq_append.mp hcs).symm⟩

theorem replaceMention_eq {user : List Char} (h : IsToken user) (name cs : List Char) :
    replaceMention user name cs = substitute (single user name) cs := by
  fun_induction replaceMention user name cs with
  | case1 => rw [substitute_nil]
  | case2 c cs hprefix after hcontinues ih =>
    -- the token is longer than `user`
    obtain ⟨rfl, hcs⟩ := eq_append_of_isPrefixOf hprefix
    have hne : token cs ≠ user :=
      hcs ▸ h.token_append_ne fun hends => ends_iff.mp hends hcontinues
    rw [substitute_at_of_none _ (single_of_ne hne name), ih]
    conv_rhs => rw [hcs, substitute_token_append _ h]
  | case3 c cs hprefix after hends ih =>
    obtain ⟨rfl, hcs⟩ := eq_append_of_isPrefixOf hprefix
    obtain ⟨htoken, hbehind⟩ := h.token_append (ends_iff.mpr hends)
    rw [ih]
    conv_rhs => rw [hcs, substitute_at, htoken, hbehind, single, if_pos rfl, Option.getD_some]
  | case4 c cs hprefix ih =>
    rw [ih]
    by_cases hc : c = '@'
    · -- a token that is `user` would have made it a mention
      have hne : token cs ≠ user := by
        rintro rfl
        refine hprefix (List.isPrefixOf_iff_prefix.mpr (List.cons_prefix_cons.mpr ⟨hc.symm, ?_⟩))
        exact List.takeWhile_prefix _
      rw [hc, substitute_at_of_none _ (single_of_ne hne name)]
    · rw [substitute_cons _ hc]

/-- Each replaced mention changes the length of the text by the same number. -/
theorem exists_length_substitute_single (user name cs : List Char) :
    ∃ k, (substitute (single user name) cs).length + k * user.length
      = cs.length + k * name.length := by
  fun_induction substitute (single user name) cs with
  | case1 => exact ⟨0, by simp⟩
  | case2 cs ih =>
    obtain ⟨k, hk⟩ := ih
    have hcs := congrArg List.length (token_append_behind cs)
    rw [List.length_append] at hcs
    by_cases htoken : token cs = user
    · -- one more word is replaced, here
      refine ⟨k + 1, ?_⟩
      rw [single, if_pos htoken, Option.getD_some, List.length_cons, List.length_append,
        List.length_cons, Nat.succ_mul, Nat.succ_mul]
      rw [htoken] at hcs
      omega
    · refine ⟨k, ?_⟩
      rw [single_of_ne htoken, Option.getD_none, List.length_cons, List.length_append,
        List.length_cons]
      omega
  | case3 c cs hc ih =>
    obtain ⟨k, hk⟩ := ih
    exact ⟨k, by rw [List.length_cons, List.length_cons]; omega⟩

/-- A text that mentions somebody does not stay, unless the name put in is what was mentioned. -/
theorem name_eq_of_substitute_eq_self {user name cs : List Char} (hm : Mentions cs user)
    (hu : IsToken user) (hs : substitute (single user name) cs = cs) : name = user := by
  fun_induction substitute (single user name) cs with
  | case1 =>
    obtain ⟨before, after, hnil, -⟩ := hm
    exact absurd hnil.symm (by simp)
  | case2 cs ih =>
    have hcs := token_append_behind cs
    have hrest := (List.cons.inj hs).2
    by_cases htoken : token cs = user
    · -- what comes after the first mention has changed its length by as much as the mention
      rw [single, if_pos htoken, Option.getD_some] at hrest
      rw [htoken] at hcs
      obtain ⟨k, hk⟩ := exists_length_substitute_single user name (behind cs)
      have hlen := congrArg List.length (hrest.trans hcs.symm)
      rw [List.length_append, List.length_append] at hlen
      have hmul : (k + 1) * name.length = (k + 1) * user.length := by
        rw [Nat.succ_mul, Nat.succ_mul]
        omega
      have hlength : name.length = user.length := Nat.eq_of_mul_eq_mul_left (Nat.succ_pos k) hmul
      exact (List.append_inj (hrest.trans hcs.symm) hlength).1
    · -- the mention is further on, behind the token
      rw [single_of_ne htoken, Option.getD_none] at hrest
      have hbehind := List.append_cancel_left (hrest.trans hcs.symm)
      refine ih ?_ hbehind
      obtain ⟨before, after, heq, hends⟩ := hm
      cases before with
      | nil =>
        rw [(List.cons.inj heq).2] at htoken
        exact absurd (hu.token_append hends).1 htoken
      | cons c before =>
        have htail : cs = before ++ '@' :: (user ++ after) := (List.cons.inj heq).2
        exact ⟨behind before, after, by rw [htail, (token_append (ends_at _) before).2], hends⟩
  | case3 c cs hc ih =>
    refine ih ?_ (List.cons.inj hs).2
    obtain ⟨before, after, heq, hends⟩ := hm
    cases before with
    | nil => exact absurd (List.cons.inj heq).1 hc
    | cons d before => exact ⟨before, after, (List.cons.inj heq).2, hends⟩

/-! ### The mentions of several people -/

section Resolve

variable (account : Account) (members : List Participant)

theorem resolveMentions_cons_of_none {id : ContactId}
    (h : mentionName? account members id = none) (later : List ContactId) (text : String) :
    resolveMentions account members (id :: later) text =
      resolveMentions account members later text := by
  rw [resolveMentions, List.foldl_cons, h]
  rfl

theorem resolveMentions_cons_of_some {id : ContactId} {name : String}
    (h : mentionName? account members id = some name) (later : List ContactId) (text : String) :
    resolveMentions account members (id :: later) text =
      resolveMentions account members later
        (String.ofList (replaceMention id.user.toList name.toList text.toList)) := by
  rw [resolveMentions, List.foldl_cons, h]
  rfl

theorem toList_at (name : String) : ("@" ++ name).toList = '@' :: name.toList :=
  String.toList_append

theorem resolveMentions_append (mentioned later : List ContactId) (text : String) :
    resolveMentions account members (mentioned ++ later) text =
      resolveMentions account members later (resolveMentions account members mentioned text) :=
  List.foldl_append

/-- The name of the listed person with this user part, if there is one with a name. -/
def named? (mentioned : List ContactId) (word : List Char) : Option (List Char) :=
  (mentioned.find? fun id => id.user.toList == word).bind fun id =>
    (mentionName? account members id).map String.toList

/-- What stands behind the at sign for a listed person in the end: the name, as the people listed
later leave it. -/
def shown? : List ContactId → List Char → Option (List Char)
  | [], _ => none
  | id :: later, word =>
    match mentionName? account members id with
    | some name =>
      if word = id.user.toList then
        some (resolveMentions account members later ("@" ++ name)).toList.tail
      else shown? later word
    | none => shown? later word

/-- **One person after the other.** Together the replacements are a substitution. -/
theorem resolveMentions_eq {mentioned : List ContactId}
    (h : ∀ id ∈ mentioned, IsToken id.user.toList) (text : String) :
    (resolveMentions account members mentioned text).toList =
      substitute (shown? account members mentioned) text.toList := by
  induction mentioned generalizing text with
  | nil => exact (substitute_eq_self fun word _ => rfl).symm
  | cons id later ih =>
    obtain ⟨hid, hlater⟩ := List.forall_mem_cons.mp h
    cases hname : mentionName? account members id with
    | none =>
      rw [resolveMentions_cons_of_none account members hname, ih hlater]
      congr 1
      funext word
      rw [shown?, hname]
    | some name =>
      rw [resolveMentions_cons_of_some account members hname, ih hlater, String.toList_ofList,
        replaceMention_eq hid]
      refine substitute_substitute (fun word hword => ?_) _
      by_cases hown : word = id.user.toList
      · -- the name goes through what is left of the loop
        have hshown := ih hlater ("@" ++ name)
        rw [toList_at, substitute_at] at hshown
        rw [shown?, hname, single, if_pos hown, Option.getD_some]
        simp only [if_pos hown, Option.getD_some, hshown, substitute_at, List.tail_cons]
      · rw [single_of_ne hown, Option.getD_none, substitute_mention _ hword, shown?, hname]
        simp only [if_neg hown]

/-- A text that no listed person's name changes comes out as it is. -/
theorem resolveMentions_eq_self {mentioned : List ContactId} {text : String}
    (h : ∀ id ∈ mentioned, ∀ name, mentionName? account members id = some name →
      replaceMention id.user.toList name.toList text.toList = text.toList) :
    resolveMentions account members mentioned text = text := by
  induction mentioned with
  | nil => rfl
  | cons id later ih =>
    obtain ⟨hid, hlater⟩ := List.forall_mem_cons.mp h
    cases hname : mentionName? account members id with
    | none => rw [resolveMentions_cons_of_none account members hname, ih hlater]
    | some name =>
      rw [resolveMentions_cons_of_some account members hname, hid name hname, String.ofList_toList,
        ih hlater]

/-! ### At once -/

/-- Nobody's name, with the at sign that is put before it, mentions somebody else of the list,
unless that one is called what they are mentioned by. -/
def NamesApart (mentioned : List ContactId) : Prop :=
  ∀ id ∈ mentioned, ∀ other ∈ mentioned, id ≠ other →
    ∀ name, mentionName? account members id = some name →
    ∀ name', mentionName? account members other = some name' →
      Mentions ('@' :: name.toList) other.user.toList → name' = other.user

variable {account members}

theorem named?_eq_some_iff {mentioned : List ContactId}
    (hdistinct : (mentioned.map ContactId.user).Nodup) {word shown : List Char} :
    named? account members mentioned word = some shown ↔
      ∃ id ∈ mentioned, id.user.toList = word ∧
        ∃ name, mentionName? account members id = some name ∧ name.toList = shown := by
  unfold named?
  constructor
  · intro h
    obtain ⟨id, hfind, hshown⟩ := Option.bind_eq_some_iff.mp h
    have hword : id.user.toList = word := by simpa using List.find?_some hfind
    exact ⟨id, List.mem_of_find?_eq_some hfind, hword, Option.map_eq_some_iff.mp hshown⟩
  · rintro ⟨id, hid, rfl, hshown⟩
    have hsome : (mentioned.find? fun other => other.user.toList == id.user.toList).isSome :=
      List.find?_isSome.mpr ⟨id, hid, beq_self_eq_true _⟩
    obtain ⟨found, hfind⟩ := Option.isSome_iff_exists.mp hsome
    have huser : found.user.toList = id.user.toList := by simpa using List.find?_some hfind
    -- no two people share their user part
    have hsame : found = id := List.inj_on_of_nodup_map hdistinct
      (List.mem_of_find?_eq_some hfind) hid (String.toList_injective huser)
    rw [hfind, hsame, Option.bind_some]
    exact Option.map_eq_some_iff.mpr hshown

/-- The order of the list does not matter for who is called what. -/
theorem named?_eq_of_perm {mentioned order : List ContactId}
    (hdistinct : (mentioned.map ContactId.user).Nodup) (h : order.Perm mentioned) :
    named? account members order = named? account members mentioned := by
  funext word
  refine Option.ext fun shown => ?_
  rw [named?_eq_some_iff hdistinct, named?_eq_some_iff ((h.map _).nodup_iff.mpr hdistinct)]
  simp only [h.mem_iff]

theorem NamesApart.of_subset {mentioned order : List ContactId}
    (h : NamesApart account members mentioned) (hs : order ⊆ mentioned) :
    NamesApart account members order :=
  fun id hid other hother => h id (hs hid) other (hs hother)

theorem named?_cons_self (id : ContactId) (later : List ContactId) :
    named? account members (id :: later) id.user.toList =
      (mentionName? account members id).map String.toList := by
  rw [named?, List.find?_cons_of_pos (by simp), Option.bind_some]

theorem named?_cons_of_ne {id : ContactId} {word : List Char} (h : word ≠ id.user.toList)
    (later : List ContactId) :
    named? account members (id :: later) word = named? account members later word := by
  rw [named?, List.find?_cons_of_neg (by simpa using Ne.symm h), named?]

theorem shown?_cons_of_ne {id : ContactId} {word : List Char} (h : word ≠ id.user.toList)
    (later : List ContactId) :
    shown? account members (id :: later) word = shown? account members later word := by
  rw [shown?]
  cases mentionName? account members id with
  | none => rfl
  | some name => simp only [if_neg h]

theorem shown?_eq_none {mentioned : List ContactId} {user : String}
    (h : user ∉ mentioned.map ContactId.user) :
    shown? account members mentioned user.toList = none := by
  induction mentioned with
  | nil => rfl
  | cons id later ih =>
    rw [List.map_cons, List.mem_cons, not_or] at h
    rw [shown?_cons_of_ne (fun heq => h.1 (String.toList_injective heq)), ih h.2]

/-- Whoever comes later is not mentioned in a name, or put in as they are mentioned. -/
theorem NamesApart.resolveMentions_eq_self {id : ContactId} {later : List ContactId}
    (h : NamesApart account members (id :: later)) (hnew : id ∉ later)
    (hwords : ∀ other ∈ later, IsToken other.user.toList) {name : String}
    (hname : mentionName? account members id = some name) :
    resolveMentions account members later ("@" ++ name) = "@" ++ name := by
  refine Chat.resolveMentions_eq_self account members fun other hother name' hname' => ?_
  rw [replaceMention_eq (hwords other hother), toList_at]
  refine substitute_eq_self fun word hword => ?_
  by_cases hmentioned : word = other.user.toList
  · have hne : id ≠ other := fun heq => hnew (heq ▸ hother)
    have hcalled : name' = other.user := h id List.mem_cons_self other
      (List.mem_cons_of_mem _ hother) hne name hname name' hname' (hmentioned ▸ hword)
    rw [single, if_pos hmentioned, Option.getD_some, hcalled, hmentioned]
  · rw [single_of_ne hmentioned, Option.getD_none]

/-- Without an at sign of its own a name mentions somebody only with the token it begins with. -/
theorem token_eq_of_mentions {name user : List Char} (h : Mentions ('@' :: name) user)
    (hat : '@' ∉ name) (hu : IsToken user) : token name = user := by
  obtain ⟨before, after, heq, hends⟩ := h
  cases before with
  | nil => rw [(List.cons.inj heq).2, (hu.token_append hends).1]
  | cons c before =>
    have hname : name = before ++ '@' :: (user ++ after) := (List.cons.inj heq).2
    exact absurd (hname ▸ List.mem_append_right _ List.mem_cons_self) hat

/-- Names are apart if they have no at sign and begin with no word by which a listed person is
mentioned. -/
theorem namesApart_of_token_ne {mentioned : List ContactId}
    (hwords : ∀ id ∈ mentioned, IsToken id.user.toList)
    (h : ∀ id ∈ mentioned, ∀ name ∈ mentionName? account members id,
      '@' ∉ name.toList ∧ ∀ other ∈ mentioned, token name.toList ≠ other.user.toList) :
    NamesApart account members mentioned := by
  intro id hid other hother _ name hname name' _ hmentions
  obtain ⟨hat, hbegins⟩ := h id hid name hname
  exact absurd (token_eq_of_mentions hmentions hat (hwords other hother)) (hbegins other hother)

/-- If names are apart, every name stays as it was put in. -/
theorem NamesApart.shown?_eq {mentioned : List ContactId}
    (h : NamesApart account members mentioned)
    (hdistinct : (mentioned.map ContactId.user).Nodup)
    (hwords : ∀ id ∈ mentioned, IsToken id.user.toList) :
    shown? account members mentioned = named? account members mentioned := by
  funext word
  induction mentioned with
  | nil => rfl
  | cons id later ih =>
    rw [List.map_cons, List.nodup_cons] at hdistinct
    have hlater := (List.forall_mem_cons.mp hwords).2
    by_cases hown : word = id.user.toList
    · subst hown
      rw [named?_cons_self, shown?]
      cases hname : mentionName? account members id with
      | none =>
        -- nobody listed later has the same user part
        exact shown?_eq_none hdistinct.1
      | some name =>
        have hnew : id ∉ later := fun hmem => hdistinct.1 (List.mem_map_of_mem hmem)
        simp only [if_pos, h.resolveMentions_eq_self hnew hlater hname, toList_at, List.tail_cons,
          Option.map_some]
    · rw [named?_cons_of_ne hown, shown?_cons_of_ne hown]
      exact ih (h.of_subset (List.subset_cons_self id later)) hdistinct.2 hlater

/-- The last two of a list are replaced one in the name of the other. -/
theorem resolveMentions_concat_pair {rest : List ContactId} {id other : ContactId}
    (hdistinct : ((rest ++ [id, other]).map ContactId.user).Nodup)
    (hwords : ∀ any ∈ rest ++ [id, other], IsToken any.user.toList) {name name' : String}
    (hname : mentionName? account members id = some name)
    (hname' : mentionName? account members other = some name') :
    (resolveMentions account members (rest ++ [id, other]) ("@" ++ id.user)).toList =
      substitute (single other.user.toList name'.toList) ('@' :: name.toList) := by
  have hid : IsToken id.user.toList := hwords id (by simp)
  have hother : IsToken other.user.toList := hwords other (by simp)
  -- who is mentioned before the two is not found in the text
  have hrest : resolveMentions account members rest ("@" ++ id.user) = "@" ++ id.user := by
    refine resolveMentions_eq_self account members fun before hbefore shown _ => ?_
    have hne : id.user.toList ≠ before.user.toList := by
      intro heq
      rw [List.map_append, List.nodup_append] at hdistinct
      exact hdistinct.2.2 before.user (List.mem_map_of_mem hbefore) id.user (by simp)
        (String.toList_injective heq).symm
    rw [replaceMention_eq (hwords before (List.mem_append_left _ hbefore)), toList_at,
      substitute_mention _ hid, single_of_ne hne, Option.getD_none]
  rw [resolveMentions_append, hrest, resolveMentions_cons_of_some account members hname,
    resolveMentions_cons_of_some account members hname', resolveMentions, List.foldl_nil,
    String.toList_ofList, String.toList_ofList, replaceMention_eq hother, replaceMention_eq hid,
    toList_at, substitute_mention _ hid, single, if_pos rfl, Option.getD_some]

/-- **Mentions one after the other, and at once.** The people of a list are mentioned by different
words of letters, digits and underscores, of which numbers are a case.

* Every text comes out as by one substitution. Each at sign with a listed person's word behind it,
  as a whole token, becomes an at sign with the name as the people listed later leave it, and
  nothing else changes.
* In every order of the list it is the intended substitution, by the names themselves, exactly if
  nobody's name mentions somebody else of the list. -/
theorem one_after_the_other (account : Account) (members : List Participant)
    {mentioned : List ContactId} (hdistinct : (mentioned.map ContactId.user).Nodup)
    (hwords : ∀ id ∈ mentioned, ∀ c ∈ id.user.toList, continuesToken c = true) :
    (∀ text, (resolveMentions account members mentioned text).toList =
      substitute (shown? account members mentioned) text.toList) ∧
    ((∀ order, order.Perm mentioned → ∀ text,
        (resolveMentions account members order text).toList =
          substitute (named? account members mentioned) text.toList) ↔
      NamesApart account members mentioned) := by
  refine ⟨resolveMentions_eq account members hwords, ?_, ?_⟩
  · intro h id hid other hother hne name hname name' hname' hmentions
    -- list the two last, and look at the mention of the first of them
    have hother' : other ∈ mentioned.erase id := (List.mem_erase_of_ne hne.symm).mpr hother
    have hperm : ((mentioned.erase id).erase other ++ [id, other]).Perm mentioned := by
      refine (List.perm_append_comm).trans ?_
      exact (((List.perm_cons_erase hother').symm.cons id).trans (List.perm_cons_erase hid).symm)
    have hintended : substitute (named? account members mentioned) ("@" ++ id.user).toList =
        '@' :: name.toList := by
      rw [toList_at, substitute_mention _ (hwords id hid),
        (named?_eq_some_iff hdistinct).mpr ⟨id, hid, rfl, name, hname, rfl⟩, Option.getD_some]
    have hcode := resolveMentions_concat_pair ((hperm.map _).nodup_iff.mpr hdistinct)
      (fun any hany => hwords any (hperm.mem_iff.mp hany)) hname hname'
    rw [h _ hperm, hintended] at hcode
    exact String.toList_injective
      (name_eq_of_substitute_eq_self hmentions (hwords other hother) hcode.symm)
  · intro h order horder text
    have hdistinct' := (horder.map ContactId.user).nodup_iff.mpr hdistinct
    have hwords' : ∀ id ∈ order, IsToken id.user.toList :=
      fun id hid => hwords id (horder.mem_iff.mp hid)
    have happart := h.of_subset horder.subset
    rw [resolveMentions_eq account members hwords', happart.shown?_eq hdistinct' hwords',
      named?_eq_of_perm hdistinct horder]

end Resolve

/-- Bob and the account are called by names without numbers, and may be listed in any order. A
person who is no member and a longer number are no mentions. -/
theorem bob_and_alice_are_apart :
    let account : Account := ⟨⟨"31600000000", "c.us"⟩, "Alice"⟩
    let bob : Participant :=
      .ofContact { id := ⟨"31611111111", "c.us"⟩, name := "Bob Jones" }
    let mentioned := [bob.id, account.id, ⟨"31622222222", "c.us"⟩]
    (mentioned.map ContactId.user).Nodup ∧
    (∀ id ∈ mentioned, ∀ c ∈ id.user.toList, continuesToken c = true) ∧
    NamesApart account [bob] mentioned ∧
    ∀ order, order.Perm mentioned →
      (resolveMentions account [bob] order
        "@31611111111 ask @31600000000 or @31622222222, not @316111111112").toList =
        "@Bob_Jones ask @Alice or @31622222222, not @316111111112".toList := by
  intro account bob mentioned
  have hdistinct : (mentioned.map ContactId.user).Nodup := by decide
  have hdigits : ∀ id ∈ mentioned, id.user.toList.all Char.isDigit = true := by decide
  have hwords : ∀ id ∈ mentioned, ∀ c ∈ id.user.toList, continuesToken c = true :=
    fun id hid c hc => continuesToken_of_isDigit (List.all_eq_true.mp (hdigits id hid) c hc)
  have hnames : ∀ id ∈ mentioned, ∀ name ∈ mentionName? account [bob] id,
      '@' ∉ name.toList ∧ ∀ other ∈ mentioned, token name.toList ≠ other.user.toList := by
    decide +kernel
  have happart := namesApart_of_token_ne hwords hnames
  refine ⟨hdistinct, hwords, happart, fun order horder => ?_⟩
  rw [(one_after_the_other account [bob] hdistinct hwords).2.mpr happart order horder]
  decide +kernel

/-- Somebody is called like another's number. Listed first, their mention becomes that of the other
and is replaced by the other's name; listed last, it is as it was meant. -/
theorem number_for_a_name :
    let account : Account := ⟨⟨"31600000000", "c.us"⟩, "Alice"⟩
    let bob : Participant :=
      .ofContact { id := ⟨"31611111111", "c.us"⟩, name := "Bob Jones" }
    let eve : Participant :=
      .ofContact { id := ⟨"31622222222", "c.us"⟩, pushName := "31611111111" }
    let text := "@31622222222 says, ask @31611111111"
    ([eve.id, bob.id].map ContactId.user).Nodup ∧
    (∀ id ∈ [eve.id, bob.id], id.user ≠ "" ∧ id.user.toList.all Char.isDigit = true) ∧
    String.ofList (substitute (named? account [bob, eve] [eve.id, bob.id]) text.toList) =
      "@31611111111 says, ask @Bob_Jones" ∧
    resolveMentions account [bob, eve] [eve.id, bob.id] text = "@Bob_Jones says, ask @Bob_Jones" ∧
    resolveMentions account [bob, eve] [bob.id, eve.id] text =
      "@31611111111 says, ask @Bob_Jones" := by
  intro account bob eve text
  refine ⟨?_, ?_, ?_, ?_, ?_⟩ <;> decide +kernel

end IrcGateway.Chat
