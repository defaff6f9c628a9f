import IrcGateway.Text.Digits

/-!
# Strings of a TOML document

The four ways to write a string: between single or triple quotes, with or without escapes. Each
reader starts behind the opening quotes and gives the string together with what follows its closing
quotes.

* `length_of_escaped?`: an escape takes at least one character, which is why the readers end.
-/

namespace IrcGateway.Toml

open IrcGateway.Text

/-- A character that stands for itself in comments and strings: any but an ASCII control character
other than the tab. -/
def isPlain (c : Char) : Bool :=
  c == '\t' || (32 ≤ c.toNat && c.toNat != 127)

/-- White space within a line. -/
def isGap (c : Char) : Bool :=
  c == ' ' || c == '\t'

/-- What follows a line end at the start of a text. -/
def afterLineEnd? : List Char → Option (List Char)
  | '\n' :: cs => some cs
  | '\r' :: '\n' :: cs => some cs
  | _ => none

/-- The character that a letter after a backslash stands for. -/
def escape? (c : Char) : Option Char :=
  if c = 'b' then some '\x08'
  else if c = 't' then some '\t'
  else if c = 'n' then some '\n'
  else if c = 'f' then some '\x0c'
  else if c = 'r' then some '\r'
  else if c = '"' then some '"'
  else if c = '\\' then some '\\'
  else none

/-- The character with a code point in hexadecimal digits; surrogates are none. -/
def charOfHex? (digits : List Char) : Option Char :=
  (readNat? 16 digits).bind fun n => if n.isValidChar then some (Char.ofNat n) else none

/-- Reads a character given by as many hexadecimal digits as `width` says. -/
def hexEscape? (width : Nat) (cs : List Char) : Option (Char × List Char) :=
  if cs.length < width then none else (charOfHex? (cs.take width)).map (·, cs.drop width)

/-- Reads an escape behind its backslash. -/
def escaped? : List Char → Option (Char × List Char)
  | [] => none
  | c :: cs =>
    if c = 'u' then hexEscape? 4 cs
    else if c = 'U' then hexEscape? 8 cs
    else (escape? c).map (·, cs)

private theorem length_of_hexEscape? {width : Nat} {cs rest : List Char} {c : Char}
    (h : hexEscape? width cs = some (c, rest)) : rest.length ≤ cs.length := by
  unfold hexEscape? at h
  split at h
  · simp at h
  · simp only [Option.map_eq_some_iff, Prod.mk.injEq] at h
    obtain ⟨_, _, _, rfl⟩ := h
    simp

theorem length_of_escaped? {cs rest : List Char} {c : Char} (h : escaped? cs = some (c, rest)) :
    rest.length < cs.length := by
  cases cs with
  | nil => simp [escaped?] at h
  | cons d ds =>
    rw [escaped?] at h
    rw [List.length_cons, Nat.lt_succ_iff]
    split at h
    · exact length_of_hexEscape? h
    · split at h
      · exact length_of_hexEscape? h
      · simp only [Option.map_eq_some_iff, Prod.mk.injEq] at h
        obtain ⟨_, _, _, rfl⟩ := h
        exact Nat.le_refl _

/-- Puts a character before what was read. -/
def before (c : Char) (read : List Char × List Char) : List Char × List Char :=
  (c :: read.1, read.2)

/-- Reads a string with escapes on one line. -/
def basic? (cs : List Char) : Option (List Char × List Char) :=
  match cs with
  | [] => none
  | '"' :: rest => some ([], rest)
  | '\\' :: rest =>
    match h : escaped? rest with
    | some (c, after) =>
      have := length_of_escaped? h
      (basic? after).map (before c)
    | none => none
  | c :: rest => if isPlain c then (basic? rest).map (before c) else none
termination_by cs.length
decreasing_by
  all_goals simp only [List.length_cons]
  all_goals omega

/-- Reads a string without escapes on one line. -/
def literal? : List Char → Option (List Char × List Char)
  | [] => none
  | c :: rest =>
    if c = '\'' then some ([], rest)
    else if isPlain c then (literal? rest).map (before c)
    else none

/-- The end of a string between triple quotes: at least three quotes, of which up to two more belong
to the string. -/
def closing? (quote : Char) (cs : List Char) : Option (List Char × List Char) :=
  let count := (cs.takeWhile (· == quote)).length
  if count < 3 then none
  else
    let extra := min (count - 3) 2
    some (List.replicate extra quote, cs.drop (extra + 3))

/-- Reads a string without escapes between triple quotes; every line end reads as a line feed. -/
def multiLiteral? (cs : List Char) : Option (List Char × List Char) :=
  match closing? '\'' cs with
  | some read => some read
  | none =>
    match cs with
    | [] => none
    | '\n' :: rest => (multiLiteral? rest).map (before '\n')
    | '\r' :: '\n' :: rest => (multiLiteral? rest).map (before '\n')
    | c :: rest => if isPlain c then (multiLiteral? rest).map (before c) else none
termination_by cs.length

/-- Whether nothing but gaps is left of the line. -/
def endsLine (cs : List Char) : Bool :=
  (afterLineEnd? (cs.dropWhile isGap)).isSome

/-- Reads a string with escapes between triple quotes. A backslash at the end of a line joins it to
the next text, whatever gaps and line ends lie between; `joining` says that such a join is under
way. -/
def multiBasic? (joining : Bool) (cs : List Char) : Option (List Char × List Char) :=
  match closing? '"' cs with
  | some read => some read
  | none =>
    match cs with
    | [] => none
    | '\n' :: rest =>
      if joining then multiBasic? true rest else (multiBasic? false rest).map (before '\n')
    | '\r' :: '\n' :: rest =>
      if joining then multiBasic? true rest else (multiBasic? false rest).map (before '\n')
    | '\\' :: rest =>
      if endsLine rest then multiBasic? true rest
      else
        match h : escaped? rest with
        | some (c, after) =>
          have := length_of_escaped? h
          (multiBasic? false after).map (before c)
        | none => none
    | c :: rest =>
      if joining && isGap c then multiBasic? true rest
      else if isPlain c then (multiBasic? false rest).map (before c)
      else none
termination_by cs.length
decreasing_by
  all_goals simp only [List.length_cons]
  all_goals omega

/-- The text without a line end at its start. -/
def dropFirstLineEnd (cs : List Char) : List Char :=
  (afterLineEnd? cs).getD cs

/-- Reads a string from its opening quotes. -/
def string? : List Char → Option (List Char × List Char)
  | '"' :: '"' :: '"' :: cs => multiBasic? false (dropFirstLineEnd cs)
  | '"' :: cs => basic? cs
  | '\'' :: '\'' :: '\'' :: cs => multiLiteral? (dropFirstLineEnd cs)
  | '\'' :: cs => literal? cs
  | _ => none

end IrcGateway.Toml
