/-!
# Cutting a text

A text is cut at the first occurrence of a character (`splitAtFirst`), and it is cut into lines in
two ways: at every line feed, a carriage return before it belonging to the line end (`bodyLines`),
and at every CR LF pair, which is how a client of the line protocol reads what it receives
(`wireLines`).

* `splitAtFirst_eq_none_iff`: there is no cut exactly if the character does not occur.
* `splitAtFirst_eq_some_iff`: else the first part is free of the character, and the two parts with
  the character between them are the text.
-/

namespace IrcGateway.Text

/-! ### At one character -/

/-- What stands before and after the first occurrence of `sep`; `none` if there is none. -/
def splitAtFirst (sep : Char) : List Char → Option (List Char × List Char)
  | [] => none
  | c :: cs =>
    if c = sep then some ([], cs)
    else (splitAtFirst sep cs).map (fun p => (c :: p.1, p.2))

theorem splitAtFirst_eq_none_iff {sep : Char} {cs : List Char} :
    splitAtFirst sep cs = none ↔ sep ∉ cs := by
  induction cs with
  | nil => simp [splitAtFirst]
  | cons c cs ih =>
    by_cases h : c = sep
    · simp [splitAtFirst, h]
    · simp [splitAtFirst, h, ih, Ne.symm h]

theorem splitAtFirst_append {sep : Char} {before : List Char} (after : List Char)
    (h : sep ∉ before) : splitAtFirst sep (before ++ sep :: after) = some (before, after) := by
  induction before with
  | nil => simp [splitAtFirst]
  | cons c cs ih =>
    simp only [List.mem_cons, not_or] at h
    simp [splitAtFirst, Ne.symm h.1, ih h.2]

theorem splitAtFirst_eq_some_iff {sep : Char} {cs before after : List Char} :
    splitAtFirst sep cs = some (before, after) ↔ cs = before ++ sep :: after ∧ sep ∉ before := by
  constructor
  · induction cs generalizing before with
    | nil => simp [splitAtFirst]
    | cons c cs ih =>
      intro h
      by_cases hc : c = sep
      · simp only [splitAtFirst, hc, if_true, Option.some.injEq, Prod.mk.injEq] at h
        obtain ⟨rfl, rfl⟩ := h
        simp [hc]
      · simp only [splitAtFirst, hc, if_false, Option.map_eq_some_iff, Prod.mk.injEq] at h
        obtain ⟨⟨b, a⟩, hb, rfl, rfl⟩ := h
        obtain ⟨rfl, hn⟩ := ih hb
        simp [hn, Ne.symm hc]
  · rintro ⟨rfl, h⟩
    exact splitAtFirst_append after h

/-! ### Into lines -/

/-- The line without one carriage return at its end. -/
def dropReturn (line : List Char) : List Char :=
  if line.getLast? = some '\r' then line.dropLast else line

/-- The lines of a text: cut at every line feed, one carriage return before it dropped. What follows
the last line feed is a line only if it is not empty, and keeps a carriage return at its end. -/
def bodyLines : List Char → List (List Char) :=
  go []
where
  /-- `line` holds the characters of the line being read, last one first. -/
  go (line : List Char) : List Char → List (List Char)
    | [] => if line.isEmpty then [] else [line.reverse]
    | c :: cs => if c = '\n' then dropReturn line.reverse :: go [] cs else go (c :: line) cs

/-- The lines that CR LF pairs end; characters after the last pair are no line yet. -/
def wireLines : List Char → List (List Char) :=
  go []
where
  /-- `line` holds the characters of the line being read, last one first. -/
  go (line : List Char) : List Char → List (List Char)
    | [] => []
    | '\r' :: '\n' :: cs => line.reverse :: go [] cs
    | c :: cs => go (c :: line) cs

end IrcGateway.Text
