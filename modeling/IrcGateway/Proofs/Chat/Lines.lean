import IrcGateway.Chat.Rendering
import IrcGateway.Proofs.Protocol.RoundTrip
import IrcGateway.Proofs.Text.OneLine

/-!
# What is said, line by line

A client is to see of a text what stands between its line feeds, where that is more than white space
(`saidLines`). The gateway cuts a text in its own way: a carriage return before a line feed belongs
to the line end, and what follows the last line feed is a line only if there is something in it.
What the two keep differs in carriage returns at most (`filter_bodyLines`), and these a reader drops
at the end of a line anyway (`map_textLines`).
-/

namespace IrcGateway.Text

/-- A line of white space alone. -/
theorem isEmpty_trim_iff {line : List Char} :
    (trim line).isEmpty = true ↔ ∀ c ∈ line, isBlank c = true := by
  rw [List.isEmpty_iff, ← trimStart_eq_nil_iff]
  refine ⟨fun h => ?_, fun h => by simp [trim, trimEnd, h]⟩
  -- white space at the end is cut off behind a character that is none
  cases hstart : trimStart line with
  | nil => rfl
  | cons c cs =>
    have hc : isBlank c = false := by
      have := List.head?_dropWhile_not isBlank line
      rw [← trimStart, hstart] at this
      simpa using this
    rw [trim, hstart, trimEnd, List.reverse_eq_nil_iff, List.dropWhile_eq_nil_iff] at h
    have hblank := h c (List.mem_reverse.mpr List.mem_cons_self)
    rw [hc] at hblank
    exact absurd hblank Bool.false_ne_true

/-- The line without the carriage returns at its end. -/
def dropReturns (line : List Char) : List Char :=
  line.rdropWhile (· == '\r')

/-- What `dropReturn` takes away are carriage returns. -/
theorem exists_returns_dropReturn (line : List Char) :
    ∃ returns, line = dropReturn line ++ returns ∧ ∀ c ∈ returns, c = '\r' := by
  unfold dropReturn
  split
  · next hlast =>
    obtain ⟨front, rfl⟩ := List.getLast?_eq_some_iff.mp hlast
    exact ⟨['\r'], by simp, by simp⟩
  · exact ⟨[], by simp, by simp⟩

theorem isEmpty_trim_dropReturn (line : List Char) :
    (trim (dropReturn line)).isEmpty = (trim line).isEmpty := by
  obtain ⟨returns, heq, hreturns⟩ := exists_returns_dropReturn line
  have hblank : ∀ c ∈ returns, isBlank c = true := by
    intro c hc
    rw [hreturns c hc]
    decide
  rw [Bool.eq_iff_iff, isEmpty_trim_iff, isEmpty_trim_iff]
  conv_rhs => rw [heq]
  rw [List.forall_mem_append, and_iff_left hblank]

theorem dropReturns_dropReturn (line : List Char) :
    dropReturns (dropReturn line) = dropReturns line := by
  obtain ⟨returns, heq, hreturns⟩ := exists_returns_dropReturn line
  conv_rhs => rw [heq]
  unfold dropReturns List.rdropWhile
  rw [List.reverse_append, List.dropWhile_append_of_pos]
  intro c hc
  simpa using hreturns c (List.mem_reverse.mp hc)

/-- The lines of a text that are more than white space, where `line` is what has been read of the
current one: those that stand between line feeds. -/
theorem filter_bodyLines_go {line : List Char} (hline : '\n' ∉ line) (cs : List Char) :
    ((bodyLines.go line cs).filter (fun l => !(trim l).isEmpty)).map dropReturns =
      (((line.reverse ++ cs).splitOn '\n').filter (fun l => !(trim l).isEmpty)).map
        dropReturns := by
  have hreverse : '\n' ∉ line.reverse := fun hmem => hline (List.mem_reverse.mp hmem)
  induction cs generalizing line with
  | nil =>
    rw [List.append_nil, List.splitOn_eq_singleton hreverse, bodyLines.go]
    split
    · next hempty =>
      rw [List.isEmpty_iff.mp hempty]
      rfl
    · rfl
  | cons c cs ih =>
    unfold bodyLines.go
    split
    · next hc =>
      -- the line ends here, and may lose a carriage return
      subst hc
      rw [List.splitOn_append_cons_self_of_not_mem hreverse, List.filter_cons, List.filter_cons,
        isEmpty_trim_dropReturn]
      have hrest := @ih [] List.not_mem_nil List.not_mem_nil
      rw [List.reverse_nil, List.nil_append] at hrest
      split
      · rw [List.map_cons, List.map_cons, hrest, dropReturns_dropReturn]
      · exact hrest
    · -- the line goes on
      next hc =>
      have hne : '\n' ∉ c :: line := by simp [hline, Ne.symm hc]
      rw [ih hne fun hmem => hne (List.mem_reverse.mp hmem), List.reverse_cons, List.append_assoc,
        List.singleton_append]

theorem filter_bodyLines (cs : List Char) :
    ((bodyLines cs).filter (fun l => !(trim l).isEmpty)).map dropReturns =
      ((cs.splitOn '\n').filter (fun l => !(trim l).isEmpty)).map dropReturns :=
  filter_bodyLines_go List.not_mem_nil cs

end IrcGateway.Text

namespace IrcGateway.Chat

open IrcGateway.Protocol IrcGateway.Text

/-- The lines of a text that are more than white space, without the carriage returns at their ends.
A text that has none is one empty line. -/
def saidLines (text : String) : List String :=
  match (text.toList.splitOn '\n').filter (fun line => !(trim line).isEmpty) with
  | [] => [""]
  | lines => lines.map fun line => String.ofList (dropReturns line)

/-- Of a line without line feed a reader drops the carriage returns at its end. -/
theorem dropLineEnd_of_notMem {line : List Char} (h : '\n' ∉ line) :
    dropLineEnd line = dropReturns line := by
  have hreverse : ∀ c ∈ line.reverse, c ≠ '\n' := by
    intro c hc heq
    exact h (heq ▸ List.mem_reverse.mp hc)
  unfold dropLineEnd dropReturns List.rdropWhile
  rw [List.reverse_inj]
  generalize line.reverse = cs at hreverse ⊢
  induction cs with
  | nil => rfl
  | cons c cs ih =>
    obtain ⟨hc, hcs⟩ := List.forall_mem_cons.mp hreverse
    simp only [List.dropWhile_cons, beq_false_of_ne hc, Bool.or_false, ih hcs]

/-- **The lines of a text**, as they are once a reader has dropped the line ends. -/
theorem map_textLines (text : String) :
    (textLines text).map (fun line => String.ofList (dropLineEnd line.toList)) =
      saidLines text := by
  have hsame := congrArg (List.map String.ofList) (filter_bodyLines text.toList)
  -- without a line feed in it, a line ends as its carriage returns do
  have hdrop : ∀ line ∈ (bodyLines text.toList).filter (fun l => !(trim l).isEmpty),
      dropLineEnd line = dropReturns line := by
    intro line hline
    exact dropLineEnd_of_notMem (lf_notMem_of_mem_bodyLines (List.mem_of_mem_filter hline))
  rw [← List.map_congr_left hdrop, List.map_map, List.map_map] at hsame
  unfold textLines saidLines
  split
  · next hnone =>
    rw [hnone, List.map_nil, eq_comm, List.map_eq_nil_iff] at hsame
    rw [hsame]
    rfl
  · next hsome =>
    split
    · next hnone =>
      rw [hnone, List.map_nil, List.map_eq_nil_iff] at hsame
      exact absurd hsame hsome
    · simpa [Function.comp_def] using hsame

/-- Something is left of a line of a text, or the line is empty and all that there is. -/
theorem dropLineEnd_ne_nil_of_mem_textLines {line text : String} (h : line ∈ textLines text) :
    line = "" ∨ dropLineEnd line.toList ≠ [] := by
  unfold textLines at h
  split at h
  · exact .inl (List.mem_singleton.mp h)
  · obtain ⟨cs, hcs, rfl⟩ := List.mem_map.mp h
    right
    intro hnil
    rw [String.toList_ofList] at hnil
    -- all of the line would be white space
    have hblank : (trim cs).isEmpty = true := by
      rw [isEmpty_trim_iff]
      intro c hc
      change List.rdropWhile endsLine cs = [] at hnil
      have hend := List.rdropWhile_eq_nil_iff.mp hnil c hc
      rw [endsLine, Bool.or_eq_true, beq_iff_eq, beq_iff_eq] at hend
      rcases hend with rfl | rfl <;> decide
    simp [hblank] at hcs

end IrcGateway.Chat
