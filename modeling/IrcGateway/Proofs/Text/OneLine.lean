import IrcGateway.Text.Lines
import IrcGateway.Text.Utf8
import IrcGateway.Time.Stamp
import Mathlib.Data.List.Basic

/-!
# Texts without a line feed

A line of the protocol ends at a line feed, so that a text can be sent as one line only if it holds
none (`OneLine`). Where the texts of the gateway come from, line feeds are kept out in different
ways: the lines of a text are cut at them (`lf_notMem_of_mem_bodyLines`), numbers and dates have
none (`oneLine_momentText`), and bytes without a line feed are read as a text without one
(`lf_notMem_decodeLossy`), since the longer forms of UTF-8 stand for no ASCII character.

A text without line feed arrives as one line (`wireLines_eq_singleton`).
-/

namespace IrcGateway.Text

/-- The text holds no line feed. -/
def OneLine (s : String) : Prop :=
  '\n' ∉ s.toList

instance (s : String) : Decidable (OneLine s) :=
  inferInstanceAs (Decidable ('\n' ∉ s.toList))

@[simp] theorem oneLine_append {a b : String} : OneLine (a ++ b) ↔ OneLine a ∧ OneLine b := by
  simp [OneLine]

@[simp] theorem oneLine_ofList {cs : List Char} : OneLine (String.ofList cs) ↔ '\n' ∉ cs := by
  simp [OneLine]

/-- Texts that are joined by spaces. -/
theorem oneLine_spaced {texts : List String} :
    OneLine (" ".intercalate texts) ↔ ∀ t ∈ texts, OneLine t := by
  have hspace : OneLine " " := by decide
  induction texts with
  | nil => simp [OneLine]
  | cons t ts ih =>
    cases ts with
    | nil => simp
    | cons u us =>
      rw [String.intercalate_cons_cons, oneLine_append, oneLine_append, and_iff_left hspace,
        List.forall_mem_cons]
      exact and_congr_right' ih

/-! ### Cutting into lines -/

private theorem lf_notMem_of_mem_go {line acc cs : List Char} (hacc : '\n' ∉ acc)
    (h : line ∈ bodyLines.go acc cs) : '\n' ∉ line := by
  induction cs generalizing acc with
  | nil =>
    unfold bodyLines.go at h
    split at h
    · simp at h
    · rw [List.mem_singleton.mp h]
      simpa using hacc
  | cons c cs ih =>
    unfold bodyLines.go at h
    split at h
    · -- the line that ends here, or one behind it
      rcases List.mem_cons.mp h with rfl | h
      · unfold dropReturn
        split
        · exact fun hmem => hacc (by simpa using List.dropLast_subset _ hmem)
        · simpa using hacc
      · exact ih (by simp) h
    · next hc => exact ih (by simp [hacc, Ne.symm hc]) h

theorem lf_notMem_of_mem_bodyLines {line cs : List Char} (h : line ∈ bodyLines cs) : '\n' ∉ line :=
  lf_notMem_of_mem_go (by simp) h

private theorem wireLines_go_eq {acc cs : List Char} (h : '\n' ∉ cs) :
    wireLines.go acc (cs ++ ['\r', '\n']) = [acc.reverse ++ cs] := by
  induction cs generalizing acc with
  | nil => simp [wireLines.go]
  | cons c cs ih =>
    rw [List.mem_cons, not_or] at h
    rw [List.cons_append, wireLines.go, ih h.2, List.reverse_cons, List.append_assoc,
      List.singleton_append]
    -- a carriage return is followed by no line feed before the end
    intro rest hc hrest
    cases cs with
    | nil => simp at hrest
    | cons d ds =>
      rw [List.cons_append, List.cons.injEq] at hrest
      exact h.2 (hrest.1 ▸ List.mem_cons_self)

theorem wireLines_eq_singleton {cs : List Char} (h : '\n' ∉ cs) :
    wireLines (cs ++ ['\r', '\n']) = [cs] :=
  wireLines_go_eq h

private theorem wireLines_go_append (acc cs rest : List Char) :
    wireLines.go acc (cs ++ '\r' :: '\n' :: rest) =
      wireLines.go acc (cs ++ ['\r', '\n']) ++ wireLines rest := by
  induction acc, cs using wireLines.go.induct with
  | case1 acc => simp [wireLines.go, wireLines]
  | case2 acc cs ih => simpa [wireLines.go] using ih
  | case3 acc c cs hpair ih =>
    -- the character is no half of a line end, whatever comes behind
    have hopen : ∀ tail rest', c = '\r' → cs ++ '\r' :: tail = '\n' :: rest' → False := by
      intro tail rest' hc heq
      cases cs with
      | nil => simp at heq
      | cons d ds => exact hpair ds hc (by rw [(List.cons.inj heq).1])
    rw [List.cons_append, List.cons_append, wireLines.go, wireLines.go, ih]
    · exact hopen _
    · exact hopen _

/-- What follows a line end is cut into lines apart from what stands before it. -/
theorem wireLines_append (cs rest : List Char) :
    wireLines (cs ++ '\r' :: '\n' :: rest) = wireLines (cs ++ ['\r', '\n']) ++ wireLines rest :=
  wireLines_go_append [] cs rest

/-! ### Numbers and dates -/

theorem lf_notMem_toDigits (n : Nat) : '\n' ∉ Nat.toDigits 10 n := by
  intro hmem
  have hdigit := Nat.isDigit_of_mem_toDigits (by decide) (by decide) hmem
  simp at hdigit

theorem isDigit_of_mem_padded {width n : Nat} {c : Char} (h : c ∈ (Time.padded width n).toList) :
    c.isDigit = true := by
  unfold Time.padded at h
  rw [String.toList_ofList, List.mem_append] at h
  rcases h with hzero | hdigit
  · rw [List.eq_of_mem_replicate hzero]
    rfl
  · exact Nat.isDigit_of_mem_toDigits (by decide) (by decide) hdigit

/-- A moment is written in digits, with few other characters between them. -/
theorem mem_momentText {ms : Int} {c : Char} (h : c ∈ (Time.momentText ms).toList) :
    c.isDigit = true ∨ c ∈ ['+', '-', 'T', ':', '.', 'Z'] := by
  have hdigits : ∀ {width n}, c ∈ (Time.padded width n).toList → c.isDigit = true :=
    isDigit_of_mem_padded
  have hyear : ∀ {y}, c ∈ (Time.yearText y).toList → c.isDigit = true ∨ c = '+' ∨ c = '-' := by
    intro y hy
    unfold Time.yearText at hy
    split at hy
    · exact .inl (hdigits hy)
    · rw [String.toList_append, List.mem_append] at hy
      rcases hy with hsign | hy
      · split at hsign <;> simp_all
      · exact .inl (hdigits hy)
  simp only [Time.momentText, String.toList_append, List.mem_append] at h
  grind

theorem oneLine_momentText (ms : Int) : OneLine (Time.momentText ms) := by
  intro hmem
  rcases mem_momentText hmem with hdigit | hother
  · simp at hdigit
  · simp at hother

/-! ### Reading UTF-8 -/

namespace Utf8

/-- What was read of a character keeps it out of ASCII, and no ASCII byte continues it. -/
def Begun.Long (p : Begun) : Prop :=
  0x80 ≤ p.low ∧ (1 ≤ p.value ∨ (2 ≤ p.missing ∧ 0x81 ≤ p.low))

private theorem ofNat_eq_lf {n : Nat} (h : Char.ofNat n = '\n') : n = 10 := by
  rw [Char.ofNat] at h
  by_cases hn : n.isValidChar
  · rw [dif_pos hn] at h
    calc
      n = (Char.ofNatAux n hn).toNat := rfl
      _ = '\n'.toNat := congrArg Char.toNat h
  · rw [dif_neg hn] at h
    exact absurd h (by decide)

theorem first_spec (b : Nat) :
    (.char '\n' ∈ (first b).1 → b = 10) ∧ ∀ p, (first b).2 = some p → p.Long := by
  unfold first
  split
  · refine ⟨fun hmem => ?_, by simp⟩
    rw [List.mem_singleton, Item.char.injEq] at hmem
    exact ofNat_eq_lf hmem.symm
  -- every other byte begins a longer character, or is a fault
  repeat' split
  all_goals
    refine ⟨by simp, fun p hp => ?_⟩
    simp only [Option.some.injEq, reduceCtorEq] at hp
  all_goals
    subst hp
    simp only [Bool.and_eq_true, decide_eq_true_eq, beq_iff_eq, Begun.Long] at *
    omega

/-- Only the byte of a line feed is read as one, and a character that is begun is a longer one. -/
theorem step_spec {state : Option Begun} (hstate : ∀ p, state = some p → p.Long) (byte : UInt8) :
    (.char '\n' ∈ (step state byte).1 → byte = 10) ∧
      ∀ p, (step state byte).2 = some p → p.Long := by
  have hbyte : byte.toNat = 10 → byte = 10 := fun h => UInt8.toNat_inj.mp h
  cases state with
  | none =>
    obtain ⟨hitem, hnext⟩ := first_spec byte.toNat
    exact ⟨fun hmem => hbyte (hitem hmem), hnext⟩
  | some p =>
    obtain ⟨hlow, hlong⟩ := hstate p rfl
    simp only [step]
    split
    · next hrange =>
      simp only [Bool.and_eq_true, decide_eq_true_eq] at hrange
      have hvalue : 1 ≤ p.value * 64 + (byte.toNat - 128) := by omega
      split
      · next hlast =>
        -- the last byte completes a value that is no ASCII character
        refine ⟨fun hmem => ?_, by simp⟩
        rw [List.mem_singleton, Item.char.injEq] at hmem
        have := ofNat_eq_lf hmem.symm
        omega
      · refine ⟨by simp, fun q hq => ?_⟩
        rw [← Option.some.inj hq]
        exact ⟨Nat.le_refl _, .inl hvalue⟩
    · -- the character that had begun is at fault, and the byte begins another one
      obtain ⟨hitem, hnext⟩ := first_spec byte.toNat
      exact ⟨fun hmem => hbyte (hitem (by simpa using hmem)), hnext⟩

theorem run_spec {state : Option Begun} (hstate : ∀ p, state = some p → p.Long)
    (bytes : List UInt8) :
    (.char '\n' ∈ (run state bytes).1 → 10 ∈ bytes) ∧
      ∀ p, (run state bytes).2 = some p → p.Long := by
  induction bytes generalizing state with
  | nil => simpa [run] using hstate
  | cons b bs ih =>
    obtain ⟨hitem, hnext⟩ := step_spec hstate b
    obtain ⟨hrest, hlast⟩ := ih hnext
    refine ⟨fun hmem => ?_, hlast⟩
    rcases List.mem_append.mp hmem with hfirst | hlater
    · exact hitem hfirst ▸ List.mem_cons_self
    · exact List.mem_cons_of_mem _ (hrest hlater)

/-- Bytes without a line feed are read as a text without one. -/
theorem lf_notMem_decodeLossy {bytes : List UInt8} (h : 10 ∉ bytes) : '\n' ∉ decodeLossy bytes := by
  have hrun : .char '\n' ∉ (run none bytes).1 := fun hmem => h ((run_spec (by simp) bytes).1 hmem)
  have hitems : .char '\n' ∉ items bytes := by
    unfold items
    split
    · next read heq => rwa [heq] at hrun
    · next read p heq =>
      rw [heq] at hrun
      simpa using hrun
  unfold decodeLossy
  rw [List.mem_map]
  rintro ⟨item, hmem, hitem⟩
  cases item with
  | char c => exact hitems (hitem ▸ hmem)
  | fault => simp at hitem

/-- A line feed ends the text as it ends the bytes, also after an unfinished character. -/
theorem decodeLossy_concat_lf (bytes : List UInt8) :
    decodeLossy (bytes ++ [10]) = decodeLossy bytes ++ ['\n'] := by
  obtain ⟨-, hlong⟩ := @run_spec none (by simp) bytes
  have hitems : items (bytes ++ [10]) = items bytes ++ [.char '\n'] := by
    unfold items
    rw [run_append]
    rcases hrun : run none bytes with ⟨read, none | p⟩
    · rfl
    · -- a line feed does not go on a character that has begun, which is then at fault
      rw [hrun] at hlong
      have hout : ¬ p.low ≤ 10 := by
        have := (hlong p rfl).1
        omega
      have hstep : run (some p) [10] = ([.fault, .char '\n'], none) := by
        simp [run, step, hout, first]
      simp [hstep]
  simp [decodeLossy, hitems]

end Utf8

end IrcGateway.Text
