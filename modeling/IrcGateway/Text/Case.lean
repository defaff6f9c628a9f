/-!
# Letter case

Names and keywords of the line protocol are compared without regard to the case of the letters A to
Z alone; every other character is its own lower and upper case. Where case does not matter in texts
of any script, a character is compared by the characters that it folds to. Only folding to ASCII
letters is told here, which is enough for a comparison with an ASCII text.

* `sameName_iff`: two names are the same exactly if their lower-case forms are equal.
* `toNat_toLower`: the code of a lower-case form is read off that of the character.
-/

namespace IrcGateway.Text

/-! ### Letters of ASCII -/

/-- The text with the letters A to Z in lower case. -/
def lower (s : String) : String :=
  String.ofList (s.toList.map Char.toLower)

/-- The text with the letters a to z in upper case. -/
def upper (s : String) : String :=
  String.ofList (s.toList.map Char.toUpper)

/-- Two names that differ at most in the case of ASCII letters. -/
def sameName (a b : String) : Bool :=
  lower a == lower b

theorem sameName_iff {a b : String} : sameName a b = true ↔ lower a = lower b := by
  simp [sameName]

/-- A small letter stands 32 places behind its capital. -/
theorem toNat_toLower (c : Char) :
    c.toLower.toNat = if 65 ≤ c.toNat ∧ c.toNat ≤ 90 then c.toNat + 32 else c.toNat := by
  have hrange : c.val ≥ 'A'.val ∧ c.val ≤ 'Z'.val ↔ 65 ≤ c.toNat ∧ c.toNat ≤ 90 :=
    and_congr UInt32.le_iff_toNat_le UInt32.le_iff_toNat_le
  unfold Char.toLower
  split
  · next h =>
    have hbounds : 65 ≤ c.val.toNat ∧ c.val.toNat ≤ 90 := hrange.mp h
    rw [if_pos (hrange.mp h)]
    change (c.val + ('a'.val - 'A'.val)).toNat = c.val.toNat + 32
    rw [UInt32.toNat_add, show ('a'.val - 'A'.val).toNat = 32 from rfl]
    omega
  · next h => rw [if_neg (mt hrange.mpr h)]

/-! ### Folding -/

/-- The characters outside ASCII that fold to ASCII letters: the sharp s in its three forms, the
long s, the kelvin sign and the ligatures. -/
def foldedForms : List (Char × List Char) :=
  [('\u00df', ['s', 's']), ('\u1e9e', ['s', 's']), ('𝾕', ['s', 's']), ('\u017f', ['s']),
   ('\u212a', ['k']), ('\ufb00', ['f', 'f']), ('\ufb01', ['f', 'i']), ('\ufb02', ['f', 'l']),
   ('\ufb03', ['f', 'f', 'i']), ('\ufb04', ['f', 'f', 'l']), ('\ufb05', ['s', 't']),
   ('\ufb06', ['s', 't'])]

/-- What a character folds to. -/
def foldChar (c : Char) : List Char :=
  (foldedForms.lookup c).getD [c.toLower]

/-- A text with its characters folded. -/
def foldCase (cs : List Char) : List Char :=
  cs.flatMap foldChar

end IrcGateway.Text
