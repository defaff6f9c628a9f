import IrcGateway.Text.Utf8

/-!
# A text as bytes, and back

Read as UTF-8, the bytes of a text are that text (`decodeLossy_encode`), so that what a client
writes in whatever script is what the gateway reads.

The reader takes a character byte by byte. The first byte says how many follow and carries the
leading bits (`first_of_two`, `first_of_three`, `first_of_four`); where it alone would let in a
longer form, a surrogate or too large a number, it narrows the bounds for the second. Each byte
that follows carries six bits more (`step_more`, `step_last`). The bits of a character keep within
the bounds because it is neither shorter nor a surrogate.
-/

namespace IrcGateway.Text.Utf8

/-! ### The first byte -/

theorem first_of_two : ∀ n < 32, 2 ≤ n → first (n + 0xC0) = ([], some ⟨1, 0x80, 0xBF, n⟩) := by
  decide

theorem first_of_three : ∀ n < 16, first (n + 0xE0) =
    ([], some ⟨2, if n = 0 then 0xA0 else 0x80, if n = 13 then 0x9F else 0xBF, n⟩) := by
  decide

theorem first_of_four : ∀ n < 5, first (n + 0xF0) =
    ([], some ⟨3, if n = 0 then 0x90 else 0x80, if n = 4 then 0x8F else 0xBF, n⟩) := by
  decide

theorem toNat_byte {b : Nat} (hb : b < 256) : (UInt8.ofNat b).toNat = b :=
  UInt8.toNat_ofNat_of_lt' hb

theorem step_none {b : Nat} (hb : b < 256) : step none (UInt8.ofNat b) = first b := by
  rw [step, toNat_byte hb]

/-! ### The bytes that follow -/

section Following

variable {missing low high value bits : Nat} (hbits : bits < 64) (hlow : low ≤ bits + 0x80)
  (hhigh : bits + 0x80 ≤ high)

include hbits hlow hhigh

/-- Six bits more, and more to come. -/
theorem step_more (hmore : 1 < missing) :
    step (some ⟨missing, low, high, value⟩) (UInt8.ofNat (bits + 0x80)) =
      ([], some ⟨missing - 1, 0x80, 0xBF, value * 64 + bits⟩) := by
  rw [step, toNat_byte (by omega)]
  simp [hlow, hhigh, Nat.not_le.mpr hmore]

/-- The last six bits complete the character. -/
theorem step_last :
    step (some ⟨1, low, high, value⟩) (UInt8.ofNat (bits + 0x80)) =
      ([.char (Char.ofNat (value * 64 + bits))], none) := by
  rw [step, toNat_byte (by omega)]
  simp [hlow, hhigh]

end Following

/-! ### Characters and texts -/

/-- The bytes of a character are read as that character. -/
theorem run_encodeChar (c : Char) : run none (String.utf8EncodeChar c) = ([.char c], none) := by
  have hvalid : c.toNat < 0xD800 ∨ 0xDFFF < c.toNat ∧ c.toNat < 0x110000 := c.valid
  have hchar : Char.ofNat c.toNat = c := Char.ofNat_toNat c
  unfold String.utf8EncodeChar
  simp only [show c.val.toNat = c.toNat from rfl]
  generalize c.toNat = v at hvalid hchar ⊢
  split
  · next hone =>
    -- ASCII
    rw [run, step_none (by omega), first, if_pos (by omega), hchar]
    rfl
  split
  · next hone htwo =>
    have hvalue : (v / 64 % 32) * 64 + v % 64 = v := by omega
    rw [run, step_none (by omega), first_of_two _ (by omega) (by omega)]
    simp only [run]
    rw [step_last (by omega) (by omega) (by omega), hvalue, hchar]
    rfl
  split
  · next hone htwo hthree =>
    have hvalue : ((v / 4096 % 16) * 64 + v / 64 % 64) * 64 + v % 64 = v := by omega
    rw [run, step_none (by omega), first_of_three _ (by omega)]
    simp only [run]
    -- not as short as two bytes, and no surrogate
    rw [step_more (by omega) (by split <;> omega) (by split <;> omega) (by omega),
      step_last (by omega) (by omega) (by omega), hvalue, hchar]
    rfl
  · next hone htwo hthree =>
    have hvalue :
        (((v / 262144 % 8) * 64 + v / 4096 % 64) * 64 + v / 64 % 64) * 64 + v % 64 = v := by omega
    rw [run, step_none (by omega), first_of_four _ (by omega)]
    simp only [run]
    -- not as short as three bytes, and not above the last code point
    rw [step_more (by omega) (by split <;> omega) (by split <;> omega) (by omega),
      step_more (by omega) (by omega) (by omega) (by omega),
      step_last (by omega) (by omega) (by omega), hvalue, hchar]
    rfl

/-- The bytes of a text. -/
def encode (cs : List Char) : List UInt8 :=
  cs.flatMap String.utf8EncodeChar

theorem run_encode (cs : List Char) : run none (encode cs) = (cs.map .char, none) := by
  induction cs with
  | nil => rfl
  | cons c cs ih =>
    have hcut : encode (c :: cs) = String.utf8EncodeChar c ++ encode cs := List.flatMap_cons
    rw [hcut, run_append, run_encodeChar, ih]
    rfl

/-- **The bytes of a text are read as that text.** -/
theorem decodeLossy_encode (cs : List Char) : decodeLossy (encode cs) = cs := by
  have hitems : items (encode cs) = cs.map .char := by
    rw [items, run_encode]
  rw [decodeLossy, hitems, List.map_map]
  exact List.map_id cs

end IrcGateway.Text.Utf8
