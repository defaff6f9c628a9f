/-!
# Numbers as digits

Natural numbers written with digits of a base up to sixteen, letters counting in either case, and
the bounds of a machine word that such a number may have to keep. Addresses write a byte as a
percent sign and two hexadecimal digits.
-/

namespace IrcGateway.Text

/-- The value of a digit. -/
def digitValue? (c : Char) : Option Nat :=
  if '0' ≤ c ∧ c ≤ '9' then some (c.toNat - '0'.toNat)
  else if 'a' ≤ c ∧ c ≤ 'f' then some (c.toNat - 'a'.toNat + 10)
  else if 'A' ≤ c ∧ c ≤ 'F' then some (c.toNat - 'A'.toNat + 10)
  else none

/-- The number that follows `n` when `c` is written after it, if `c` is a digit of the base. -/
def appendDigit? (base n : Nat) (c : Char) : Option Nat :=
  (digitValue? c).bind fun d => if d < base then some (n * base + d) else none

/-- The number that a text of digits stands for; there is at least one digit. -/
def readNat? (base : Nat) (cs : List Char) : Option Nat :=
  if cs.isEmpty then none else cs.foldlM (appendDigit? base) 0

/-- Whether a number fits a word of 64 bits with a sign. -/
def fitsSigned (n : Int) : Bool :=
  -9223372036854775808 ≤ n && n ≤ 9223372036854775807

/-- Whether a number fits a word of 64 bits without a sign. -/
def fitsUnsigned (n : Nat) : Bool :=
  n ≤ 18446744073709551615

/-- The bytes that the characters of an address stand for. A percent sign without two digits after
it stands for itself, as every other character does. -/
def percentDecode : List Char → List UInt8
  | [] => []
  | c :: cs =>
    match c, cs with
    | '%', a :: b :: rest =>
      match readNat? 16 [a, b] with
      | some n => UInt8.ofNat n :: percentDecode rest
      | none => String.utf8EncodeChar '%' ++ percentDecode (a :: b :: rest)
    | c, cs => String.utf8EncodeChar c ++ percentDecode cs

end IrcGateway.Text
