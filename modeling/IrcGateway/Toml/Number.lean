import IrcGateway.Text.Blank
import IrcGateway.Text.Digits
import IrcGateway.Text.Lines

/-!
# Numbers of a TOML document

Whole numbers have 64 bits and may be written in base ten, sixteen, eight or two. Other numbers have
a point or an exponent; they are only checked, for no setting has such a value. In either, single
underscores may stand between digits.
-/

namespace IrcGateway.Toml

open IrcGateway.Text

/-- The number that digits stand for which single underscores may separate. -/
def grouped? (base : Nat) (cs : List Char) : Option Nat :=
  let groups := pieces (· == '_') cs
  if groups.any List.isEmpty then none else readNat? base groups.flatten

/-- A number in base ten; a zero does not open a longer one. -/
def decimal? (cs : List Char) : Option Nat :=
  if cs.head? = some '0' ∧ cs ≠ ['0'] then none else grouped? 10 cs

/-- A number that fits a word with a sign. -/
def bounded? (n : Int) : Option Int :=
  if fitsSigned n then some n else none

/-- A whole number. Only one in base ten has a sign. -/
def integer? : List Char → Option Int
  | '0' :: 'x' :: cs => (grouped? 16 cs).bind fun n => bounded? n
  | '0' :: 'o' :: cs => (grouped? 8 cs).bind fun n => bounded? n
  | '0' :: 'b' :: cs => (grouped? 2 cs).bind fun n => bounded? n
  | '-' :: cs => (decimal? cs).bind fun n => bounded? (-n)
  | '+' :: cs => (decimal? cs).bind fun n => bounded? n
  | cs => (decimal? cs).bind fun n => bounded? n

/-- The text without a sign at its start. -/
def dropSign : List Char → List Char
  | '+' :: cs => cs
  | '-' :: cs => cs
  | cs => cs

/-- An exponent behind its letter; it may begin with zeros. -/
def power? (cs : List Char) : Option Int :=
  (grouped? 10 (dropSign cs)).map fun n => if cs.head? = some '-' then -(n : Int) else n

/-- The number `digits · 10^exponent` written with a point, an exponent, or both. -/
def scientific? (cs : List Char) : Option (Nat × Int) := do
  let mantissa := cs.takeWhile (fun c => c != 'e' && c != 'E')
  let power ←
    match cs.drop mantissa.length with
    | [] => some 0
    | _ :: digits => power? digits
  match splitAtFirst '.' mantissa with
  | some (whole, fraction) =>
    let places := (fraction.filter (· != '_')).length
    return ((← decimal? whole) * Nat.pow 10 places + (← grouped? 10 fraction), power - places)
  | none =>
    guard (mantissa.length < cs.length)
    return (← decimal? mantissa, power)

/-- The least number that is nearer to 2^1024 than to the largest double. -/
def doubleLimit : Nat := Nat.pow 2 1024 - Nat.pow 2 970

/-- Whether `digits · 10^exponent` is too large for a double. The count of digits decides where it
can, so that no large power is computed in vain. -/
def exceedsDouble (digits : Nat) (exponent : Int) : Bool :=
  let size := (Nat.toDigits 10 digits).length + exponent
  if digits = 0 ∨ size < 309 then false
  else if 310 < size then true
  else doubleLimit * Nat.pow 10 (-exponent).toNat ≤ digits * Nat.pow 10 exponent.toNat

/-- Whether a text is a number that need not be whole. Infinity has a name of its own, and only a
negative number may be too large for a double. -/
def isReal (cs : List Char) : Bool :=
  let body := dropSign cs
  if body = "inf".toList ∨ body = "nan".toList then true
  else
    match scientific? body with
    | some (digits, exponent) => cs.head? = some '-' || !exceedsDouble digits exponent
    | none => false

end IrcGateway.Toml
