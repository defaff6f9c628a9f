/-!
# Shortest decimals

A positive binary fraction `m · 2^q` stands for every real that rounds to it. Among the decimals in
that interval the shortest is the one with the fewest digits; of two with equally many the nearer to
the fraction, and of two equally near the larger. All arithmetic is exact, on natural numbers.

A double is written as that decimal, always in positional notation: no exponent, and neither point
nor zeros after the last digit that counts. Zero keeps its sign, and the values that are no numbers
are `NaN`, `inf` and `-inf`.
-/

namespace IrcGateway.Decimal

/-- A positive binary fraction together with the interval of reals that round to it, measured in
quarters of its last place: the fraction itself is `centre · 2^unit`. -/
structure Rounded where
  /-- The fraction, in quarters of its last place. -/
  centre : Nat
  /-- The lower end of the interval. -/
  low : Nat
  /-- The upper end of the interval. -/
  high : Nat
  /-- The power of two that a quarter of the last place is. -/
  unit : Int
  /-- Whether the two ends round to the fraction as well. -/
  closed : Bool
  deriving Repr

/-- A decimal number `digits · 10^exponent`. -/
structure Number where
  digits : Nat
  exponent : Int
  deriving DecidableEq, Repr

/-- How many digits a natural number has in base ten. -/
def digitCount (n : Nat) : Nat :=
  (Nat.toDigits 10 n).length

/-- The exponent `e` with `10^(e-1) ≤ x < 10^e`, for `x` the fraction `num / den`. -/
def magnitude (num den : Nat) : Int :=
  if den ≤ num then digitCount (num / den)
  else 1 - (digitCount (den / num) : Int)

namespace Rounded

/-- The factor on a count of quarters, when counts are compared with multiples of `10^k`. -/
def quarterScale (r : Rounded) (k : Int) : Nat :=
  Nat.pow 2 r.unit.toNat * Nat.pow 10 (-k).toNat

/-- The factor on a multiple of `10^k`, when it is compared with counts of quarters. -/
def gridScale (r : Rounded) (k : Int) : Nat :=
  Nat.pow 10 k.toNat * Nat.pow 2 (-r.unit).toNat

/-- Whether the decimal `d · 10^k` rounds to the fraction. -/
def admits (r : Rounded) (k : Int) (d : Nat) : Bool :=
  let x := d * r.gridScale k
  let low := r.low * r.quarterScale k
  let high := r.high * r.quarterScale k
  (low < x && x < high) || (r.closed && (x == low || x == high))

/-- The multiple of `10^k` next to the fraction that rounds to it, if there is one. Of two the
nearer is taken, and the upper one if both are equally near. -/
def onGrid (r : Rounded) (k : Int) : Option Number :=
  let value := r.centre * r.quarterScale k
  let grid := r.gridScale k
  let d := value / grid
  match r.admits k d, r.admits k (d + 1) with
  | true, true => some (if 2 * value < (2 * d + 1) * grid then ⟨d, k⟩ else ⟨d + 1, k⟩)
  | true, false => some ⟨d, k⟩
  | false, true => some ⟨d + 1, k⟩
  | false, false => none

/-- The shortest decimal that rounds to the fraction. Seventeen digits always suffice for a fraction
of 53 binary places, so the last grid is never left. -/
def shortest (r : Rounded) : Number :=
  let e := magnitude (r.centre * r.quarterScale 0) (r.gridScale 0)
  let grids := (List.range 17).map (fun n : Nat => e - (n + 1 : Nat))
  let last := e - 17
  (grids.findSome? r.onGrid).getD ⟨r.centre * r.quarterScale last / r.gridScale last, last⟩

/-- The positive double with the given exponent and fraction fields. The gap below a power of two is
half the gap above it, except at the smallest exponents. -/
def ofFields (exponent fraction : Nat) : Rounded :=
  let m := if exponent = 0 then fraction else fraction + Nat.pow 2 52
  let q : Int := (max exponent 1 : Nat) - 1075
  { centre := 4 * m
    low := if fraction = 0 ∧ 1 < exponent then 4 * m - 1 else 4 * m - 2
    high := 4 * m + 2
    unit := q - 2
    closed := m % 2 == 0 }

end Rounded

/-! ### Doubles as text -/

/-- The same number with no zero at the end of its digits. `fuel` bounds how many are dropped. -/
def Number.dropZeros (fuel : Nat) (n : Number) : Number :=
  match fuel with
  | 0 => n
  | fuel + 1 =>
    if n.digits ≠ 0 ∧ n.digits % 10 = 0 then
      Number.dropZeros fuel ⟨n.digits / 10, n.exponent + 1⟩
    else n

/-- A number in positional notation. -/
def Number.plain (n : Number) : List Char :=
  let n := n.dropZeros 20
  let ds := Nat.toDigits 10 n.digits
  let places := (-n.exponent).toNat
  if 0 ≤ n.exponent then ds ++ List.replicate n.exponent.toNat '0'
  else if places < ds.length then
    ds.take (ds.length - places) ++ '.' :: ds.drop (ds.length - places)
  else '0' :: '.' :: (List.replicate (places - ds.length) '0' ++ ds)

/-- A double as text. -/
def plain (x : Float) : String :=
  let bits := x.toBits.toNat
  let exponent := bits / Nat.pow 2 52 % Nat.pow 2 11
  let fraction := bits % Nat.pow 2 52
  let sign := if bits < Nat.pow 2 63 then "" else "-"
  if exponent = Nat.pow 2 11 - 1 then (if fraction = 0 then sign ++ "inf" else "NaN")
  else if exponent = 0 ∧ fraction = 0 then sign ++ "0"
  else sign ++ String.ofList (Rounded.ofFields exponent fraction).shortest.plain

end IrcGateway.Decimal
