import IrcGateway.Text.Digits

/-!
# Dates and times of a TOML document

A date, a time of day, or both, then possibly with an offset from UTC. They are only checked, for no
setting has such a value. A minute may have a second more, for leap seconds.
-/

namespace IrcGateway.Toml

open IrcGateway.Text

/-- The days of a month. -/
def daysOfMonth (year month : Nat) : Nat :=
  if month = 2 then
    if year % 4 = 0 ∧ (year % 100 ≠ 0 ∨ year % 400 = 0) then 29 else 28
  else if month = 4 ∨ month = 6 ∨ month = 9 ∨ month = 11 then 30
  else 31

/-- Whether digits stand for a number from `low` to `high`. -/
def inRange (low high : Nat) (digits : List Char) : Bool :=
  (readNat? 10 digits).any fun n => low ≤ n && n ≤ high

/-- Whether a text is a date. -/
def isDate : List Char → Bool
  | [y₁, y₂, y₃, y₄, '-', m₁, m₂, '-', d₁, d₂] =>
    match readNat? 10 [y₁, y₂, y₃, y₄], readNat? 10 [m₁, m₂] with
    | some year, some month =>
      1 ≤ month && month ≤ 12 && inRange 1 (daysOfMonth year month) [d₁, d₂]
    | _, _ => false
  | _ => false

/-- What follows a time of day at the start of a text. -/
def afterTime? : List Char → Option (List Char)
  | h₁ :: h₂ :: ':' :: m₁ :: m₂ :: ':' :: s₁ :: s₂ :: rest =>
    if inRange 0 23 [h₁, h₂] && inRange 0 59 [m₁, m₂] && inRange 0 60 [s₁, s₂] then
      match rest with
      | '.' :: decimals =>
        let rest := decimals.dropWhile Char.isDigit
        if rest.length < decimals.length then some rest else none
      | rest => some rest
    else none
  | _ => none

/-- Whether a text is an offset from UTC, or empty. -/
def isOffset : List Char → Bool
  | [] => true
  | ['Z'] => true
  | ['z'] => true
  | [sign, h₁, h₂, ':', m₁, m₂] =>
    (sign == '+' || sign == '-') && inRange 0 23 [h₁, h₂] && inRange 0 59 [m₁, m₂]
  | _ => false

/-- Whether a text is a time of day that may have an offset. -/
def isTimeWithOffset (cs : List Char) : Bool :=
  (afterTime? cs).any isOffset

/-- Whether a text is a date, a time of day, or both with the letter T between them. -/
def isMoment (cs : List Char) : Bool :=
  isDate cs || afterTime? cs == some []
    || (isDate (cs.take 10)
      && match cs.drop 10 with
        | 'T' :: time => isTimeWithOffset time
        | 't' :: time => isTimeWithOffset time
        | _ => false)

end IrcGateway.Toml
