/-!
# Reading UTF-8

A decoder of UTF-8 as a machine that takes one byte at a time, so that a text may arrive in any
pieces. A byte sequence that can no longer become a character is given up as soon as this is
certain: its bytes so far are one fault, and the byte that broke it starts anew. A fault reads as
U+FFFD in `decodeLossy`, and `decode?` refuses a text that has one.

* `run_append`: reading two pieces in turn reads their concatenation.
-/

namespace IrcGateway.Text.Utf8

/-- A character that has begun: how many continuation bytes are missing, the bounds on the next one,
and the value of the bits read so far. -/
structure Begun where
  missing : Nat
  low : Nat
  high : Nat
  value : Nat
  deriving DecidableEq, Repr

/-- One item read: a character, or a byte sequence that is none. -/
inductive Item where
  | char (c : Char)
  | fault
  deriving DecidableEq, Repr

/-- Reads a byte where a character may begin. The bounds on the second byte leave out overlong
forms, surrogates and values above the last code point. -/
def first (b : Nat) : List Item × Option Begun :=
  if b < 0x80 then ([.char (Char.ofNat b)], none)
  else if 0xC2 ≤ b && b ≤ 0xDF then ([], some ⟨1, 0x80, 0xBF, b - 0xC0⟩)
  else if b == 0xE0 then ([], some ⟨2, 0xA0, 0xBF, 0⟩)
  else if b == 0xED then ([], some ⟨2, 0x80, 0x9F, 0xD⟩)
  else if 0xE1 ≤ b && b ≤ 0xEF then ([], some ⟨2, 0x80, 0xBF, b - 0xE0⟩)
  else if b == 0xF0 then ([], some ⟨3, 0x90, 0xBF, 0⟩)
  else if 0xF1 ≤ b && b ≤ 0xF3 then ([], some ⟨3, 0x80, 0xBF, b - 0xF0⟩)
  else if b == 0xF4 then ([], some ⟨3, 0x80, 0x8F, 4⟩)
  else ([.fault], none)

/-- Reads one byte. -/
def step (state : Option Begun) (byte : UInt8) : List Item × Option Begun :=
  let b := byte.toNat
  match state with
  | none => first b
  | some p =>
    if p.low ≤ b && b ≤ p.high then
      let value := p.value * 64 + (b - 0x80)
      if p.missing ≤ 1 then ([.char (Char.ofNat value)], none)
      else ([], some ⟨p.missing - 1, 0x80, 0xBF, value⟩)
    else
      let (items, next) := first b
      (.fault :: items, next)

/-- Reads bytes in order, from a state to a state. -/
def run : Option Begun → List UInt8 → List Item × Option Begun
  | state, [] => ([], state)
  | state, b :: bs =>
    let (items, next) := step state b
    let (rest, last) := run next bs
    (items ++ rest, last)

theorem run_append (state : Option Begun) (bs cs : List UInt8) :
    run state (bs ++ cs)
      = ((run state bs).1 ++ (run (run state bs).2 cs).1, (run (run state bs).2 cs).2) := by
  induction bs generalizing state with
  | nil => simp [run]
  | cons b bs ih => simp [run, ih, List.append_assoc]

/-- The items of a whole text: a character left unfinished at its end is a fault. -/
def items (bytes : List UInt8) : List Item :=
  match run none bytes with
  | (read, none) => read
  | (read, some _) => read ++ [.fault]

/-- The text with U+FFFD for every fault. -/
def decodeLossy (bytes : List UInt8) : List Char :=
  (items bytes).map fun
    | .char c => c
    | .fault => '\uFFFD'

/-- The text, if the bytes are UTF-8 throughout. -/
def decode? (bytes : List UInt8) : Option (List Char) :=
  (items bytes).mapM fun
    | .char c => some c
    | .fault => none

end IrcGateway.Text.Utf8
