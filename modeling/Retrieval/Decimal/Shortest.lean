/-! The shortest decimal that reads back as a given binary number of fifty-three bits. All
quantities are whole numbers of a unit that is small enough for the points in question. -/
namespace Retrieval.Decimal

def twoTo (n : Nat) : Nat := 1 <<< n

def tenTo (n : Nat) : Nat := Nat.pow 10 n

/-- A positive binary number: `mantissa * 2 ^ (exponent - 1074)`. -/
structure Binary where
  mantissa : Nat
  exponent : Nat

namespace Binary

def ofBits (bits : UInt64) : Binary :=
  let field := bits.toNat / twoTo 52 % twoTo 11
  let fraction := bits.toNat % twoTo 52
  if field = 0 then ⟨fraction, 0⟩ else ⟨twoTo 52 + fraction, field - 1⟩

def ofDecimal (mantissa places : Nat) : Binary :=
  ofBits (Float.ofScientific mantissa true places).toBits

/-- Decimal points down to this exponent are whole multiples of the unit. -/
def depth : Nat := 400

/-- One quarter of the least distance between binary numbers, times the unit's fineness. -/
def quarter : Nat := tenTo depth

def value (b : Binary) : Nat := b.mantissa * twoTo (b.exponent + 2) * quarter

/-- The least value that reads back, in units. Below a power of two the next number is nearer. -/
def low (b : Binary) : Nat :=
  let gap := if b.mantissa = twoTo 52 ∧ b.exponent > 0 then 1 else 2
  b.value - gap * twoTo b.exponent * quarter

/-- The greatest value that reads back, in units. -/
def high (b : Binary) : Nat := b.value + 2 * twoTo b.exponent * quarter

/-- Whether a value in units reads back. The ends do when the mantissa is even. -/
def reads (b : Binary) (point : Nat) : Bool :=
  if b.mantissa % 2 = 0 then b.low ≤ point && point ≤ b.high
  else b.low < point && point < b.high

def grid (place : Nat) : Nat := twoTo 1076 * tenTo place

/-- The point of a grid that is nearest to the number among those that read back. -/
def onGrid? (b : Binary) (place : Nat) : Option Nat :=
  let below := b.value / grid place
  let above := below + 1
  match b.reads (below * grid place), b.reads (above * grid place) with
  | true, false => some below
  | false, true => some above
  | false, false => none
  | true, true =>
    if b.value - below * grid place ≤ above * grid place - b.value then some below else some above

/-- The coarsest grid up to a place with a point that reads back: digits and place. -/
def search (b : Binary) : Nat → Nat × Nat
  | 0 => (b.value / grid 0, 0)
  | place + 1 =>
    match b.onGrid? (place + 1) with
    | some digits => (digits, place + 1)
    | none => search b place

def shortest (b : Binary) : Nat × Int :=
  let (digits, place) := search b (depth + 310)
  (digits, (place : Int) - depth)

def zeros (n : Nat) : String := String.ofList (List.replicate n '0')

def pointAfter (n : Nat) (digits : String) : String :=
  String.ofList (digits.toList.take n) ++ "." ++ String.ofList (digits.toList.drop n)

/-- The notation of digits and an exponent of ten: positional where the point stands at most sixteen
places behind the first digit or four zeros in front of it, else with an exponent after one digit. -/
def written (digits : String) (exponent : Int) : String :=
  let point := digits.length + exponent
  if 0 ≤ exponent ∧ point ≤ 16 then digits ++ zeros exponent.toNat ++ ".0"
  else if 0 < point ∧ point ≤ 16 then pointAfter point.toNat digits
  else if -5 < point ∧ point ≤ 0 then "0." ++ zeros (-point).toNat ++ digits
  else (if digits.length = 1 then digits else pointAfter 1 digits) ++ "e" ++ toString (point - 1)

def render (b : Binary) : String :=
  if b.mantissa = 0 then "0.0"
  else
    let (digits, exponent) := b.shortest
    written (toString digits) exponent

end Binary
end Retrieval.Decimal
