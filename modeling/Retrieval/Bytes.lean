/-! Byte strings and the bytes that write a text down. -/
namespace Retrieval

/-- A payload, a path or any other run of octets. -/
abbrev Bytes := List UInt8

def utf8 (s : String) : Bytes := s.toList.flatMap String.utf8EncodeChar

def hexDigit (n : Nat) : Char := Nat.digitChar (n % 16)

def hexOctet (b : UInt8) : List Char := [hexDigit (b.toNat / 16), hexDigit b.toNat]

def Bytes.hex (bs : Bytes) : String := String.ofList (bs.flatMap hexOctet)

/-- A byte string cut into pieces of one length, the last one shorter where it does not fit. -/
def Bytes.pieces (size : Nat) (data : Bytes) : List Bytes :=
  if _h : size = 0 ∨ data = [] then []
  else data.take size :: Bytes.pieces size (data.drop size)
termination_by data.length
decreasing_by
  have : 0 < data.length := List.length_pos_iff.mpr fun hd => _h (Or.inr hd)
  simp only [List.length_drop]
  omega

def hexValue? (c : Char) : Option Nat :=
  if '0' ≤ c ∧ c ≤ '9' then some (c.toNat - '0'.toNat)
  else if 'a' ≤ c ∧ c ≤ 'f' then some (c.toNat - 'a'.toNat + 10)
  else if 'A' ≤ c ∧ c ≤ 'F' then some (c.toNat - 'A'.toNat + 10)
  else none

end Retrieval
