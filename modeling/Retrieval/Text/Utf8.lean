import Retrieval.Bytes

/-! Reading UTF-8. An ill-formed stretch is cut into maximal subparts: as many octets as could
still begin a character, and at least one. A strict reader refuses the text at the first such
part, and a lenient one shows a replacement character for each. -/
namespace Retrieval.Utf8

/-- What a first octet announces: how many octets follow, between which bounds the next one lies,
and the bits it contributes itself. -/
structure Lead where
  follow : Nat
  low : UInt8
  high : UInt8
  bits : Nat

/-- `none` for an octet that begins no character. The bounds of the second octet exclude overlong
forms, surrogates and values above the last code point. -/
def lead? (b : UInt8) : Option Lead :=
  if b < 0x80 then some ⟨0, 0x80, 0xBF, b.toNat⟩
  else if b < 0xC2 then none
  else if b < 0xE0 then some ⟨1, 0x80, 0xBF, b.toNat - 0xC0⟩
  else if b = 0xE0 then some ⟨2, 0xA0, 0xBF, 0⟩
  else if b = 0xED then some ⟨2, 0x80, 0x9F, 13⟩
  else if b < 0xF0 then some ⟨2, 0x80, 0xBF, b.toNat - 0xE0⟩
  else if b = 0xF0 then some ⟨3, 0x90, 0xBF, 0⟩
  else if b < 0xF4 then some ⟨3, 0x80, 0xBF, b.toNat - 0xF0⟩
  else if b = 0xF4 then some ⟨3, 0x80, 0x8F, 4⟩
  else none

/-- Reads the octets that follow a first one; `none` when one of them is missing or out of
bounds, which leaves it unread. -/
def continuation : Nat → UInt8 → UInt8 → Nat → Bytes → Option Nat × Bytes
  | 0, _, _, bits, rest => (some bits, rest)
  | _ + 1, _, _, _, [] => (none, [])
  | n + 1, low, high, bits, b :: rest =>
    if low ≤ b ∧ b ≤ high then continuation n 0x80 0xBF (bits * 64 + b.toNat % 64) rest
    else (none, b :: rest)

theorem continuation_length_le (n : Nat) (low high : UInt8) (bits : Nat) (bs : Bytes) :
    (continuation n low high bits bs).2.length ≤ bs.length := by
  fun_induction continuation n low high bits bs with
  | case1 => exact Nat.le_refl _
  | case2 => exact Nat.le_refl _
  | case3 n low high bits b rest h ih => exact Nat.le_succ_of_le ih
  | case4 => exact Nat.le_refl _

def chars : Bytes → List (Option Char)
  | [] => []
  | b :: rest =>
    match lead? b with
    | none => none :: chars rest
    | some l =>
      match h : continuation l.follow l.low l.high l.bits rest with
      | (read, rest') =>
        have : rest'.length ≤ rest.length := by
          have := continuation_length_le l.follow l.low l.high l.bits rest
          rwa [h] at this
        read.map Char.ofNat :: chars rest'
termination_by bs => bs.length
decreasing_by all_goals (simp only [List.length_cons]; omega)

def lenient (bs : Bytes) : String :=
  String.ofList ((chars bs).map fun c => c.getD '\uFFFD')

def strict? (bs : Bytes) : Option (List Char) := (chars bs).mapM id

end Retrieval.Utf8
