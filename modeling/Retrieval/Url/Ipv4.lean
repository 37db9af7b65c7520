import Retrieval.Bytes

/-! Addresses of four octets, in any of the notations that hosts use: one to four parts, each
decimal, octal or hexadecimal, the last part filling the octets that are left. -/
namespace Retrieval.Url

def digitsValue? (base : Nat) (cs : List Char) : Option Nat :=
  cs.foldl (fun acc c => do
    let n ← acc
    let d ← hexValue? c
    if d < base then some (n * base + d) else none) (some 0)

namespace Ipv4

/-- One part: `0x` marks hexadecimal and another leading zero octal; a mark alone is zero. -/
def part? : List Char → Option Nat
  | [] => none
  | '0' :: 'x' :: digits => digitsValue? 16 digits
  | '0' :: 'X' :: digits => digitsValue? 16 digits
  | '0' :: d :: digits => digitsValue? 8 (d :: digits)
  | digits => digitsValue? 10 digits

def labels (cs : List Char) : List (List Char) :=
  let all := cs.splitOn '.'
  if all.getLast? = some [] then all.dropLast else all

/-- Whether the last label is a number, so that the host can only be an address. -/
def endsInNumber (cs : List Char) : Bool :=
  match (labels cs).getLast? with
  | none => false
  | some last => (!last.isEmpty && last.all Char.isDigit) || (part? last).isSome

def octets (n : Nat) : List Nat :=
  [n / 0x1000000 % 256, n / 0x10000 % 256, n / 0x100 % 256, n % 256]

def parse? (cs : List Char) : Option Nat := do
  let parts := labels cs
  if parts.length > 4 then none
  let numbers ← parts.mapM part?
  let last ← numbers.getLast?
  let front := numbers.dropLast
  if front.any (· > 255) || last ≥ 1 <<< (8 * (4 - front.length)) then none
  some (front.foldr (fun n acc => n * 0x1000000 + acc / 256) 0 + last)

def render (n : Nat) : String := ".".intercalate ((octets n).map toString)

end Ipv4
end Retrieval.Url
