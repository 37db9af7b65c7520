import Retrieval.Url.Ipv4

/-! Addresses of eight pieces of sixteen bits. Two colons stand for one or more zero pieces, and
the last two pieces may be written as a dotted address. -/
namespace Retrieval.Url.Ipv6

def hexPiece (limit value : Nat) : List Char → Nat × List Char
  | [] => (value, [])
  | c :: rest =>
    match limit, hexValue? c with
    | limit + 1, some d => hexPiece limit (value * 16 + d) rest
    | _, _ => (value, c :: rest)

theorem hexPiece_length_le (limit value : Nat) (cs : List Char) :
    (hexPiece limit value cs).2.length ≤ cs.length := by
  induction cs generalizing limit value with
  | nil => simp [hexPiece]
  | cons c rest ih =>
    unfold hexPiece
    split
    · exact Nat.le_succ_of_le (ih _ _)
    · exact Nat.le_refl _

def decimalOctet? (cs : List Char) : Option Nat :=
  match cs with
  | [] => none
  | '0' :: _ :: _ => none
  | _ => do
    if cs.all Char.isDigit && cs.length ≤ 3 then
      let n ← digitsValue? 10 cs
      if n ≤ 255 then some n else none
    else none

/-- The two pieces that a dotted address of exactly four decimal octets stands for. -/
def dotted? (cs : List Char) : Option (List Nat) := do
  match ← (cs.splitOn '.').mapM decimalOctet? with
  | [a, b, c, d] => some [a * 256 + b, c * 256 + d]
  | _ => none

/-- The pieces read so far, and how many of them stand before the two colons if these were seen. -/
structure Partial where
  pieces : List Nat
  gap : Option Nat

def pieces? (seen : Partial) (cs : List Char) : Option Partial :=
  match h : cs with
  | [] => some seen
  | ':' :: rest =>
    if seen.pieces.length ≥ 8 || seen.gap.isSome then none
    else pieces? ⟨seen.pieces ++ [0], some (seen.pieces.length + 1)⟩ rest
  | c :: tail =>
    if seen.pieces.length ≥ 8 || (hexValue? c).isNone then none
    else
      match _hr : hexPiece 4 0 (c :: tail) with
      | (value, []) => some ⟨seen.pieces ++ [value], seen.gap⟩
      | (value, ':' :: next :: rest) => pieces? ⟨seen.pieces ++ [value], seen.gap⟩ (next :: rest)
      | (_, '.' :: _) =>
        if seen.pieces.length > 6 then none
        else (dotted? (c :: tail)).map fun two => ⟨seen.pieces ++ two, seen.gap⟩
      | _ => none
termination_by cs.length
decreasing_by
  · simp
  · have := hexPiece_length_le 4 0 (c :: tail)
    rw [_hr] at this
    simp only [List.length_cons] at this ⊢
    omega

/-- Reads the pieces that are written out. One colon alone cannot stand in front. -/
def written? (cs : List Char) : Option Partial :=
  match cs with
  | ':' :: rest =>
    match rest with
    | ':' :: others => pieces? ⟨[0], some 1⟩ others
    | _ => none
  | _ => if cs.length < 2 then none else pieces? ⟨[], none⟩ cs

def parse? (cs : List Char) : Option (List Nat) :=
  match written? cs with
  | none => none
  | some ⟨pieces, none⟩ => if pieces.length = 8 then some pieces else none
  | some ⟨pieces, some n⟩ =>
    some (pieces.take n ++ List.replicate (8 - pieces.length) 0 ++ pieces.drop n)

def zeroRun (pieces : List Nat) : Nat := (pieces.takeWhile (· == 0)).length

/-- Where the first of the longest runs of zero pieces begins, and its length. -/
def longestZeroRun (pieces : List Nat) : Nat × Nat :=
  (List.range pieces.length).foldl (fun best i =>
    let n := zeroRun (pieces.drop i)
    if n > best.2 then (i, n) else best) (0, 0)

def renderPieces (pieces : List Nat) : String :=
  ":".intercalate (pieces.map fun n => String.ofList (Nat.toDigits 16 n))

/-- Lower-case pieces without leading zeros, the longest run of at least two zero pieces left
out. -/
def render (pieces : List Nat) : String :=
  match longestZeroRun pieces with
  | (start, n) =>
    if n < 2 then renderPieces pieces
    else renderPieces (pieces.take start) ++ "::" ++ renderPieces (pieces.drop (start + n))

end Retrieval.Url.Ipv6
