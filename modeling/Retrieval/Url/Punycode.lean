import Retrieval.Bytes

/-! The ASCII form of a label with other characters: its ASCII characters first, then, as digits to
base thirty-six, where and which the others are. -/
namespace Retrieval.Url.Punycode

/-- The least digit that does not end a number, at a position `k` of the number. -/
def threshold (k bias : Nat) : Nat := min (max (k - bias) 1) 26

def settle (delta : Nat) : Nat :=
  if delta > 455 then 36 + settle (delta / 35) else 36 * delta / (delta + 38)
termination_by delta
decreasing_by omega

/-- The bias for the number after one of size `delta`, when `points` characters are placed. -/
def adapt (delta points : Nat) (first : Bool) : Nat :=
  let scaled := if first then delta / 700 else delta / 2
  settle (scaled + scaled / points)

def digit? (c : Char) : Option Nat :=
  if 'a' ≤ c ∧ c ≤ 'z' then some (c.toNat - 'a'.toNat)
  else if 'A' ≤ c ∧ c ≤ 'Z' then some (c.toNat - 'A'.toNat)
  else if '0' ≤ c ∧ c ≤ '9' then some (c.toNat - '0'.toNat + 26)
  else none

def digit (n : Nat) : Char :=
  if n < 26 then Char.ofNat (n + 'a'.toNat) else Char.ofNat (n - 26 + '0'.toNat)

def number? (bias k weight acc : Nat) : List Char → Option (Nat × List Char)
  | [] => none
  | c :: rest => do
    let d ← digit? c
    let t := threshold k bias
    if d < t then some (acc + d * weight, rest)
    else number? bias (k + 36) (weight * (36 - t)) (acc + d * weight) rest

theorem number?_length_lt {bias k weight acc n : Nat} {cs rest : List Char}
    (h : number? bias k weight acc cs = some (n, rest)) : rest.length < cs.length := by
  induction cs generalizing k weight acc with
  | nil => simp [number?] at h
  | cons c tail ih =>
    cases hd : digit? c with
    | none => simp [number?, hd] at h
    | some d =>
      simp only [number?, hd, Option.bind_eq_bind, Option.bind_some] at h
      split at h
      · obtain ⟨-, rfl⟩ : _ ∧ tail = rest := by simpa using h
        exact Nat.lt_succ_self _
      · exact Nat.lt_succ_of_lt (ih h)

def place? (point i bias : Nat) (out : List Char) (digits : List Char) : Option (List Char) :=
  match digits with
  | [] => some out
  | c :: tail =>
    match _h : number? bias 36 1 0 (c :: tail) with
    | none => none
    | some (delta, rest) =>
      let count := out.length + 1
      let position := i + delta
      let next := point + position / count
      let slot := position % count
      if Nat.isValidChar next then
        place? next (slot + 1) (adapt delta count (i == 0))
          (out.take slot ++ Char.ofNat next :: out.drop slot) rest
      else none
termination_by digits.length
decreasing_by exact number?_length_lt (by assumption)

/-- The label whose ASCII form, without its mark, is the text. -/
def decode? (cs : List Char) : Option (List Char) :=
  let tail := (cs.reverse.takeWhile (· != '-')).reverse
  let basic := cs.take (cs.length - tail.length - 1)
  if cs.all (·.toNat < 0x80) then place? 128 0 72 basic tail else none

def numberDigits (bias k n : Nat) : List Char :=
  let t := threshold k bias
  if h : n < t then [digit n]
  else digit (t + (n - t) % (36 - t)) :: numberDigits bias (k + 36) ((n - t) / (36 - t))
termination_by n
decreasing_by
  have h1 : 1 ≤ threshold k bias := by simp only [threshold]; omega
  have h2 : threshold k bias ≤ 26 := by simp only [threshold]; omega
  have : (n - threshold k bias) / (36 - threshold k bias) ≤ n - threshold k bias :=
    Nat.div_le_self _ _
  omega

/-- The state between characters of the label: the next number to write, the bias, how many
characters are placed, and the digits so far. -/
structure Progress where
  delta : Nat
  bias : Nat
  placed : Nat
  digits : List Char

def stepChar (basic point : Nat) (s : Progress) (c : Char) : Progress :=
  if c.toNat < point then { s with delta := s.delta + 1 }
  else if c.toNat = point then
    { delta := 0
      bias := adapt s.delta (s.placed + 1) (s.placed == basic)
      placed := s.placed + 1
      digits := s.digits ++ numberDigits s.bias 36 s.delta }
  else s

/-- Places all characters of one code point, the last code point done being `previous`. -/
def stepPoint (label : List Char) (basic : Nat) (s : Nat × Progress) (point : Nat) : Nat × Progress :=
  let (previous, s) := s
  let start := { s with delta := s.delta + (point - previous) * (s.placed + 1) }
  let done := label.foldl (stepChar basic point) start
  (point + 1, { done with delta := done.delta + 1 })

/-- The code points beyond ASCII of a label, ascending and each once. -/
def widePoints (label : List Char) : List Nat :=
  ((label.map Char.toNat).filter (· ≥ 0x80)).mergeSort.eraseDups

def encode (label : List Char) : List Char :=
  let basic := label.filter (·.toNat < 0x80)
  let start : Progress := ⟨0, 72, basic.length, []⟩
  let (_, done) := (widePoints label).foldl (stepPoint label basic.length) (128, start)
  (if basic.isEmpty then [] else basic ++ ['-']) ++ done.digits

end Retrieval.Url.Punycode
