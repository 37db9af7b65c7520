/-! Sets of code points given by ranges. -/
namespace Retrieval

def inRanges (ranges : List (Nat × Nat)) (c : Char) : Bool :=
  ranges.any fun (low, high) => low ≤ c.toNat && c.toNat ≤ high

end Retrieval
