import Retrieval.Fetch.Whole

/-! What a body comes to, said of its items and not of a loop over them: the first item that ends
a body decides, and a body that no item ends is the payload. -/
namespace Retrieval

namespace BodyItem

def data : BodyItem → Bytes
  | chunk data => data
  | _ => []

def outcome? : BodyItem → Option Fetch.Outcome
  | failure cause => some (.failure cause)
  | crash => some .crashed
  | stall => some .stalled
  | chunk _ | wait _ => none

end BodyItem

namespace Fetch

/-- What a body comes to: the first item that ends it decides. -/
def bodyOutcome (items : List BodyItem) : Outcome :=
  (items.findSome? BodyItem.outcome?).getD (.payload (items.flatMap BodyItem.data))

/-- The pieces of a body that come before its end and are not empty. -/
def arrived (items : List BodyItem) : List Bytes :=
  ((items.takeWhile (·.outcome?.isNone)).map BodyItem.data).filter (!·.isEmpty)

@[simp] theorem Outcome.prepend_nil (o : Outcome) : o.prepend [] = o := by
  cases o <;> rfl

theorem Outcome.prepend_append (first second : Bytes) (o : Outcome) :
    o.prepend (first ++ second) = (o.prepend second).prepend first := by
  cases o <;> simp only [prepend, List.append_assoc]

@[simp] theorem bodyOutcome_nil : bodyOutcome [] = .payload [] := rfl

@[simp] theorem bodyOutcome_chunk (data : Bytes) (rest : List BodyItem) :
    bodyOutcome (.chunk data :: rest) = (bodyOutcome rest).prepend data := by
  simp only [bodyOutcome, List.findSome?_cons, BodyItem.outcome?, List.flatMap_cons, BodyItem.data]
  cases h : rest.findSome? BodyItem.outcome? with
  | none => rfl
  | some o =>
    -- An outcome that an item brings holds no payload to put data in front of.
    obtain ⟨item, -, ho⟩ := List.exists_of_findSome?_eq_some h
    cases item <;> simp only [BodyItem.outcome?, Option.some.injEq, reduceCtorEq] at ho <;>
      subst ho <;> rfl

@[simp] theorem bodyOutcome_wait (turns : Nat) (rest : List BodyItem) :
    bodyOutcome (.wait turns :: rest) = bodyOutcome rest := rfl

@[simp] theorem bodyOutcome_failure (cause : LoadError) (rest : List BodyItem) :
    bodyOutcome (.failure cause :: rest) = .failure cause := rfl

@[simp] theorem bodyOutcome_crash (rest : List BodyItem) :
    bodyOutcome (.crash :: rest) = .crashed := rfl

@[simp] theorem bodyOutcome_stall (rest : List BodyItem) :
    bodyOutcome (.stall :: rest) = .stalled := rfl

theorem bodyOutcome_map_chunk_append (sent : List Bytes) (items : List BodyItem) :
    bodyOutcome (sent.map .chunk ++ items) = (bodyOutcome items).prepend sent.flatten := by
  induction sent with
  | nil => simp
  | cons piece rest ih =>
    rw [List.map_cons, List.cons_append, bodyOutcome_chunk, ih, List.flatten_cons,
      Outcome.prepend_append]

theorem bodyOutcome_map_chunk (sent : List Bytes) :
    bodyOutcome (sent.map .chunk) = .payload sent.flatten := by
  simpa [Outcome.prepend] using bodyOutcome_map_chunk_append sent []

@[simp] theorem arrived_nil : arrived [] = [] := rfl

@[simp] theorem arrived_chunk (data : Bytes) (rest : List BodyItem) :
    arrived (.chunk data :: rest) =
      if data.isEmpty then arrived rest else data :: arrived rest := by
  cases data <;> rfl

@[simp] theorem arrived_wait (turns : Nat) (rest : List BodyItem) :
    arrived (.wait turns :: rest) = arrived rest := rfl

@[simp] theorem arrived_failure (cause : LoadError) (rest : List BodyItem) :
    arrived (.failure cause :: rest) = [] := rfl

@[simp] theorem arrived_crash (rest : List BodyItem) : arrived (.crash :: rest) = [] := rfl

@[simp] theorem arrived_stall (rest : List BodyItem) : arrived (.stall :: rest) = [] := rfl

theorem arrived_map_chunk_append (sent : List Bytes) (items : List BodyItem) :
    arrived (sent.map .chunk ++ items) = sent.filter (!·.isEmpty) ++ arrived items := by
  induction sent with
  | nil => rfl
  | cons data rest ih =>
    rw [List.map_cons, List.cons_append, arrived_chunk, ih]
    cases data <;> rfl

theorem ne_nil_of_mem_arrived {items : List BodyItem} {data : Bytes}
    (h : data ∈ arrived items) : data ≠ [] := by
  have hf := (List.mem_filter.mp h).2
  rintro rfl
  exact absurd hf (by decide)

/-- Nothing of a payload is in an empty piece or lost with one. -/
theorem flatten_arrived {items : List BodyItem} {data : Bytes}
    (h : bodyOutcome items = .payload data) : (arrived items).flatten = data := by
  -- The payload is cut off piece by piece, and an empty piece cuts nothing off.
  induction items generalizing data with
  | nil => simpa using h
  | cons item rest ih =>
    cases item with
    | chunk piece =>
      rw [bodyOutcome_chunk] at h
      cases ho : bodyOutcome rest with
      | payload tail =>
        rw [ho] at h
        obtain rfl : piece ++ tail = data := Outcome.payload.inj h
        have htail := ih ho
        cases piece <;> simp [htail]
      | failure _ => simp [ho, Outcome.prepend] at h
      | crashed => simp [ho, Outcome.prepend] at h
      | stalled => simp [ho, Outcome.prepend] at h
    | wait turns =>
      rw [bodyOutcome_wait] at h
      rw [arrived_wait]
      exact ih h
    | failure cause =>
      rw [bodyOutcome_failure] at h
      cases h
    | crash =>
      rw [bodyOutcome_crash] at h
      cases h
    | stall =>
      rw [bodyOutcome_stall] at h
      cases h

end Fetch
end Retrieval
