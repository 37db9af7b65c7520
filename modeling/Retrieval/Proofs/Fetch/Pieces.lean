import Retrieval.Proofs.Fetch.Told

/-! The data in the events of a stream. Piece by piece it is what has arrived of the body that is
read; all at once it is the payload, where there is one. -/
namespace Retrieval.Fetch

def Event.data? : Event → Option Bytes
  | chunk data _ => some data
  | _ => none

def pieces (events : List Event) : List Bytes := events.filterMap Event.data?

def arrivals (reply : Reply) : List Bytes :=
  match reply.body? with
  | some items => arrived items
  | none => []

/-- The payload as the only piece, where there is one. -/
def Outcome.payloads : Outcome → List Bytes
  | payload data => [data]
  | _ => []

theorem pieces_append (first second : List Event) :
    pieces (first ++ second) = pieces first ++ pieces second := List.filterMap_append

theorem pieces_counted (p : Progress) (data : List Bytes) : pieces (counted p data) = data := by
  induction data generalizing p with
  | nil => rfl
  | cons bytes rest ih => exact congrArg (bytes :: ·) (ih _)

theorem pieces_single (o : Outcome) : pieces o.single = o.payloads := by
  cases o <;> rfl

theorem pieces_heading (location : String) (reply : Reply) :
    pieces (heading location reply) = [] := by
  cases reply <;> rfl

theorem pieces_lastWord (location : String) (o : Outcome) : pieces (o.lastWord location) = [] := by
  cases o <;> rfl

theorem verdict_cases (location : String) (reply : Reply) :
    (∃ items, reply.body? = some items ∧ verdict location reply = bodyOutcome items) ∨
    (reply.body? = none ∧ ∀ data, verdict location reply ≠ .payload data) := by
  cases reply with
  | response r =>
    rcases accept_cases location r with ⟨cause, -, hv, hb⟩ | ⟨items, -, hv, hb⟩
    · exact Or.inr ⟨hb, fun data h => by rw [hv] at h; cases h⟩
    · exact Or.inl ⟨items, hb, hv⟩
  | refusal cause => exact Or.inr ⟨rfl, fun data h => by cases h⟩
  | crash => exact Or.inr ⟨rfl, fun data h => by cases h⟩

/-- One by one the chunks carry what arrives, and in one piece they carry the payload. -/
theorem pieces_chunks (location : String) (mode : Delivery) (reply : Reply) :
    pieces (chunks mode reply) =
      match mode with
      | .progressive => arrivals reply
      | .buffered => (verdict location reply).payloads := by
  rcases verdict_cases location reply with ⟨items, hb, hv⟩ | ⟨hb, hv⟩
  · cases mode with
    | progressive => simp only [chunks, hb, handedOut, pieces_counted, arrivals]
    | buffered => simp only [chunks, hb, handedOut, pieces_single, hv]
  · cases mode with
    | progressive => simp only [chunks, hb, arrivals]; rfl
    | buffered =>
      -- Where no body is read there is no payload.
      have hnone : (verdict location reply).payloads = [] := by
        cases ho : verdict location reply with
        | payload data => exact absurd ho (hv data)
        | failure cause => rfl
        | crashed => rfl
        | stalled => rfl
      simp only [chunks, hb, hnone]
      rfl

theorem pieces_promised (location : String) (mode : Delivery) (answer : Answer) :
    pieces (promised location mode answer) =
      match mode with
      | .progressive => arrivals answer.reply
      | .buffered => (verdict location answer.reply).payloads := by
  rw [promised_eq, ← pieces_chunks location mode answer.reply]
  have hopen (rest : List Event) : pieces (.opened :: rest) = pieces rest := rfl
  rw [hopen, pieces_append, pieces_append, pieces_heading, pieces_lastWord, List.nil_append,
    List.append_nil]

theorem ne_nil_of_mem_arrivals {reply : Reply} {data : Bytes} (h : data ∈ arrivals reply) :
    data ≠ [] := by
  unfold arrivals at h
  split at h
  · exact ne_nil_of_mem_arrived h
  · cases h

theorem flatten_arrivals {location : String} {reply : Reply} {data : Bytes}
    (h : verdict location reply = .payload data) : (arrivals reply).flatten = data := by
  rcases verdict_cases location reply with ⟨items, hb, hv⟩ | ⟨-, hv⟩
  · simp only [arrivals, hb]
    exact flatten_arrived (hv ▸ h)
  · exact absurd h (hv data)

/-- In both modes the pieces of a stream that brings a payload make up that payload. -/
theorem flatten_pieces_promised {location : String} {answer : Answer} {data : Bytes}
    (h : verdict location answer.reply = .payload data) (mode : Delivery) :
    (pieces (promised location mode answer)).flatten = data := by
  rw [pieces_promised]
  cases mode with
  | progressive => exact flatten_arrivals h
  | buffered =>
    rw [h]
    exact List.append_nil data

end Retrieval.Fetch
