import Retrieval.Proofs.Fetch.Body
import Retrieval.Proofs.Fetch.Guarded

/-! What a retrieval comes to, said of the reply alone. Fetching a resource as one payload comes to
exactly that. -/
namespace Retrieval

/-- The body that a retrieval reads: that of a response with a success status. -/
def Reply.body? : Reply → Option (List BodyItem)
  | response r => if r.status = 0 ∨ r.status = 200 then r.body else none
  | _ => none

namespace Fetch

/-- What a retrieval comes to. A refusal comes before everything else, then the status is looked
at, then whether there is a payload, and only then the body. -/
def verdict (location : String) : Reply → Outcome
  | .crash => .crashed
  | .refusal cause => .failure cause
  | .response r =>
    if r.status ≠ 0 ∧ r.status ≠ 200 then .failure (.http location r.status r.statusText)
    else
      match r.body with
      | none => .failure (.nullPayload location r.statusText)
      | some items => bodyOutcome items

/-- A response is refused for a cause, or its body is read and decides. -/
theorem accept_cases (location : String) (r : Response) :
    (∃ cause, accept location r = .error cause ∧
      verdict location (.response r) = .failure cause ∧ (Reply.response r).body? = none) ∨
    (∃ items, accept location r = .ok items ∧
      verdict location (.response r) = bodyOutcome items ∧
      (Reply.response r).body? = some items) := by
  have hs : r.isSuccess = true ↔ r.status = 0 ∨ r.status = 200 := by
    simp only [Response.isSuccess, Bool.or_eq_true, beq_iff_eq, or_comm]
  -- The status is looked at before the body.
  by_cases hr : r.status = 0 ∨ r.status = 200
  · have hn : ¬(r.status ≠ 0 ∧ r.status ≠ 200) := by omega
    cases hb : r.body with
    | none =>
      refine Or.inl ⟨.nullPayload location r.statusText, ?_, ?_, ?_⟩
      · simp only [accept, hs.mpr hr, hb, if_true]
      · simp only [verdict, hn, hb, if_false]
      · simp only [Reply.body?, hr, hb, if_true]
    | some items =>
      refine Or.inr ⟨items, ?_, ?_, ?_⟩
      · simp only [accept, hs.mpr hr, hb, if_true]
      · simp only [verdict, hn, hb, if_false]
      · simp only [Reply.body?, hr, hb, if_true]
  · have hf : ¬r.isSuccess = true := fun h => hr (hs.mp h)
    have hn : r.status ≠ 0 ∧ r.status ≠ 200 := by omega
    refine Or.inl ⟨.http location r.status r.statusText, ?_, ?_, ?_⟩
    · simp only [accept, if_neg hf]
    · simp only [verdict, if_pos hn]
    · simp only [Reply.body?, if_neg hr]

theorem body?_eq_some {reply : Reply} {items : List BodyItem} (h : reply.body? = some items) :
    ∃ r, reply = .response r ∧ (r.status = 0 ∨ r.status = 200) ∧ r.body = some items := by
  cases reply with
  | response r =>
    by_cases hr : r.status = 0 ∨ r.status = 200
    · exact ⟨r, rfl, hr, by simpa only [Reply.body?, if_pos hr] using h⟩
    · simp only [Reply.body?, if_neg hr, reduceCtorEq] at h
  | refusal _ => cases h
  | crash => cases h

theorem outcome_readWhole {t : Transfer} (ht : t.Receiving) (items : List BodyItem) :
    (readWhole t items).outcome = bodyOutcome items := by
  -- Data keep the transfer in a phase where more data and the end are accepted.
  induction items generalizing t with
  | nil => simp only [readWhole, guarded_finish ht, bodyOutcome_nil]
  | cons item rest ih =>
    cases item with
    | chunk data =>
      by_cases hd : data.isEmpty = true
      · obtain rfl : data = [] := List.isEmpty_iff.mp hd
        simpa [readWhole] using ih ht
      · have hnext := ih (Transfer.receiving_perform_data t data.length)
        simp only [readWhole, if_neg hd, guarded_data ht, bodyOutcome_chunk, hnext]
    | wait turns => exact ih ht
    | failure cause => rfl
    | crash => rfl
    | stall => rfl

/-- Whatever length is announced, the buffer that is asked for is no larger than the bound. -/
theorem reserved_eq (total : Nat) : reserved total = min total maxPrealloc := by
  have hbound : min total maxPrealloc < 2 ^ 64 :=
    Nat.lt_of_le_of_lt (Nat.min_le_right _ _) (by decide)
  rw [reserved, UInt64.toNat_ofNat_of_lt' hbound]

theorem reserved_le_maxBuffer (total : Nat) : reserved total ≤ Transport.maxBuffer := by
  have hbound : maxPrealloc ≤ Transport.maxBuffer := by decide
  rw [reserved_eq]
  exact Nat.le_trans (Nat.min_le_right _ _) hbound

/-- Asking for a buffer never breaks a retrieval down. -/
theorem readAnswer_response {t : Transfer} (ht : t.phase = .opened) (location : String)
    (r : Response) :
    readAnswer location t (.response r) =
      match accept location r with
      | .error cause =>
        { outcome := .failure cause, transfer := t.perform (.headers (r.contentLength.getD 0)) }
      | .ok items => readWhole (t.perform (.headers (r.contentLength.getD 0))) items := by
  have hh : guarded t (.headers (r.contentLength.getD 0)) =
      .ok (t.perform (.headers (r.contentLength.getD 0))) :=
    guarded_of_accepted (by rw [ht]; rfl)
  have hroom : ¬reserved (r.contentLength.getD 0) > Transport.maxBuffer :=
    Nat.not_lt.mpr (reserved_le_maxBuffer _)
  cases ha : accept location r <;> simp only [readAnswer, hh, ha, if_neg hroom]

/-- Reading an answer comes to its verdict. -/
theorem outcome_readAnswer {t : Transfer} (ht : t.phase = .opened) (location : String)
    (reply : Reply) : (readAnswer location t reply).outcome = verdict location reply := by
  cases reply with
  | crash => rfl
  | refusal cause => rfl
  | response r =>
    rw [readAnswer_response ht]
    rcases accept_cases location r with ⟨cause, ha, hv, -⟩ | ⟨items, ha, hv, -⟩
    · rw [ha, hv]
    · rw [ha, hv]
      exact outcome_readWhole (Transfer.receiving_perform_headers t _) items

/-- Entering and reporting a failure does not change what a retrieval came to. -/
theorem outcome_conclude (location : String) (w : Whole) :
    (conclude location w).outcome = w.outcome := by
  unfold conclude
  split
  · split <;> rfl
  · rfl

theorem outcome_whole (request : Request) (target : Target) (answer : Answer) :
    (whole request target answer).outcome = verdict request.location answer.reply := by
  have hs : guarded { mode := .buffered } .start =
      .ok (({ mode := .buffered } : Transfer).perform .start) := guarded_of_accepted rfl
  simp only [whole, hs, outcome_conclude]
  exact outcome_readAnswer rfl request.location answer.reply

end Fetch
end Retrieval
