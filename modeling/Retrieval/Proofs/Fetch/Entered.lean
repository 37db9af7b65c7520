import Retrieval.Proofs.Fetch.Operations

/-! The operations of fetching a resource as one payload. The pieces of the body are entered as they
come, and a failure is entered and reported when the reading is over. -/
namespace Retrieval.Fetch

open Transfer (Operation)

namespace Outcome

def finishing : Outcome → List Operation
  | payload _ => [.finish]
  | _ => []

def failing : Outcome → List Operation
  | failure _ => [.fail]
  | _ => []

@[simp] theorem finishing_prepend (data : Bytes) (o : Outcome) :
    (o.prepend data).finishing = o.finishing := by
  cases o <;> rfl

theorem closing_eq (o : Outcome) : o.closing = o.finishing ++ o.failing := by
  cases o <;> rfl

end Outcome

variable {location : String} {t : Transfer}

/-- Reading a body enters each piece that arrives, and the end if it is reached. -/
theorem readWhole_enters (ht : t.Receiving) (items : List BodyItem) :
    (readWhole t items).transfer =
        t.run (entering (arrived items) ++ (bodyOutcome items).finishing) ∧
      (readWhole t items).reports = [] := by
  -- The body is read item by item, and each piece of data is entered as it comes.
  induction items generalizing t with
  | nil =>
    have hend : t.run [.finish] = t.perform .finish :=
      Transfer.step_of_accepted ht.accepted_finish
    simp only [readWhole, guarded_finish ht]
    exact ⟨hend.symm, trivial⟩
  | cons item rest ih =>
    cases item with
    | chunk data =>
      rw [arrived_chunk, bodyOutcome_chunk, Outcome.finishing_prepend]
      by_cases hd : data.isEmpty = true
      · simp only [readWhole, if_pos hd]
        exact ih ht
      · have hstep : t.step (.data data.length) = t.perform (.data data.length) :=
          Transfer.step_of_accepted (ht.accepted_data data.length)
        obtain ⟨hrest, hnone⟩ := ih (Transfer.receiving_perform_data t data.length)
        simp only [readWhole, if_neg hd, guarded_data ht]
        refine ⟨?_, hnone⟩
        rw [hrest, ← hstep]
        rfl
    | wait turns => exact ih ht
    | failure cause => exact ⟨rfl, rfl⟩
    | crash => exact ⟨rfl, rfl⟩
    | stall => exact ⟨rfl, rfl⟩

/-- Reading an answer announces its length before the pieces. -/
theorem readAnswer_enters (ht : t.phase = .opened) (location : String) (reply : Reply) :
    (readAnswer location t reply).transfer =
        t.run (announcing reply ++ entering (arrivals reply) ++
          (verdict location reply).finishing) ∧
      (readAnswer location t reply).reports = [] := by
  cases reply with
  | crash => exact ⟨rfl, rfl⟩
  | refusal cause => exact ⟨rfl, rfl⟩
  | response r =>
    let headers : Operation := .headers (r.contentLength.getD 0)
    have hh : headers.accepted t.phase = true := by rw [ht]; rfl
    have hstep : t.step headers = t.perform headers := Transfer.step_of_accepted hh
    have hops : announcing (.response r) = [headers] := rfl
    rw [hops, List.singleton_append, List.cons_append, Transfer.run_cons, hstep,
      readAnswer_response ht]
    rcases accept_cases location r with ⟨cause, ha, hv, hb⟩ | ⟨items, ha, hv, hb⟩
    · have hnone : arrivals (.response r) = [] := by simp only [arrivals, hb]
      rw [ha, hv, hnone]
      exact ⟨rfl, rfl⟩
    · have hdata : arrivals (.response r) = arrived items := by simp only [arrivals, hb]
      rw [ha, hv, hdata]
      exact readWhole_enters (Transfer.receiving_perform_headers t _) items

/-- A failure that the transfer accepts is entered and reported. -/
theorem conclude_eq {w : Whole} (h : w.transfer.Accepts w.outcome.failing) (location : String) :
    conclude location w =
      { w with
        transfer := w.transfer.run w.outcome.failing
        reports := w.reports ++ w.outcome.failureReports location } := by
  obtain ⟨progress, outcome, transfer, reports, sent⟩ := w
  cases outcome with
  | failure cause =>
    have hf : Operation.fail.accepted transfer.phase = true := (Transfer.accepts_cons.mp h).1
    have hrun : transfer.run [.fail] = transfer.perform .fail := Transfer.run_single h
    simp only [conclude, Transfer.apply_of_accepted hf, Outcome.failing, Outcome.failureReports,
      hrun]
  | _ => simp [conclude, Outcome.failing, Outcome.failureReports, Transfer.run]

/-- A whole fetch enters what its answer comes to, and reports nothing but its failure. -/
theorem whole_enters (request : Request) (target : Target) (answer : Answer) :
    let location := request.location
    (whole request target answer).transfer = ({ mode := .buffered } : Transfer).run
        (operations location answer.reply (arrivals answer.reply)) ∧
      (whole request target answer).reports =
        answer.reports ++ (verdict location answer.reply).failureReports location := by
  intro location
  let fresh : Transfer := { mode := .buffered }
  let opened := fresh.perform .start
  let read := readAnswer location opened answer.reply
  let v := verdict location answer.reply
  let ops := announcing answer.reply ++ entering (arrivals answer.reply)
  have hs : guarded { mode := .buffered } .start = .ok opened := guarded_of_accepted rfl
  have ho : read.outcome = v := outcome_readAnswer rfl location answer.reply
  obtain ⟨ht, hnone⟩ : read.transfer = opened.run (ops ++ v.finishing) ∧ read.reports = [] :=
    readAnswer_enters rfl location answer.reply
  have hall : operations location answer.reply (arrivals answer.reply) =
      .start :: ((ops ++ v.finishing) ++ v.failing) := by
    simp only [operations, Outcome.closing_eq, ops, v, List.append_assoc]
  -- That all operations are accepted covers the failure that is entered last.
  have ha : fresh.Accepts (.start :: ((ops ++ v.finishing) ++ v.failing)) := by
    rw [← hall]
    exact accepts_operations location .buffered .progressive answer.reply
  let told : Whole :=
    { read with
      reports := answer.reports ++ read.reports
      sent := (request, target) :: read.sent }
  have hf : told.transfer.Accepts told.outcome.failing := by
    show read.transfer.Accepts read.outcome.failing
    rw [ho, ht]
    exact (Transfer.accepts_append.mp (Transfer.accepts_cons.mp ha).2).2
  have hw : whole request target answer = conclude location told := by
    simp only [whole, hs]
    rfl
  rw [hw, conclude_eq hf, hall]
  refine ⟨?_, ?_⟩
  · show read.transfer.run read.outcome.failing = _
    rw [ho, ht, ← Transfer.run_append]
    rfl
  · show answer.reports ++ read.reports ++ read.outcome.failureReports location = _
    rw [ho, hnone, List.append_nil]

end Retrieval.Fetch
