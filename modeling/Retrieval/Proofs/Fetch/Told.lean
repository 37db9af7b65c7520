import Retrieval.Fetch.Course
import Retrieval.Proofs.Fetch.Verdict

/-! The events of a task in closed form: an opening, a heading if a response came, the data, and a
last word that the verdict decides. -/
namespace Retrieval.Fetch

def counted (p : Progress) : List Bytes → List Event
  | [] => []
  | data :: rest => .chunk data (p.add data.length) :: counted (p.add data.length) rest

namespace Outcome

def single : Outcome → List Event
  | payload data => [.chunk data ⟨0, data.length⟩]
  | _ => []

/-- What a task says last. One that breaks down or waits for ever says nothing. -/
def parting : Outcome → List Event
  | payload _ => [.complete]
  | failure cause => [.error cause]
  | crashed | stalled => []

/-- How a stream ends: as its task says, and by an error in place of the last word of a task that
broke down. -/
def lastWord (location : String) : Outcome → List Event
  | crashed => [.error (.taskAborted location)]
  | o => o.parting

def ending : Outcome → Ending
  | payload _ | failure _ => .finished
  | crashed => .crashed
  | stalled => .stalled

@[simp] theorem parting_prepend (data : Bytes) (o : Outcome) :
    (o.prepend data).parting = o.parting := by
  cases o <;> rfl

@[simp] theorem ending_prepend (data : Bytes) (o : Outcome) :
    (o.prepend data).ending = o.ending := by
  cases o <;> rfl

theorem ending_eq_stalled {o : Outcome} : o.ending = .stalled ↔ o = .stalled := by
  cases o <;> simp [ending]

end Outcome

def heading (location : String) : Reply → List Event
  | .response r => [.status location r.status r.headers]
  | _ => []

def announced : Reply → Nat
  | .response r => r.contentLength.getD 0
  | _ => 0

def handedOut (mode : Delivery) (total : Nat) (items : List BodyItem) : List Event :=
  match mode with
  | .progressive => counted ⟨0, total⟩ (arrived items)
  | .buffered => (bodyOutcome items).single

def chunks (mode : Delivery) (reply : Reply) : List Event :=
  match reply.body? with
  | some items => handedOut mode (announced reply) items
  | none => []

def Course.Tells (c : Course) (events : List Event) (ending : Ending) : Prop :=
  c.events = events ∧ c.ending = ending

theorem Course.Tells.after_emit {c : Course} {events : List Event} {ending : Ending}
    (h : c.Tells events ending) (event : Event) (t : Transfer) :
    (c.after (.emit event) t).Tells (event :: events) ending :=
  ⟨congrArg (event :: ·) h.1, h.2⟩

theorem Course.Tells.after_report {c : Course} {events : List Event} {ending : Ending}
    (h : c.Tells events ending) (entry : Log.Event) (t : Transfer) :
    (c.after (.report entry) t).Tells events ending := h

theorem Course.Tells.after_send {c : Course} {events : List Event} {ending : Ending}
    (h : c.Tells events ending) (request : Request) (target : Target) (t : Transfer) :
    (c.after (.send request target) t).Tells events ending := h

theorem Course.Tells.after_reports {c : Course} {events : List Event} {ending : Ending}
    (h : c.Tells events ending) (entries : List Log.Event) (t : Transfer) :
    Course.Tells { c with steps := entries.map (fun entry => ⟨.report entry, t⟩) ++ c.steps }
      events ending := by
  induction entries with
  | nil => exact h
  | cons entry rest ih => exact ih

theorem tells_abandon {t : Transfer} (ht : t.phase.isTerminal = false) (location : String)
    (cause : LoadError) : (abandon location t cause).Tells [.error cause] .finished := by
  simp only [abandon, Transfer.apply_fail ht]
  exact ⟨rfl, rfl⟩

theorem tells_completed {t : Transfer} (ht : t.Receiving) (location : String) :
    (completed location t).Tells [.complete] .finished := by
  simp only [completed, guarded_finish ht]
  exact ⟨rfl, rfl⟩

/-- Piece by piece, a body is told in chunks with their readings, then in its parting word. -/
theorem tells_eachPiece {t : Transfer} (ht : t.Receiving) (location : String)
    (items : List BodyItem) :
    (eachPiece location t items).Tells
      (counted t.progress (arrived items) ++ (bodyOutcome items).parting)
      (bodyOutcome items).ending := by
  -- The counters of the transfer are those that the next chunk starts from.
  induction items generalizing t with
  | nil => exact tells_completed ht location
  | cons item rest ih =>
    cases item with
    | chunk data =>
      by_cases hd : data.isEmpty = true
      · simp only [eachPiece, bodyOutcome_chunk, arrived_chunk, if_pos hd, Outcome.parting_prepend,
          Outcome.ending_prepend]
        exact ih ht
      · simp only [eachPiece, bodyOutcome_chunk, arrived_chunk, if_neg hd, guarded_data ht,
          Outcome.parting_prepend, Outcome.ending_prepend]
        have hnext := ih (Transfer.receiving_perform_data t data.length)
        exact hnext.after_emit _ _
    | wait turns =>
      simp only [eachPiece, bodyOutcome_wait, arrived_wait]
      exact ih ht
    | failure cause =>
      simp only [eachPiece, bodyOutcome_failure, arrived_failure]
      exact tells_abandon ht.not_terminal location cause
    | crash =>
      simp only [eachPiece, bodyOutcome_crash, arrived_crash]
      exact ⟨rfl, rfl⟩
    | stall =>
      simp only [eachPiece, bodyOutcome_stall, arrived_stall]
      exact ⟨rfl, rfl⟩

theorem tells_onePiece {t : Transfer} (ht : t.Receiving) (location : String) (data : Bytes) :
    (onePiece location t data).Tells
      ((Outcome.payload data).single ++ (Outcome.payload data).parting) .finished := by
  simp only [onePiece, guarded_data ht]
  have hlast := tells_completed (Transfer.receiving_perform_data t data.length) location
  exact hlast.after_emit _ _

/-- All at once: a chunk is handed out for a payload only, and it holds the pieces in the order in
which they came. -/
theorem tells_collected {t : Transfer} (ht : t.Receiving) (location : String)
    (held : List Bytes) (items : List BodyItem) :
    let o := (bodyOutcome items).prepend held.reverse.flatten
    (collected location t held items).Tells (o.single ++ o.parting) o.ending := by
  induction items generalizing held with
  | nil =>
    simp only [collected, bodyOutcome_nil, Outcome.prepend, List.append_nil]
    exact tells_onePiece ht location held.reverse.flatten
  | cons item rest ih =>
    cases item with
    | chunk data =>
      -- Pieces are held the last first, so that a new one comes behind the others.
      have hheld : (data :: held).reverse.flatten = held.reverse.flatten ++ data := by
        simp only [List.reverse_cons, List.flatten_append, List.flatten_cons, List.flatten_nil,
          List.append_nil]
      have hrest := ih (data :: held)
      rw [hheld, Outcome.prepend_append] at hrest
      simpa only [collected, bodyOutcome_chunk] using hrest
    | wait turns => exact ih held
    | failure cause => exact tells_abandon ht.not_terminal location cause
    | crash => exact ⟨rfl, rfl⟩
    | stall => exact ⟨rfl, rfl⟩

theorem tells_deliver {t : Transfer} (ht : t.Receiving) (location : String) {total : Nat}
    (hp : t.progress = ⟨0, total⟩) (items : List BodyItem) :
    (deliver location t items).Tells
      (handedOut t.mode total items ++ (bodyOutcome items).parting)
      (bodyOutcome items).ending := by
  cases hm : t.mode with
  | progressive =>
    simp only [deliver, hm, handedOut, ← hp]
    exact tells_eachPiece ht location items
  | buffered =>
    simp only [deliver, hm, handedOut]
    simpa only [List.reverse_nil, List.flatten_nil, Outcome.prepend_nil] using
      tells_collected ht location [] items

/-- A response is told in its heading, its chunks and the parting word of its verdict. -/
theorem tells_respond {t : Transfer} (ht : t.phase = .opened) (hp : t.progress = ⟨0, 0⟩)
    (location : String) (reply : Reply) :
    (respond location t reply).Tells
      (heading location reply ++ chunks t.mode reply ++ (verdict location reply).parting)
      (verdict location reply).ending := by
  cases reply with
  | crash => exact ⟨rfl, rfl⟩
  | refusal cause => exact tells_abandon (by rw [ht]; rfl) location cause
  | response r =>
    let received := t.perform (.headers (r.contentLength.getD 0))
    have hr : received.Receiving := Transfer.receiving_perform_headers t _
    have hh : guarded t (.headers (r.contentLength.getD 0)) = .ok received :=
      guarded_of_accepted (by rw [ht]; rfl)
    have hprogress : received.progress = ⟨0, announced (.response r)⟩ := by
      simp only [received, Transfer.perform, hp, announced]
    simp only [respond, hh]
    rcases accept_cases location r with ⟨cause, ha, hv, hb⟩ | ⟨items, ha, hv, hb⟩
    · rw [ha, hv]
      simp only [chunks, hb, List.append_nil]
      exact (tells_abandon hr.not_terminal location cause).after_emit _ _
    · rw [ha, hv]
      simp only [chunks, hb]
      exact (tells_deliver hr location hprogress items).after_emit _ _

/-- The whole course of a task. What it tells depends on the reply, the location and the mode. -/
theorem tells_course (request : Request) (target : Target) (mode : Delivery) (answer : Answer) :
    (course request target mode answer).Tells
      (.opened :: (heading request.location answer.reply ++ chunks mode answer.reply ++
        (verdict request.location answer.reply).parting))
      (verdict request.location answer.reply).ending := by
  let opened := ({ mode } : Transfer).perform .start
  have hs : guarded { mode } .start = .ok opened := guarded_of_accepted rfl
  have hrest : (respond request.location opened answer.reply).Tells
      (heading request.location answer.reply ++ chunks mode answer.reply ++
        (verdict request.location answer.reply).parting)
      (verdict request.location answer.reply).ending :=
    tells_respond rfl rfl request.location answer.reply
  have hasked := (hrest.after_reports answer.reports opened).after_send request target opened
  simp only [course, hs]
  exact (hasked.after_emit _ _).after_report _ _

/-- All events that a stream with this task has for a listener who stays. -/
def Course.promised (location : String) (c : Course) : List Event :=
  c.events ++ if c.ending = .crashed then [.error (.taskAborted location)] else []

/-- The events of a stream. They depend on the answer, the location and the mode, and neither on
the room in the channel nor on the order in which task and listener take their turns. -/
def promised (location : String) (mode : Delivery) (answer : Answer) : List Event :=
  .opened :: (heading location answer.reply ++ chunks mode answer.reply ++
    (verdict location answer.reply).lastWord location)

theorem promised_eq (location : String) (mode : Delivery) (answer : Answer) :
    promised location mode answer =
      .opened :: (heading location answer.reply ++ chunks mode answer.reply ++
        (verdict location answer.reply).lastWord location) := rfl

theorem promised_course (request : Request) (target : Target) (mode : Delivery)
    (answer : Answer) :
    (course request target mode answer).promised request.location =
      promised request.location mode answer := by
  obtain ⟨he, hend⟩ := tells_course request target mode answer
  simp only [promised_eq, Course.promised, he, hend]
  cases verdict request.location answer.reply <;>
    simp [Outcome.ending, Outcome.parting, Outcome.lastWord]

/-- Answers with the same heading, the same chunks and the same verdict bring the same events. -/
theorem promised_congr {location : String} {mode : Delivery} {first second : Answer}
    (hh : heading location first.reply = heading location second.reply)
    (hc : chunks mode first.reply = chunks mode second.reply)
    (hv : verdict location first.reply = verdict location second.reply) :
    promised location mode first = promised location mode second := by
  rw [promised_eq, promised_eq, hh, hc, hv]

end Retrieval.Fetch
