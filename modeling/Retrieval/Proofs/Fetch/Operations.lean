import Retrieval.Proofs.Fetch.Pieces
import Retrieval.Proofs.Transfer.Language

/-! The operations that a retrieval asks of its transfer, said of the reply alone, and the steps of
a task between them. Each operation is accepted in the state that those before it lead to, so that
no retrieval takes a turn that a rejection would force on it. -/
namespace Retrieval.Fetch

open Transfer (Operation)

def entering (data : List Bytes) : List Operation := data.map fun piece => .data piece.length

def announcing : Reply → List Operation
  | .response r => [.headers (r.contentLength.getD 0)]
  | _ => []

namespace Outcome

def closing : Outcome → List Operation
  | payload _ => [.finish]
  | failure _ => [.fail]
  | crashed | stalled => []

def failureReports (location : String) : Outcome → List Log.Event
  | failure cause => [failureReport location cause]
  | _ => []

end Outcome

def operations (location : String) (reply : Reply) (data : List Bytes) : List Operation :=
  .start :: (announcing reply ++ entering data ++ (verdict location reply).closing)

/-- The pieces in which the task of a stream enters its data. -/
def portions (location : String) (mode : Delivery) (reply : Reply) : List Bytes :=
  match mode with
  | .progressive => arrivals reply
  | .buffered => (verdict location reply).payloads

/-- Neither an end nor a failure is told. -/
def Act.quiet : Act → Bool
  | emit event => !event.isTerminal
  | report _ | send .. => true

def noted (steps : List Step) : List Log.Event := steps.filterMap fun s => s.act.entry?

/-- Quiet steps from one state of a transfer to another, in the states that operations lead
through. Each operation is accepted. -/
inductive Leads : Transfer → List Operation → List Step → Transfer → Prop
  | stay (t : Transfer) : Leads t [] [] t
  | act {t last : Transfer} {ops : List Operation} {steps : List Step} (a : Act)
      (quiet : a.quiet = true) (rest : Leads t ops steps last) : Leads t ops (⟨a, t⟩ :: steps) last
  | enter {t next last : Transfer} {op : Operation} {ops : List Operation} {steps : List Step}
      (accepted : t.apply op = .ok next) (rest : Leads next ops steps last) :
      Leads t (op :: ops) steps last

variable {location : String} {t last : Transfer} {ops : List Operation} {steps : List Step}

namespace Leads

theorem accepts (h : Leads t ops steps last) : t.Accepts ops := by
  induction h with
  | stay t => trivial
  | act a quiet rest ih => exact ih
  | enter accepted rest ih => exact ⟨_, accepted, ih⟩

theorem run (h : Leads t ops steps last) : t.run ops = last := by
  induction h with
  | stay t => rfl
  | act a quiet rest ih => exact ih
  | @enter t next last op ops steps accepted rest ih =>
    rw [Transfer.run_cons, Transfer.step_of_apply accepted]
    exact ih

/-- As long as the life of the transfer is not over, no step on the way is the last one. -/
theorem open_steps (h : Leads t ops steps last) (hl : last.phase.isTerminal = false) :
    ∀ s ∈ steps, s.act.quiet = true ∧ s.transfer.phase.isTerminal = false := by
  induction h with
  | stay t => intro s hs; cases hs
  | @act t last ops steps a quiet rest ih =>
    intro s hs
    rcases List.mem_cons.mp hs with rfl | hs
    · refine ⟨quiet, Bool.eq_false_iff.mpr fun hover => ?_⟩
      -- From the end of a life nothing leads on.
      have hsame := rest.run
      rw [Transfer.run_of_terminal hover] at hsame
      rw [← hsame, hover] at hl
      cases hl
    · exact ih hl s hs
  | enter accepted rest ih => exact ih hl

end Leads

def completionReport (location : String) (loaded : Nat) : Log.Event :=
  { target := loaderTarget
    level := .debug
    message := "streaming transfer completed"
    fields := [⟨"location", .display location⟩, ⟨"loaded", .number loaded⟩] }

def startReport (location : String) (mode : Delivery) : Log.Event :=
  { target := loaderTarget
    level := .debug
    message := "streaming transfer started"
    fields := [⟨"location", .display location⟩, ⟨"mode", .display mode.name⟩] }

def lastSteps (location : String) (t : Transfer) : Outcome → List Step
  | .payload _ =>
    [⟨.emit .complete, t.perform .finish⟩,
      ⟨.report (completionReport location t.progress.loaded), t.perform .finish⟩]
  | .failure cause =>
    [⟨.report (failureReport location cause), t.perform .fail⟩,
      ⟨.emit (.error cause), t.perform .fail⟩]
  | .crashed | .stalled => []

/-- A course that leads through operations to its last steps, and what it notes before them. -/
def Course.Performs (location : String) (t : Transfer) (ops : List Operation)
    (entries : List Log.Event) (o : Outcome) (c : Course) : Prop :=
  ∃ opening last, c.steps = opening ++ lastSteps location last o ∧ Leads t ops opening last ∧
    noted opening = entries ∧ last.phase.isTerminal = false ∧ last.Accepts o.closing

namespace Course.Performs

variable {entries : List Log.Event} {o : Outcome} {c : Course}

theorem after_emit (h : c.Performs location t ops entries o) {event : Event}
    (he : event.isTerminal = false) :
    (c.after (.emit event) t).Performs location t ops entries o := by
  obtain ⟨opening, last, hsteps, hleads, hnoted, hlast⟩ := h
  refine ⟨⟨.emit event, t⟩ :: opening, last, ?_, ?_, hnoted, hlast⟩
  · exact congrArg (⟨.emit event, t⟩ :: ·) hsteps
  · exact .act _ (by simp only [Act.quiet, he, Bool.not_false]) hleads

theorem after_report (h : c.Performs location t ops entries o) (entry : Log.Event) :
    (c.after (.report entry) t).Performs location t ops (entry :: entries) o := by
  obtain ⟨opening, last, hsteps, hleads, hnoted, hlast⟩ := h
  refine ⟨⟨.report entry, t⟩ :: opening, last, ?_, .act _ rfl hleads, ?_, hlast⟩
  · exact congrArg (⟨.report entry, t⟩ :: ·) hsteps
  · exact congrArg (entry :: ·) hnoted

theorem after_send (h : c.Performs location t ops entries o) (request : Request)
    (target : Target) : (c.after (.send request target) t).Performs location t ops entries o := by
  obtain ⟨opening, last, hsteps, hleads, hnoted, hlast⟩ := h
  refine ⟨⟨.send request target, t⟩ :: opening, last, ?_, .act _ rfl hleads, hnoted, hlast⟩
  exact congrArg (⟨.send request target, t⟩ :: ·) hsteps

theorem after_reports (h : c.Performs location t ops entries o) (more : List Log.Event) :
    Course.Performs location t ops (more ++ entries) o
      { c with steps := more.map (fun entry => ⟨.report entry, t⟩) ++ c.steps } := by
  induction more with
  | nil => exact h
  | cons entry rest ih => exact ih.after_report entry

theorem enter {op : Operation} (ha : op.accepted t.phase = true)
    (h : c.Performs location (t.perform op) ops entries o) :
    c.Performs location t (op :: ops) entries o := by
  obtain ⟨opening, last, hsteps, hleads, hlast⟩ := h
  exact ⟨opening, last, hsteps, .enter (Transfer.apply_of_accepted ha) hleads, hlast⟩

/-- Data in front of a payload do not change how a course ends. -/
theorem prepend (h : c.Performs location t ops entries o) (data : Bytes) :
    c.Performs location t ops entries (o.prepend data) := by
  cases o <;> exact h

end Course.Performs

theorem performs_abandon (ht : t.phase.isTerminal = false) (location : String)
    (cause : LoadError) :
    (abandon location t cause).Performs location t [] [] (.failure cause) := by
  have hf : Operation.fail.accepted t.phase = true := by
    simp only [Operation.accepted, ht, Bool.not_false]
  refine ⟨[], t, ?_, .stay t, rfl, ht, Transfer.accepts_cons.mpr ⟨hf, trivial⟩⟩
  simp only [abandon, Transfer.apply_fail ht]
  rfl

theorem performs_completed (ht : t.Receiving) (location : String) (data : Bytes) :
    (completed location t).Performs location t [] [] (.payload data) := by
  refine ⟨[], t, ?_, .stay t, rfl, ht.not_terminal,
    Transfer.accepts_cons.mpr ⟨ht.accepted_finish, trivial⟩⟩
  simp only [completed, guarded_finish ht]
  rfl

/-- A transport that breaks down or falls silent takes its task with it. -/
theorem performs_stop (ht : t.phase.isTerminal = false) (location : String) {o : Outcome}
    (ho : o = .crashed ∨ o = .stalled) :
    (Course.stop o.ending).Performs location t [] [] o := by
  rcases ho with rfl | rfl <;> exact ⟨[], t, rfl, .stay t, rfl, ht, trivial⟩

/-- A body handed out piece by piece enters the pieces and what the body comes to. -/
theorem performs_eachPiece (ht : t.Receiving) (location : String) (items : List BodyItem) :
    (eachPiece location t items).Performs location t (entering (arrived items)) []
      (bodyOutcome items) := by
  -- Each piece that is entered leaves the transfer receiving.
  induction items generalizing t with
  | nil => exact performs_completed ht location []
  | cons item rest ih =>
    cases item with
    | chunk data =>
      rw [bodyOutcome_chunk, arrived_chunk]
      apply Course.Performs.prepend
      by_cases hd : data.isEmpty = true
      · simp only [eachPiece, if_pos hd]
        exact ih ht
      · simp only [eachPiece, if_neg hd, guarded_data ht]
        have hrest := ih (Transfer.receiving_perform_data t data.length)
        exact (hrest.after_emit rfl).enter (ht.accepted_data data.length)
    | wait turns =>
      rw [bodyOutcome_wait, arrived_wait]
      exact ih ht
    | failure cause => exact performs_abandon ht.not_terminal location cause
    | crash => exact performs_stop ht.not_terminal location (Or.inl rfl)
    | stall => exact performs_stop ht.not_terminal location (Or.inr rfl)

theorem performs_onePiece (ht : t.Receiving) (location : String) (data : Bytes) :
    (onePiece location t data).Performs location t (entering [data]) [] (.payload data) := by
  simp only [onePiece, guarded_data ht]
  have hlast := performs_completed (Transfer.receiving_perform_data t data.length) location data
  exact (hlast.after_emit rfl).enter (ht.accepted_data data.length)

/-- A body collected into one piece enters that piece if there is a payload, and nothing before. -/
theorem performs_collected (ht : t.Receiving) (location : String) (held : List Bytes)
    (items : List BodyItem) :
    let o := (bodyOutcome items).prepend held.reverse.flatten
    (collected location t held items).Performs location t (entering o.payloads) [] o := by
  -- Nothing is entered before the end of the body.
  induction items generalizing held with
  | nil =>
    simp only [collected, bodyOutcome_nil, Outcome.prepend, List.append_nil]
    exact performs_onePiece ht location held.reverse.flatten
  | cons item rest ih =>
    cases item with
    | chunk data =>
      have hheld : (data :: held).reverse.flatten = held.reverse.flatten ++ data := by
        simp only [List.reverse_cons, List.flatten_append, List.flatten_cons, List.flatten_nil,
          List.append_nil]
      have hrest := ih (data :: held)
      rw [hheld, Outcome.prepend_append] at hrest
      simpa only [collected, bodyOutcome_chunk] using hrest
    | wait turns => exact ih held
    | failure cause => exact performs_abandon ht.not_terminal location cause
    | crash => exact performs_stop ht.not_terminal location (Or.inl rfl)
    | stall => exact performs_stop ht.not_terminal location (Or.inr rfl)

theorem portions_of_body {reply : Reply} {items : List BodyItem} (hb : reply.body? = some items)
    (hv : verdict location reply = bodyOutcome items) (mode : Delivery) :
    portions location mode reply =
      match mode with
      | .progressive => arrived items
      | .buffered => (bodyOutcome items).payloads := by
  cases mode with
  | progressive => simp only [portions, arrivals, hb]
  | buffered => simp only [portions, hv]

theorem portions_of_failure {reply : Reply} {cause : LoadError} (hb : reply.body? = none)
    (hv : verdict location reply = .failure cause) (mode : Delivery) :
    portions location mode reply = [] := by
  cases mode with
  | progressive => simp only [portions, arrivals, hb]
  | buffered => simp only [portions, hv, Outcome.payloads]

theorem performs_deliver (ht : t.Receiving) {reply : Reply} {items : List BodyItem}
    (hb : reply.body? = some items) (hv : verdict location reply = bodyOutcome items) :
    (deliver location t items).Performs location t (entering (portions location t.mode reply)) []
      (bodyOutcome items) := by
  rw [portions_of_body hb hv]
  cases hm : t.mode with
  | progressive =>
    simp only [deliver, hm]
    exact performs_eachPiece ht location items
  | buffered =>
    simp only [deliver, hm]
    simpa only [List.reverse_nil, List.flatten_nil, Outcome.prepend_nil] using
      performs_collected ht location [] items

/-- A reply announces its length and enters the pieces that its mode makes of the body. -/
theorem performs_respond (ht : t.phase = .opened) (location : String) (reply : Reply) :
    (respond location t reply).Performs location t
      (announcing reply ++ entering (portions location t.mode reply)) []
      (verdict location reply) := by
  have hopen : t.phase.isTerminal = false := by rw [ht]; rfl
  cases reply with
  | crash =>
    have hnone : portions location t.mode .crash = [] := by cases t.mode <;> rfl
    rw [hnone]
    exact performs_stop hopen location (Or.inl rfl)
  | refusal cause =>
    rw [portions_of_failure rfl rfl]
    exact performs_abandon hopen location cause
  | response r =>
    let headers : Operation := .headers (r.contentLength.getD 0)
    have hh : headers.accepted t.phase = true := by rw [ht]; rfl
    have hr : (t.perform headers).Receiving := Transfer.receiving_perform_headers t _
    have hg : guarded t (.headers (r.contentLength.getD 0)) = .ok (t.perform headers) :=
      guarded_of_accepted hh
    have hops : announcing (.response r) = [headers] := rfl
    rw [hops, List.singleton_append]
    simp only [respond, hg]
    apply Course.Performs.enter hh
    -- Status and headers have gone out when the response is judged.
    refine Course.Performs.after_emit ?_ rfl
    rcases accept_cases location r with ⟨cause, ha, hv, hb⟩ | ⟨items, ha, hv, hb⟩
    · rw [ha, hv, portions_of_failure hb hv]
      exact performs_abandon hr.not_terminal location cause
    · rw [ha, hv]
      exact performs_deliver hr hb hv

/-- The whole course of a task. What the transport notes on the way stands behind the opening. -/
theorem performs_course (request : Request) (target : Target) (mode : Delivery)
    (answer : Answer) :
    (course request target mode answer).Performs request.location { mode }
      (.start ::
        (announcing answer.reply ++ entering (portions request.location mode answer.reply)))
      (startReport request.location mode :: answer.reports)
      (verdict request.location answer.reply) := by
  let opened := ({ mode } : Transfer).perform .start
  have hs : guarded { mode } .start = .ok opened := guarded_of_accepted rfl
  have hrest : (respond request.location opened answer.reply).Performs request.location opened
      (announcing answer.reply ++ entering (portions request.location mode answer.reply)) []
      (verdict request.location answer.reply) :=
    performs_respond rfl request.location answer.reply
  have hreports := hrest.after_reports answer.reports
  rw [List.append_nil] at hreports
  have hasked := hreports.after_send request target
  have hemit := hasked.after_emit (show Event.opened.isTerminal = false from rfl)
  have hopened := hemit.enter (t := { mode }) rfl
  simp only [course, hs]
  exact hopened.after_report _

/-- All operations of a retrieval are accepted, in whichever pieces the data are entered. -/
theorem accepts_operations (location : String) (mode pieced : Delivery) (reply : Reply) :
    ({ mode } : Transfer).Accepts (operations location reply (portions location pieced reply)) := by
  obtain ⟨opening, last, -, hleads, -, -, hclosing⟩ :=
    performs_course { location } (.file []) pieced { reply }
  have ha : ({ mode := pieced } : Transfer).Accepts
      ((.start :: (announcing reply ++ entering (portions location pieced reply))) ++
        (verdict location reply).closing) := by
    rw [Transfer.accepts_append, hleads.run]
    exact ⟨hleads.accepts, hclosing⟩
  -- What is accepted does not depend on the mode.
  exact Transfer.accepts_of_regular mode (Transfer.regular_of_accepts pieced ha)

theorem phase_closing {o : Outcome} (ht : t.phase.isTerminal = false) (ha : t.Accepts o.closing) :
    ((t.run o.closing).phase = .completed ↔ ∃ data, o = .payload data) ∧
      ((t.run o.closing).phase = .failed ↔ ∃ cause, o = .failure cause) := by
  have hopen : t.phase ≠ .completed ∧ t.phase ≠ .failed := by
    constructor <;> intro h <;> rw [h] at ht <;> cases ht
  cases o with
  | payload data =>
    have hfinish : t.run [.finish] = t.perform .finish := Transfer.run_single ha
    simp [Outcome.closing, hfinish, Transfer.perform]
  | failure cause =>
    have hfail : t.run [.fail] = t.perform .fail := Transfer.run_single ha
    simp [Outcome.closing, hfail, Transfer.perform]
  | crashed => simp [Outcome.closing, Transfer.run, hopen]
  | stalled => simp [Outcome.closing, Transfer.run, hopen]

/-- The operations of a transfer complete it or fail it as the verdict has it, whatever the pieces.
-/
theorem phase_operations (location : String) (mode pieced : Delivery) (reply : Reply) :
    let last := ({ mode } : Transfer).run
      (operations location reply (portions location pieced reply))
    (last.phase = .completed ↔ ∃ data, verdict location reply = .payload data) ∧
      (last.phase = .failed ↔ ∃ cause, verdict location reply = .failure cause) := by
  let before := Operation.start :: (announcing reply ++ entering (portions location pieced reply))
  have ha : ({ mode } : Transfer).Accepts (before ++ (verdict location reply).closing) :=
    accepts_operations location mode pieced reply
  have hfinish : .finish ∉ before := by cases reply <;> simp [before, announcing, entering]
  have hfail : .fail ∉ before := by cases reply <;> simp [before, announcing, entering]
  have hopen := Transfer.isTerminal_run (t := { mode }) rfl hfinish hfail
  have hlast : ({ mode } : Transfer).run
      (operations location reply (portions location pieced reply)) =
        (({ mode } : Transfer).run before).run (verdict location reply).closing :=
    Transfer.run_append _ before _
  dsimp only
  rw [hlast]
  exact phase_closing hopen (Transfer.accepts_append.mp ha).2

end Retrieval.Fetch
