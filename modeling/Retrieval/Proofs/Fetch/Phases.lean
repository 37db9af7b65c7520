import Retrieval.Proofs.Fetch.Entered
import Retrieval.Proofs.Fetch.Grammar
import Retrieval.Proofs.Fetch.Taken

/-! The phase that a retrieval leaves its transfer in. All its operations are accepted, whatever the
transport answers and wherever the listener goes away, and the phase at the end says which of the
ways out was taken. -/
namespace Retrieval

/-- The transport gives this error, in place of a response or in the body that is read. -/
def Reply.Raises (cause : LoadError) (reply : Reply) : Prop :=
  reply = .refusal cause ∨ ∃ items, reply.body? = some items ∧ .failure cause ∈ items

namespace Fetch

open Transfer (Operation)

def Outcome.lastReports (location : String) (loaded : Nat) : Outcome → List Log.Event
  | payload _ => [completionReport location loaded]
  | o => o.failureReports location

structure Concluded (location : String) (answer : Answer) (w : Whole) : Prop where
  /-- No operation is rejected, the failure at the end included. -/
  accepted : ({ mode := .buffered } : Transfer).Accepts
    (operations location answer.reply (arrivals answer.reply))
  transfer : w.transfer = ({ mode := .buffered } : Transfer).run
    (operations location answer.reply (arrivals answer.reply))
  /-- A failure is noted once, and never as one that came too late. -/
  reports : w.reports = answer.reports ++ w.outcome.failureReports location
  /-- A rejected operation would be the cause of a failure. -/
  legal : ∀ cause, w.outcome = .failure (.illegalTransition cause) →
    answer.reply.Raises (.illegalTransition cause)
  completed : w.transfer.phase = .completed ↔ ∃ data, w.outcome = .payload data
  failed : w.transfer.phase = .failed ↔ ∃ cause, w.outcome = .failure cause

/-- What holds of a task at every point of every schedule. -/
structure Lawful (location : String) (mode : Delivery) (answer : Answer) (w : Watched)
    (moves : List Move) : Prop where
  /-- No operation is rejected, the failure at the end included. -/
  accepted : ({ mode } : Transfer).Accepts
    (operations location answer.reply (portions location mode answer.reply))
  /-- The transfer has come through the first of these operations. -/
  transfer : ∃ begun,
    begun <+: operations location answer.reply (portions location mode answer.reply) ∧
      (w.run moves).stream.transfer = ({ mode } : Transfer).run begun
  /-- What was noted is the beginning of this, where no failure comes too late. -/
  noted : ∃ loaded, noted (w.taken moves) <+: startReport location mode ::
    (answer.reports ++ (verdict location answer.reply).lastReports location loaded)
  legal : ∀ cause, .error (.illegalTransition cause) ∈ emitted (w.taken moves) ++
    (w.run moves).received → answer.reply.Raises (.illegalTransition cause)

/-- The end of a task that was not stopped from outside and did not break down, by the steps it
took, the events that nobody was there to take and the state of its transfer. -/
structure Settled (location : String) (taken : List Step) (unheard : List Event)
    (last : Transfer) : Prop where
  completed : last.phase = .completed ↔ .complete ∈ emitted taken
  /-- The failure was reported and handed out, and nothing was done after that. -/
  failed : last.phase = .failed ↔ ∃ cause before, taken = before ++
    [⟨.report (failureReport location cause), last⟩, ⟨.emit (.error cause), last⟩]
  left : last.phase.isTerminal = false ↔ ∃ event, unheard = [event] ∧ event.isTerminal = false

variable {location : String} {o : Outcome}

/-- A body fails only with a failure that stands in it. -/
theorem bodyOutcome_eq_failure {items : List BodyItem} {cause : LoadError}
    (h : bodyOutcome items = .failure cause) : .failure cause ∈ items := by
  unfold bodyOutcome at h
  cases ho : items.findSome? BodyItem.outcome? with
  | none =>
    rw [ho] at h
    cases h
  | some o =>
    rw [ho] at h
    obtain rfl : o = .failure cause := h
    obtain ⟨item, hm, hitem⟩ := List.exists_of_findSome?_eq_some ho
    cases item with
    | failure other =>
      obtain rfl := Outcome.failure.inj (Option.some.inj hitem)
      exact hm
    | chunk data => cases hitem
    | wait turns => cases hitem
    | crash => cases Option.some.inj hitem
    | stall => cases Option.some.inj hitem

/-- What a retrieval fails with is an error status, a payload that is not there or an error of the
transport. -/
theorem verdict_eq_failure {reply : Reply} {cause : LoadError}
    (h : verdict location reply = .failure cause) :
    (∃ status text, cause = .http location status text) ∨
      (∃ text, cause = .nullPayload location text) ∨ reply.Raises cause := by
  cases reply with
  | crash => cases h
  | refusal other =>
    obtain rfl := Outcome.failure.inj h
    exact Or.inr (Or.inr (Or.inl rfl))
  | response r =>
    by_cases hs : r.status ≠ 0 ∧ r.status ≠ 200
    · simp only [verdict, if_pos hs] at h
      exact Or.inl ⟨_, _, (Outcome.failure.inj h).symm⟩
    · simp only [verdict, if_neg hs] at h
      have hr : r.status = 0 ∨ r.status = 200 := by omega
      cases hb : r.body with
      | none =>
        rw [hb] at h
        exact Or.inr (Or.inl ⟨_, (Outcome.failure.inj h).symm⟩)
      | some items =>
        rw [hb] at h
        have hbody : (Reply.response r).body? = some items := by
          simp only [Reply.body?, if_pos hr, hb]
        exact Or.inr (Or.inr (Or.inr ⟨items, hbody, bodyOutcome_eq_failure h⟩))

theorem raises_of_illegal {reply : Reply} {cause : IllegalTransition}
    (h : verdict location reply = .failure (.illegalTransition cause)) :
    reply.Raises (.illegalTransition cause) := by
  rcases verdict_eq_failure h with ⟨_, _, hc⟩ | ⟨_, hc⟩ | hr
  · cases hc
  · cases hc
  · exact hr

section

variable {fresh u t : Transfer} {ops : List Operation} {steps opening taken front : List Step}
  {unheard : List Event}

/-- Steps on the way reach what the first operations lead to. -/
theorem Leads.reached_begun (h : Leads t ops steps u) (hf : front <+: steps) :
    ∃ begun, begun <+: ops ∧ reached t front = t.run begun := by
  induction h generalizing front with
  | stay t =>
    rw [List.prefix_nil.mp hf]
    exact ⟨[], List.nil_prefix, rfl⟩
  | @act t last ops steps a quiet rest ih =>
    cases front with
    | nil => exact ⟨[], List.nil_prefix, rfl⟩
    | cons step later =>
      obtain ⟨rfl, hlater⟩ := List.cons_prefix_cons.mp hf
      have hlast := ih hlater
      exact hlast
  | @enter t next last op ops steps accepted rest ih =>
    cases front with
    | nil => exact ⟨[], List.nil_prefix, rfl⟩
    | cons step later =>
      obtain ⟨begun, hbegun, hrun⟩ := ih hf
      refine ⟨op :: begun, (List.prefix_cons_inj op).mpr hbegun, ?_⟩
      rw [Transfer.run_cons, Transfer.step_of_apply accepted, ← hrun]
      rfl

theorem begun_pair {a b : Step} (h : front <+: [a, b]) (hne : front ≠ []) :
    front = [a] ∨ front = [a, b] := by
  cases front with
  | nil => exact absurd rfl hne
  | cons x rest =>
    obtain ⟨rfl, hrest⟩ := List.cons_prefix_cons.mp h
    cases rest with
    | nil => exact Or.inl rfl
    | cons y more =>
      obtain ⟨rfl, hmore⟩ := List.cons_prefix_cons.mp hrest
      rw [List.prefix_nil.mp hmore]
      exact Or.inr rfl

/-- At its last steps a task has entered all its operations. -/
theorem reached_lastSteps (ha : u.Accepts o.closing) (hf : front <+: lastSteps location u o)
    (hne : front ≠ []) (past : Transfer) : reached past front = u.run o.closing := by
  cases o with
  | payload data =>
    have hfinish : u.run [.finish] = u.perform .finish := Transfer.run_single ha
    rcases begun_pair hf hne with rfl | rfl <;> exact hfinish.symm
  | failure cause =>
    have hfail : u.run [.fail] = u.perform .fail := Transfer.run_single ha
    rcases begun_pair hf hne with rfl | rfl <;> exact hfail.symm
  | crashed => exact absurd (List.prefix_nil.mp hf) hne
  | stalled => exact absurd (List.prefix_nil.mp hf) hne

theorem isTerminal_of_quiet (h : ∀ s ∈ steps, s.act.quiet = true) {event : Event}
    (he : event ∈ emitted steps) : event.isTerminal = false := by
  obtain ⟨step, hm, hs⟩ := List.mem_filterMap.mp he
  obtain ⟨a, t⟩ := step
  have hquiet := h _ hm
  cases a with
  | emit told =>
    obtain rfl : told = event := Option.some.inj hs
    simpa only [Act.quiet, Bool.not_eq_true'] using hquiet
  | report entry => cases hs
  | send request target => cases hs

/-- A task that gave up on its way has neither completed nor failed. -/
theorem settled_of_quiet (hq : ∀ s ∈ taken, s.act.quiet = true)
    (ho : u.phase.isTerminal = false) {event : Event} (he : event.isTerminal = false) :
    Settled location taken [event] u where
  completed := by
    constructor
    · intro h
      rw [h] at ho
      cases ho
    · intro h
      cases isTerminal_of_quiet hq h
  failed := by
    constructor
    · intro h
      rw [h] at ho
      cases ho
    · rintro ⟨cause, before, rfl⟩
      cases hq ⟨.emit (.error cause), u⟩ (by simp)
  left := ⟨fun _ => ⟨event, rfl, he⟩, fun _ => ho⟩

/-- At the last steps only a terminal event can find nobody. -/
theorem left_of_over (ho : u.phase.isTerminal = true)
    (hu : ∀ event ∈ unheard, event.isTerminal = true) :
    u.phase.isTerminal = false ↔ ∃ event, unheard = [event] ∧ event.isTerminal = false := by
  constructor
  · intro h
    rw [ho] at h
    cases h
  · rintro ⟨event, rfl, he⟩
    rw [hu event (by simp)] at he
    cases he

/-- A transfer whose last steps have begun is settled, even where they are not all heard. -/
theorem settled_of_lastSteps (hq : ∀ s ∈ opening, s.act.quiet = true) (ha : t.Accepts o.closing)
    (ho : t.phase.isTerminal = false) (hf : front <+: lastSteps location t o) (hne : front ≠ [])
    (hlast : u = t.run o.closing) (hu : ∀ event ∈ unheard, event.isTerminal = true)
    (hall : (∃ cause, o = .failure cause) → front = lastSteps location t o) :
    Settled location (opening ++ front) unheard u := by
  subst hlast
  obtain ⟨hcompleted, hfailed⟩ := phase_closing ho ha
  cases o with
  | payload data =>
    have hphase : (t.run [.finish]).phase = .completed := hcompleted.mpr ⟨data, rfl⟩
    refine ⟨⟨fun _ => ?_, fun _ => hphase⟩, ?_, left_of_over ?_ hu⟩
    · refine List.mem_filterMap.mpr ⟨⟨.emit .complete, t.perform .finish⟩, ?_, rfl⟩
      rcases begun_pair hf hne with rfl | rfl <;> simp
    · constructor
      · intro h
        obtain ⟨cause, hc⟩ := hfailed.mp h
        cases hc
      · rintro ⟨cause, before, hsteps⟩
        -- The last step tells of the end, and not of a failure.
        have hend := congrArg List.getLast? hsteps
        rcases begun_pair hf hne with rfl | rfl <;> simp [List.getLast?_append] at hend
    · exact congrArg Phase.isTerminal hphase
  | failure cause =>
    have hphase : (t.run [.fail]).phase = .failed := hfailed.mpr ⟨cause, rfl⟩
    have hfail : t.run [.fail] = t.perform .fail := Transfer.run_single ha
    obtain rfl := hall ⟨cause, rfl⟩
    refine ⟨⟨fun h => ?_, fun h => ?_⟩, ⟨fun _ => ⟨cause, opening, ?_⟩, fun _ => hphase⟩,
      left_of_over ?_ hu⟩
    · obtain ⟨data, hc⟩ := hcompleted.mp h
      cases hc
    · rw [emitted, List.filterMap_append] at h
      rcases List.mem_append.mp h with h | h
      · cases isTerminal_of_quiet hq h
      · cases List.mem_singleton.mp (show Event.complete ∈ [.error cause] from h)
    · show opening ++ lastSteps location t (.failure cause) = _
      rw [show Outcome.closing (.failure cause) = [.fail] from rfl, hfail]
      rfl
    · exact congrArg Phase.isTerminal hphase
  | crashed => exact absurd (List.prefix_nil.mp hf) hne
  | stalled => exact absurd (List.prefix_nil.mp hf) hne

theorem isTerminal_of_mem_lastSteps {event : Event}
    (h : ⟨.emit event, u⟩ ∈ lastSteps location t o) : event.isTerminal = true := by
  cases o with
  | payload data =>
    simp only [lastSteps, List.mem_cons, Step.mk.injEq, Act.emit.injEq, reduceCtorEq, false_and,
      List.not_mem_nil, or_false] at h
    rw [h.1]
    rfl
  | failure cause =>
    simp only [lastSteps, List.mem_cons, Step.mk.injEq, Act.emit.injEq, reduceCtorEq, false_and,
      List.not_mem_nil, or_false, false_or] at h
    rw [h.1]
    rfl
  | crashed => cases h
  | stalled => cases h

/-- Steps of a course end on the way or among the last ones. -/
theorem begun_cases {last : List Step} (h : taken <+: opening ++ last) :
    taken <+: opening ∨ ∃ front, front ≠ [] ∧ front <+: last ∧ taken = opening ++ front := by
  obtain ⟨rest, hrest⟩ := h
  rcases List.append_eq_append_iff.mp hrest with ⟨more, hopening, -⟩ | ⟨front, htaken, hlast⟩
  · exact Or.inl ⟨more, hopening.symm⟩
  · by_cases hne : front = []
    · rw [hne, List.append_nil] at htaken
      exact Or.inl ⟨[], by rw [htaken, List.append_nil]⟩
    · exact Or.inr ⟨front, hne, ⟨rest, hlast.symm⟩, htaken⟩

variable {c : Course} {entries : List Log.Event} {w : Watched} {moves : List Move}

/-- Everything was done, down to the last steps. -/
theorem settled_of_heard (hp : c.Performs location fresh ops entries o)
    (hend : c.ending = o.ending) (hsteps : w.stream.steps = c.steps)
    (hending : w.stream.ending = c.ending) (h : w.Heard moves)
    (hidle : (w.run moves).stream.steps = [])
    (hfinished : (w.run moves).stream.ending = .finished) :
    Settled location (w.taken moves) (w.unheard moves) (w.run moves).stream.transfer := by
  obtain ⟨opening, last, hc, hleads, -, hopen, hclosing⟩ := hp
  have hquiet := hleads.open_steps hopen
  have hall : w.taken moves = opening ++ lastSteps location last o := by
    rw [← hc, ← hsteps, ← h.account, hidle, List.append_nil]
  -- A task that has finished had last steps to take.
  have hne : lastSteps location last o ≠ [] := by
    have ho : o.ending = .finished := by rw [← hend, ← hending, ← h.ending, hfinished]
    cases o with
    | payload data => exact List.cons_ne_nil _ _
    | failure cause => exact List.cons_ne_nil _ _
    | crashed => cases ho
    | stalled => cases ho
  have hreach := w.transfer_run moves
  rw [hall, reached_append, reached_lastSteps hclosing List.prefix_rfl hne] at hreach
  rw [hall, h.unheard]
  exact settled_of_lastSteps (fun s hs => (hquiet s hs).1) hclosing hopen List.prefix_rfl hne
    hreach nofun fun _ => rfl

/-- The task came to an event that nobody took, on its way or among the last steps. -/
theorem settled_of_givenUp (hp : c.Performs location fresh ops entries o)
    (hsteps : w.stream.steps = c.steps) {event : Event} (h : w.GivenUp moves event) :
    Settled location (w.taken moves) (w.unheard moves) (w.run moves).stream.transfer := by
  obtain ⟨opening, last, hc, hleads, -, hopen, hclosing⟩ := hp
  obtain ⟨front, t, hlast⟩ := h.last
  have hquiet := hleads.open_steps hopen
  have hreach := w.transfer_run moves
  have hbegun : w.taken moves <+: opening ++ lastSteps location last o := by
    rw [← hc, ← hsteps]
    exact w.taken_begun moves
  rw [h.unheard]
  rcases begun_cases hbegun with hin | ⟨few, hne, hfew, htaken⟩
  · -- The transfer stays as it was at the event.
    have hevent : ⟨.emit event, t⟩ ∈ w.taken moves := by simp [hlast]
    obtain ⟨hq, hstill⟩ := hquiet _ (hin.subset hevent)
    have ht : (w.run moves).stream.transfer = t := by
      rw [hreach, hlast, reached_append]
      rfl
    rw [ht]
    exact settled_of_quiet (fun s hs => (hquiet s (hin.subset hs)).1) hstill
      (by simpa only [Act.quiet, Bool.not_eq_true'] using hq)
  · -- Among the last steps the event can only be a terminal one.
    have hend : few.getLast? = some ⟨.emit event, t⟩ := by
      have hfewlast := List.getLast?_eq_some_getLast hne
      have hsame := congrArg List.getLast? (htaken.symm.trans hlast)
      rw [List.getLast?_append, hfewlast, Option.some_or, List.getLast?_concat] at hsame
      exact hfewlast.trans hsame
    have hterminal : event.isTerminal = true :=
      isTerminal_of_mem_lastSteps (hfew.subset (List.mem_of_getLast? hend))
    rw [htaken, reached_append, reached_lastSteps hclosing hfew hne] at hreach
    rw [htaken]
    refine settled_of_lastSteps (fun s hs => (hquiet s hs).1) hclosing hopen hfew hne hreach
      (fun e he => ?_) ?_
    · rwa [List.mem_singleton.mp he]
    · -- A failure is reported before it is handed out.
      rintro ⟨cause, rfl⟩
      rcases begun_pair hfew hne with rfl | rfl
      · cases hend
      · rfl

theorem settled_run (hp : c.Performs location fresh ops entries o) (hend : c.ending = o.ending)
    (hsteps : w.stream.steps = c.steps) (hending : w.stream.ending = c.ending)
    (hm : Move.abort ∉ moves) (hidle : (w.run moves).stream.steps = [])
    (hfinished : (w.run moves).stream.ending = .finished) :
    Settled location (w.taken moves) (w.unheard moves) (w.run moves).stream.transfer := by
  rcases w.heard_or_givenUp hm with h | ⟨event, h⟩
  · exact settled_of_heard hp hend hsteps hending h hidle hfinished
  · exact settled_of_givenUp hp hsteps h

end

/-- An error among the events is that of the verdict, or stands for a task that broke down. -/
theorem error_mem_promised {mode : Delivery} {answer : Answer} {cause : LoadError}
    (h : .error cause ∈ promised location mode answer) :
    verdict location answer.reply = .failure cause ∨
      verdict location answer.reply = .crashed ∧ cause = .taskAborted location := by
  rcases mem_promised.mp h with h | h | h | h
  · cases h
  · obtain ⟨r, -, he⟩ := mem_heading.mp h
    cases he
  · obtain ⟨bytes, q, he⟩ := mem_chunks h
    cases he
  · cases hv : verdict location answer.reply with
    | payload data => simp [hv, Outcome.lastWord, Outcome.parting] at h
    | failure other =>
      simp only [hv, Outcome.lastWord, Outcome.parting, List.mem_singleton, Event.error.injEq] at h
      exact Or.inl (congrArg Outcome.failure h.symm)
    | crashed =>
      simp only [hv, Outcome.lastWord, List.mem_singleton, Event.error.injEq] at h
      exact Or.inr ⟨rfl, h⟩
    | stalled => simp [hv, Outcome.lastWord, Outcome.parting] at h

theorem noted_lastSteps (location : String) (t : Transfer) (o : Outcome) :
    noted (lastSteps location t o) = o.lastReports location t.progress.loaded := by
  cases o <;> rfl

/-- All that the task of a stream notes. -/
theorem exists_noted_course (request : Request) (target : Target) (mode : Delivery)
    (answer : Answer) :
    let location := request.location
    ∃ loaded, noted (course request target mode answer).steps = startReport location mode ::
      (answer.reports ++ (verdict location answer.reply).lastReports location loaded) := by
  obtain ⟨opening, last, hc, -, hnoted, -⟩ := performs_course request target mode answer
  refine ⟨last.progress.loaded, ?_⟩
  rw [hc, noted, List.filterMap_append, ← noted, ← noted, hnoted, noted_lastSteps]
  rfl

theorem concluded_whole (request : Request) (target : Target) (answer : Answer) :
    Concluded request.location answer (whole request target answer) := by
  obtain ⟨htransfer, hreports⟩ := whole_enters request target answer
  have ho := outcome_whole request target answer
  obtain ⟨hcompleted, hfailed⟩ :=
    phase_operations request.location .buffered .progressive answer.reply
  have haccepted := accepts_operations request.location .buffered .progressive answer.reply
  refine ⟨haccepted, htransfer, ?_, ?_, ?_, ?_⟩
  · rw [hreports, ho]
  · intro cause h
    rw [ho] at h
    exact raises_of_illegal h
  · rw [htransfer, ho]
    exact hcompleted
  · rw [htransfer, ho]
    exact hfailed

/-- Under every schedule the events received are the beginning of those promised. -/
theorem received_begun (request : Request) (target : Target) (capacity : Nat) (mode : Delivery)
    (answer : Answer) (moves : List Move) :
    let c := course request target mode answer
    let w : Watched := ⟨.ofCourse request.location capacity mode c, []⟩
    (w.run moves).received <+: promised request.location mode answer := by
  intro c w
  have hp : c.Proper request.location := proper_course request target mode answer
  have hstart := listening_ofCourse request.location capacity mode c
  rw [← promised_course request target]
  rcases listening_or_deserted_run hp (Or.inl hstart) moves with hw | hw
  · exact ⟨_, by rw [← List.append_assoc]; exact hw.account⟩
  · exact hw.beginning

/-- Whatever the schedule, a task enters the operations of its retrieval one after another. -/
theorem lawful_ofCourse (request : Request) (target : Target) (capacity : Nat) (mode : Delivery)
    (answer : Answer) (moves : List Move) :
    let c := course request target mode answer
    Lawful request.location mode answer ⟨.ofCourse request.location capacity mode c, []⟩
      moves := by
  intro c
  let location := request.location
  let w : Watched := ⟨.ofCourse location capacity mode c, []⟩
  have hreach := w.transfer_run moves
  have hbegun : w.taken moves <+: c.steps := w.taken_begun moves
  obtain ⟨opening, last, hc, hleads, -, -, hclosing⟩ :=
    performs_course request target mode answer
  rw [hc] at hbegun
  refine ⟨accepts_operations location mode mode answer.reply, ?_, ?_, ?_⟩
  · rcases begun_cases hbegun with hin | ⟨front, hne, hfront, htaken⟩
    · obtain ⟨begun, hfirst, hrun⟩ := hleads.reached_begun hin
      exact ⟨begun, hfirst.trans (List.prefix_append _ _), hreach.trans hrun⟩
    · refine ⟨_, List.prefix_rfl, ?_⟩
      rw [hreach, htaken, reached_append, reached_lastSteps hclosing hfront hne, ← hleads.run,
        ← Transfer.run_append]
      rfl
  · obtain ⟨loaded, hall⟩ := exists_noted_course request target mode answer
    refine ⟨loaded, ?_⟩
    rw [← hall, hc]
    exact hbegun.filterMap _
  · intro cause h
    -- What is handed out and what is received are both among the events of the course.
    have hmem : .error (.illegalTransition cause) ∈ promised location mode answer := by
      rcases List.mem_append.mp h with h | h
      · rw [← hc] at hbegun
        rw [← promised_course request target]
        exact List.mem_append_left _ ((hbegun.filterMap _).subset h)
      · exact (received_begun request target capacity mode answer moves).subset h
    rcases error_mem_promised hmem with hv | ⟨-, hc⟩
    · exact raises_of_illegal hv
    · cases hc

/-- No retrieval is stopped by its own transfer. Every operation is accepted, in whichever phase the
listener goes away, and the phase at the end tells whether a payload was brought, a failure was
reported or nobody was left to listen. -/
theorem transfer_of_every_retrieval (l : Loader) (n : Nat) :
    Concluded l.request.location (l.answer n) (l.whole n) ∧
    ∀ s, l.stream? n = some s → ∀ moves,
      let w : Watched := ⟨s, []⟩
      Lawful l.request.location l.delivery (l.answer n) w moves ∧
      (Move.abort ∉ moves → (w.run moves).stream.steps = [] →
        (w.run moves).stream.ending = .finished →
          Settled l.request.location (w.taken moves) (w.unheard moves)
            (w.run moves).stream.transfer) := by
  refine ⟨concluded_whole l.request l.target (l.answer n), ?_⟩
  intro s hs moves w
  have hstream : s = .ofCourse l.request.location l.capacity l.delivery (l.course n) := by
    unfold Loader.stream? at hs
    split at hs
    · exact (Option.some.inj hs).symm
    · cases hs
  subst hstream
  refine ⟨lawful_ofCourse l.request l.target l.capacity l.delivery (l.answer n) moves, ?_⟩
  intro hm hover hfinished
  exact settled_run (performs_course l.request l.target l.delivery (l.answer n))
    (tells_course l.request l.target l.delivery (l.answer n)).2 rfl rfl hm hover hfinished

/-- The listener goes away behind the heading, and the first piece of data finds nobody. -/
theorem transfer_of_every_retrieval_left :
    let l := Loader.sample true 1
      [.response { status := 200, body := some [.chunk [1], .chunk [2]] }]
    let moves := [Move.work, .work, .poll, .work, .work, .release, .work]
    (l.whole 0).transfer.phase = .completed ∧ ∃ s, l.stream? 0 = some s ∧
      let w : Watched := ⟨s, []⟩
      Move.abort ∉ moves ∧ (w.run moves).stream.steps = [] ∧
        (w.run moves).stream.ending = .finished ∧
        (w.run moves).stream.transfer.phase = .transferring ∧
        w.unheard moves = [.chunk [1] ⟨1, 0⟩] ∧
        Lawful "data.bin" .progressive (l.answer 0) w moves ∧
        Settled "data.bin" (w.taken moves) (w.unheard moves) (w.run moves).stream.transfer := by
  intro l moves
  obtain ⟨hwhole, htask⟩ := transfer_of_every_retrieval l 0
  obtain ⟨hlawful, hsettled⟩ := htask _ rfl moves
  have hm : Move.abort ∉ moves := by simp [moves]
  exact ⟨hwhole.completed.mpr ⟨[1, 2], rfl⟩, _, rfl, hm, rfl, rfl, rfl, rfl, hlawful,
    hsettled hm rfl rfl⟩

end Fetch
end Retrieval
