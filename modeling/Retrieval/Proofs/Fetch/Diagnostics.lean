import Retrieval.Proofs.Fetch.Agreement
import Retrieval.Proofs.Fetch.Logged
import Retrieval.Proofs.Fetch.Phases

/-! The diagnostics of retrievals. One that fails is told of once, in the same words whichever way
it was made, and one that succeeds is not told of. -/
namespace Retrieval.Fetch

namespace Outcome

def diagnostics (location : String) : Outcome → List Log.Event
  | crashed => [abortReport location]
  | o => o.failureReports location

/-- How a retrieval has to be told of: a success not at all, a failure by one warning where the
other side failed and by one error otherwise, and a task that died by one error. -/
def DiagnosedBy (location : String) (told : List Log.Event) : Outcome → Prop
  | payload _ => told = []
  | failure cause =>
    ∃ entry, told = [entry] ∧
      if cause.isTransportFailure = true then
        entry.level = .warn ∧ entry.message = "Path: " ++ location ++ " not found" ∧
          entry.fields = [⟨"location", .text location⟩, ⟨"reason", .display cause.reason⟩]
      else
        entry.level = .error ∧ entry.message = "resource fetch failed" ∧
          entry.fields = [⟨"location", .text location⟩, ⟨"error", .display cause.message⟩]
  | crashed =>
    ∃ entry, told = [entry] ∧ entry.level = .error ∧
      entry.message = "transfer task ended without a terminal event" ∧
      entry.fields = [⟨"location", .display location⟩]
  | stalled => told = []

/-- The reports that are made of an outcome are those it calls for. -/
theorem diagnosedBy_diagnostics (location : String) (o : Outcome) :
    o.DiagnosedBy location (o.diagnostics location) := by
  cases o with
  | payload data => rfl
  | failure cause =>
    refine ⟨failureReport location cause, rfl, ?_⟩
    by_cases hc : cause.isTransportFailure = true
    · rw [if_pos hc, failureReport, if_pos hc]
      exact ⟨rfl, rfl, rfl⟩
    · rw [if_neg hc, failureReport, if_neg hc]
      exact ⟨rfl, rfl, rfl⟩
  | crashed => exact ⟨abortReport location, rfl, rfl, rfl, rfl⟩
  | stalled => rfl

end Outcome

theorem alarms_failureReport (location : String) (cause : LoadError) :
    alarms [failureReport location cause] = [failureReport location cause] := by
  cases hc : cause.isTransportFailure <;> simp [alarms, failureReport, hc]

/-- A task hands out its last event after all others. -/
theorem eq_nil_of_suffix_emit {front rest : List Step} {event : Event} {tr : Transfer}
    (h : rest <:+ front ++ [⟨.emit event, tr⟩]) (hnone : emitted rest = []) : rest = [] := by
  rcases List.suffix_concat_iff.mp h with rfl | ⟨before, rfl, -⟩
  · rfl
  · simp [emitted, Step.event?] at hnone

/-- Behind its last event a task has nothing left to note but its completion. -/
theorem discreet_course (request : Request) (target : Target) (mode : Delivery) (answer : Answer) :
    (course request target mode answer).Discreet := by
  intro hend rest hrest hnone
  let location := request.location
  obtain ⟨opening, last, hc, -⟩ := performs_course request target mode answer
  have hv := (tells_course request target mode answer).2
  rw [hend] at hv
  rw [hc] at hrest
  cases ho : verdict location answer.reply with
  | payload data =>
    rw [ho] at hrest
    -- The completion is noted behind the event that tells of it.
    have hsplit : opening ++ lastSteps location last (.payload data) =
        (opening ++ [⟨.emit .complete, last.perform .finish⟩]) ++
          [⟨.report (completionReport location last.progress.loaded), last.perform .finish⟩] := by
      simp [lastSteps]
    rw [hsplit] at hrest
    rcases List.suffix_concat_iff.mp hrest with rfl | ⟨before, rfl, hbefore⟩
    · rfl
    · have hnone' : emitted before = [] := by simpa [emitted, Step.event?] using hnone
      rw [eq_nil_of_suffix_emit hbefore hnone']
      rfl
  | failure cause =>
    rw [ho] at hrest
    -- A failure is noted before the event that tells of it, so that nothing is left behind that.
    have hsplit : opening ++ lastSteps location last (.failure cause) =
        (opening ++ [⟨.report (failureReport location cause), last.perform .fail⟩]) ++
          [⟨.emit (.error cause), last.perform .fail⟩] := by
      simp [lastSteps]
    rw [hsplit] at hrest
    rw [eq_nil_of_suffix_emit hrest hnone]
    rfl
  -- A task that finishes has neither broken down nor stopped for ever.
  | crashed =>
    rw [ho] at hv
    cases hv
  | stalled =>
    rw [ho] at hv
    cases hv

/-- All that a new stream will ever warn of: what its answer warns of, and its verdict. -/
theorem alarms_unlogged_ofCourse (request : Request) (target : Target) (capacity : Nat)
    (mode : Delivery) (answer : Answer) :
    let location := request.location
    alarms (Stream.ofCourse location capacity mode (course request target mode answer)).unlogged =
      alarms answer.reports ++ (verdict location answer.reply).diagnostics location := by
  intro location
  obtain ⟨loaded, hnoted⟩ := exists_noted_course request target mode answer
  have hend := (tells_course request target mode answer).2
  have hcut (more : List Log.Event) : alarms (startReport location mode :: more) = alarms more :=
    rfl
  -- The receiver's own error stands in for the report that a broken task does not make.
  have hlast : alarms ((verdict location answer.reply).lastReports location loaded ++
      if (verdict location answer.reply).ending = .crashed then [abortReport location] else []) =
        (verdict location answer.reply).diagnostics location := by
    cases verdict location answer.reply with
    | failure cause => exact alarms_failureReport location cause
    | payload data => rfl
    | crashed => rfl
    | stalled => rfl
  calc
    _ = alarms (startReport location mode :: (answer.reports ++
          ((verdict location answer.reply).lastReports location loaded ++
            if (verdict location answer.reply).ending = .crashed then [abortReport location]
            else []))) := by
      simp only [location, Stream.unlogged, Stream.ofCourse, hnoted, hend, and_true,
        List.cons_append, List.append_assoc]
    _ = _ := by rw [hcut, alarms_append, hlast]

namespace Handlers

theorem dispatch_stop (h : Handlers) (event : Event) :
    (h.dispatch event).2.2 = event.isTerminal := by
  cases event <;> rfl

/-- Handing the events of a stream to handlers is one of its schedules. It goes on to the last event
or as far as there are any. -/
theorem exists_run_follow (limit : Nat) (h : Handlers) (s : Stream) (received : List Event) :
    ∃ moves, (⟨s, received⟩ : Watched).log moves = (h.follow limit s).2.2 ∧
      (Closed ((⟨s, received⟩ : Watched).run moves).received ∨
        ((⟨s, received⟩ : Watched).run moves).received = received ++ (s.take limit).1) := by
  -- The handlers are others after each event, and the schedule does not depend on them.
  induction limit generalizing h s received with
  | zero => exact ⟨[], rfl, Or.inr (List.append_nil _).symm⟩
  | succ limit ih =>
    obtain ⟨moves, -, hrun, hlog⟩ := s.exists_run_next received
    rcases hn : s.next with ⟨result, after, reports⟩
    rw [hn] at hrun hlog
    cases result with
    | item event =>
      rcases hd : h.dispatch event with ⟨calls, rest, stop⟩
      have hstop := h.dispatch_stop event
      rw [hd] at hstop
      cases stop with
      | true =>
        refine ⟨moves, ?_, Or.inl ?_⟩
        · simp only [follow, hn, hd, hlog]
        · rw [hrun]
          exact ⟨event, by simp [Poll.events], hstop.symm⟩
      | false =>
        obtain ⟨more, hlater, hreached⟩ := ih rest after (received ++ [event])
        refine ⟨moves ++ more, ?_, ?_⟩
        · simp only [Watched.log_append, hrun, hlog, follow, hn, hd]
          exact congrArg (reports ++ ·) hlater
        · rw [Watched.run_append, hrun]
          simpa only [Poll.events, Stream.take, hn, List.append_assoc, List.singleton_append] using
            hreached
    | _ =>
      refine ⟨moves, ?_, Or.inr ?_⟩
      · simp only [hlog, follow, hn]
      · simp only [hrun, Stream.take, hn, Poll.events]

end Handlers

/-- Under every schedule that brings the last event, a stream has warned of what its answer warns of
and of its verdict. -/
theorem diagnosed_stream (request : Request) (target : Target) (capacity : Nat) (mode : Delivery)
    (answer : Answer) (moves : List Move) :
    let location := request.location
    let w : Watched := ⟨.ofCourse location capacity mode (course request target mode answer), []⟩
    Closed (w.run moves).received →
      Conveys location (w.run moves).received (verdict location answer.reply) ∧
      alarms (w.log moves) =
        alarms answer.reports ++ (verdict location answer.reply).diagnostics location := by
  intro location w hc
  let c := course request target mode answer
  have hp : c.Proper location := proper_course request target mode answer
  have hstart := listening_ofCourse location capacity mode c
  have hw : Followed location c w := followed_ofCourse hstart rfl rfl
  have hall : (w.run moves).received = promised location mode answer := by
    rw [← promised_course request target]
    rcases listening_or_deserted_run hp (Or.inl hstart) moves with h | h
    · exact h.received_eq hp hc
    · exact h.whole hc
  refine ⟨?_, ?_⟩
  · rw [hall]
    exact conveys_promised
  · rw [hw.alarms_log hp (discreet_course request target mode answer) moves hc]
    exact alarms_unlogged_ofCourse request target capacity mode answer

theorem alarms_whole (request : Request) (target : Target) (answer : Answer)
    (h : verdict request.location answer.reply ≠ .crashed) :
    alarms (whole request target answer).reports = alarms answer.reports ++
      (verdict request.location answer.reply).diagnostics request.location := by
  rw [(concluded_whole request target answer).reports, alarms_append, outcome_whole]
  congr 1
  cases hv : verdict request.location answer.reply with
  | payload data => rfl
  | failure cause => exact alarms_failureReport request.location cause
  | crashed => exact absurd hv h
  | stalled => rfl

/-- The transports that targets ask for give no warnings and no errors of their own. -/
theorem alarms_answer_of_create {request : Request} {config : Config} {around : Surroundings}
    {l : Loader} (h : Loader.create request config around = .ok l) (n : Nat) :
    alarms (l.answer n).reports = [] := by
  obtain ⟨-, -, -, ⟨path, hp, ht⟩ | ⟨url, hu, ht⟩⟩ := Loader.create_cases h
  · have hopen : alarms (Transport.openFile config around.files l.request.location path).reports =
        [] := by
      unfold Transport.openFile
      split
      · rfl
      · split <;> rfl
    rw [Loader.answer, ht, hp]
    exact hopen
  · rw [Loader.answer, Transport.send_http ht, hu]
    rfl

/-- Whichever way a retrieval is made, and under every schedule that brings its last event, its
failure is told of exactly once besides what the transport says, and its success never. -/
theorem diagnostics_of_every_retrieval {config : Config} {l : Loader} (hl : l.MadeFrom config)
    (n : Nat) :
    let location := l.request.location
    let o := verdict location (l.answer n).reply
    let told := alarms (l.answer n).reports ++ o.diagnostics location
    o.DiagnosedBy location (o.diagnostics location) ∧
    (l.whole n).outcome = o ∧ (o ≠ .crashed → alarms (l.whole n).reports = told) ∧
    (∀ s, l.stream? n = some s →
      (∀ moves,
        let w : Watched := ⟨s, []⟩
        Closed (w.run moves).received →
          Conveys location (w.run moves).received o ∧ alarms (w.log moves) = told) ∧
      (o ≠ .stalled →
        alarms s.drain.2.2.2 = told ∧
        ∀ handlers : Handlers, alarms (handlers.follow s.bound s).2.2 = told)) ∧
    ∀ request around, Loader.create request config around = .ok l →
      alarms (l.answer n).reports = [] := by
  intro location o told
  refine ⟨o.diagnosedBy_diagnostics location, outcome_loader l n,
    alarms_whole l.request l.target (l.answer n), ?_, fun _ _ h => alarms_answer_of_create h n⟩
  intro s hs
  have hfit := (Loader.stream?_isSome hl n).mp (by rw [hs]; rfl)
  have hmade := Loader.stream?_eq hl hfit n
  rw [hs] at hmade
  have hmoves (moves : List Move) (hc : Closed ((Watched.mk s []).run moves).received) :
      Conveys location ((Watched.mk s []).run moves).received o ∧
        alarms ((Watched.mk s []).log moves) = told := by
    rw [Option.some.inj hmade] at hc ⊢
    exact diagnosed_stream l.request l.target _ l.delivery (l.answer n) moves hc
  have hlogged {moves : List Move} {entries : List Log.Event}
      (hlog : (Watched.mk s []).log moves = entries)
      (hc : Closed ((Watched.mk s []).run moves).received) : alarms entries = told := by
    rw [← hlog]
    exact (hmoves moves hc).2
  refine ⟨hmoves, ?_⟩
  intro hgoes
  -- A body that goes on brings the stream to its last event.
  obtain ⟨hall, -⟩ := drain_stream hl hs
  have hclosed : Closed s.drain.1 := by
    rw [hall]
    exact closed_promised.mpr hgoes
  refine ⟨?_, ?_⟩
  · obtain ⟨moves, -, hrun, hlog⟩ := s.exists_run_take s.bound []
    apply hlogged hlog
    rw [hrun]
    exact hclosed
  · intro handlers
    obtain ⟨moves, hlog, hreached⟩ := handlers.exists_run_follow s.bound s []
    apply hlogged hlog
    rcases hreached with hc | hsame
    · exact hc
    · rw [hsame]
      exact hclosed

/-- A page that is not there, and a transport that breaks down in the middle of a body. -/
theorem diagnostics_of_every_retrieval_twice :
    let l := Loader.sample true 1
      [.response { status := 404, statusText := "Not Found", body := none },
        .response { status := 200, body := some [.chunk [1], .crash] }]
    l.MadeFrom { eventBuffer := 1 } ∧
      alarms (l.whole 0).reports =
        [{ target := "resload_loader::loader", level := .warn
           message := "Path: data.bin not found"
           fields := [⟨"location", .text "data.bin"⟩, ⟨"reason", .display "Not Found"⟩] }] ∧
      ∃ s, l.stream? 1 = some s ∧ ∀ handlers : Handlers,
        alarms (handlers.follow s.bound s).2.2 =
          [{ target := "resload_loader::stream", level := .error
             message := "transfer task ended without a terminal event"
             fields := [⟨"location", .display "data.bin"⟩] }] := by
  intro l
  have hl : l.MadeFrom { eventBuffer := 1 } := Loader.madeFrom_sample _ _ _
  obtain ⟨-, -, hwhole, -⟩ := diagnostics_of_every_retrieval hl 0
  obtain ⟨-, -, -, hstreams, -⟩ := diagnostics_of_every_retrieval hl 1
  obtain ⟨-, hended⟩ := hstreams _ rfl
  exact ⟨hl, hwhole nofun, _, rfl, (hended nofun).2⟩

end Retrieval.Fetch
