import Retrieval.Proofs.Fetch.Calls
import Retrieval.Proofs.Fetch.Diagnostics

/-! The reason of a failure. No error is without one, and a retrieval that fails gives the same one
whichever way it is made: in its result, in the last event of its stream, to the handler for
failures, and in the warning. -/
namespace Retrieval

namespace LoadError

def statusText? : LoadError → Option String
  | http _ _ text | nullPayload _ text => some text
  | _ => none

/-- How an error has to be explained. -/
structure Explained (e : LoadError) : Prop where
  spoken : e.reason ≠ ""
  /-- In the words of the other side, if it sent any. -/
  quoted : ∀ text, e.statusText? = some text → text ≠ "" → e.reason = text
  /-- A status without words is given by its number. -/
  numbered : ∀ location status, e = .http location status "" →
    e.reason = "HTTP " ++ toString status
  described : (∀ text, e.statusText? = some text → text = "") →
    (∀ location status, e ≠ .http location status "") → e.reason = e.message

theorem message_ne_empty (e : LoadError) : e.message ≠ "" := by
  -- Every message has words of its own besides those of its cause.
  unfold message
  cases e <;> simp

theorem reason_of_statusText {e : LoadError} {text : String} (h : e.statusText? = some text)
    (hne : text ≠ "") : e.reason = text := by
  cases e with
  | http location status other =>
    obtain rfl : other = text := Option.some.inj h
    exact if_neg hne
  | nullPayload location other =>
    obtain rfl : other = text := Option.some.inj h
    exact if_neg hne
  | _ => cases h

/-- Without words from the other side, the message is the reason of all errors but a bare status. -/
theorem reason_of_silent {e : LoadError} (h : ∀ text, e.statusText? = some text → text = "")
    (hne : ∀ location status, e ≠ .http location status "") : e.reason = e.message := by
  cases e with
  | http location status text =>
    obtain rfl : text = "" := h text rfl
    exact absurd rfl (hne location status)
  | nullPayload location text =>
    obtain rfl : text = "" := h text rfl
    rfl
  | _ => rfl

/-- Every error is explained: by its status text if it has one, else by its number or its message.
-/
theorem explained (e : LoadError) : e.Explained where
  spoken := by
    -- What the other side said is quoted only where it is not empty.
    by_cases hsaid : ∃ text, e.statusText? = some text ∧ text ≠ ""
    · obtain ⟨text, ht, hne⟩ := hsaid
      rw [reason_of_statusText ht hne]
      exact hne
    · have hsilent : ∀ text, e.statusText? = some text → text = "" := by
        intro text ht
        apply Decidable.byContradiction
        intro hne
        exact hsaid ⟨text, ht, hne⟩
      by_cases hbare : ∃ location status, e = .http location status ""
      · obtain ⟨location, status, rfl⟩ := hbare
        simp [reason]
      · rw [reason_of_silent hsilent fun location status he => hbare ⟨location, status, he⟩]
        exact e.message_ne_empty
  quoted _ := reason_of_statusText
  numbered location status h := by
    rw [h]
    rfl
  described := reason_of_silent

/-- The reasons that warnings give for an error: its own, if the other side failed. -/
def warned (e : LoadError) : List String := if e.isTransportFailure then [e.reason] else []

end LoadError

namespace Fetch

def Event.reason? : Event → Option String
  | error cause => some cause.reason
  | _ => none

def reasons (events : List Event) : List String := events.filterMap Event.reason?

def Call.reason? : Call → Option String
  | error reason => some reason
  | _ => none

def reasonsHeard (calls : List Call) : List String := calls.filterMap Call.reason?

def warnedReason? (entry : Log.Event) : Option String :=
  if entry.level = .warn then
    (entry.fields.find? fun field => field.name = "reason").map (·.value.plainText)
  else none

def warnedReasons (entries : List Log.Event) : List String := entries.filterMap warnedReason?

def Outcome.cause? (location : String) : Outcome → Option LoadError
  | failure cause => some cause
  | crashed => some (.taskAborted location)
  | _ => none

theorem reasons_append (first second : List Event) :
    reasons (first ++ second) = reasons first ++ reasons second := List.filterMap_append

theorem reasons_eq_nil {events : List Event} (h : ∀ e ∈ events, e.isTerminal = false) :
    reasons events = [] := by
  apply List.filterMap_eq_nil_iff.mpr
  intro event hm
  have hopen := h event hm
  cases event with
  | error cause => cases hopen
  | _ => rfl

theorem reasons_lastWord (location : String) (o : Outcome) :
    reasons (o.lastWord location) = (o.cause? location).toList.map LoadError.reason := by
  cases o <;> rfl

theorem warnedReasons_append (first second : List Log.Event) :
    warnedReasons (first ++ second) = warnedReasons first ++ warnedReasons second :=
  List.filterMap_append

/-- Warnings are among the alarms. -/
theorem warnedReasons_alarms (entries : List Log.Event) :
    warnedReasons (alarms entries) = warnedReasons entries := by
  have hsame (entry : Log.Event) :
      (if entry.level = .warn ∨ entry.level = .error then warnedReason? entry else none) =
        warnedReason? entry := by
    by_cases hw : entry.level = .warn
    · exact if_pos (Or.inl hw)
    · simp only [warnedReason?, if_neg hw, ite_self]
  rw [warnedReasons, alarms, List.filterMap_filter]
  simp only [decide_eq_true_eq, hsame]
  rfl

/-- The reason that is warned of is that of the error. -/
theorem warnedReasons_diagnostics {location : String} {o : Outcome} {e : LoadError}
    (h : o.cause? location = some e) : warnedReasons (o.diagnostics location) = e.warned := by
  cases o with
  | failure cause =>
    obtain rfl : cause = e := Option.some.inj h
    have hone : (Outcome.failure cause).diagnostics location = [failureReport location cause] := rfl
    rw [hone, warnedReasons, LoadError.warned]
    by_cases hc : cause.isTransportFailure = true
    · simp [failureReport, hc, warnedReason?, Log.Value.plainText]
    · simp [failureReport, hc, warnedReason?]
  | crashed =>
    obtain rfl : LoadError.taskAborted location = e := Option.some.inj h
    rfl
  | payload data => cases h
  | stalled => cases h

section

variable {location : String} {mode : Delivery} {answer : Answer} {e : LoadError}

theorem reasons_promised : reasons (promised location mode answer) =
    ((verdict location answer.reply).cause? location).toList.map LoadError.reason := by
  have he : promised location mode answer =
      (.opened :: (heading location answer.reply ++ chunks mode answer.reply)) ++
        (verdict location answer.reply).lastWord location := promised_eq location mode answer
  have hfront : reasons (.opened :: (heading location answer.reply ++ chunks mode answer.reply)) =
      [] := reasons_eq_nil fun _ => isTerminal_of_mem_front
  rw [he, reasons_append, hfront, List.nil_append, reasons_lastWord]

theorem getLast?_error : (promised location mode answer).getLast? = some (.error e) ↔
    (verdict location answer.reply).cause? location = some e := by
  rw [getLast?_promised rfl]
  cases verdict location answer.reply <;>
    simp [Outcome.lastWord, Outcome.parting, Outcome.cause?, eq_comm]

end

/-- The handler for failures hears the reasons in the events, if it is set. -/
theorem Handlers.reasonsHeard_project (h : Handlers) (events : List Event) :
    reasonsHeard (h.project events) = if h.onError then reasons events else [] := by
  have hcall (event : Event) : (if h.takes event.call.kind then event.call.reason? else none) =
      if h.onError then event.reason? else none := by
    cases event with
    | error cause => rfl
    | _ => split <;> split <;> rfl
  calc reasonsHeard (h.project events)
    _ = events.filterMap fun event =>
          if h.takes event.call.kind then event.call.reason? else none := by
      rw [reasonsHeard, project, List.filterMap_filter, List.filterMap_map]
      rfl
    _ = events.filterMap fun event => if h.onError then event.reason? else none := by
      simp only [hcall]
    _ = if h.onError then reasons events else [] := by
      split
      · rfl
      · exact List.filterMap_eq_nil_iff.mpr fun _ _ => rfl

/-- All who follow the stream are given the reason of this error and no other: a listener who comes
to the last event, under any schedule, and a handler for failures. The warnings add it to the
transport's own. -/
structure Stream.Gives (s : Stream) (own : List String) (e : LoadError) : Prop where
  listener : ∀ moves, Closed ((Watched.mk s []).run moves).received →
    reasons ((Watched.mk s []).run moves).received = [e.reason] ∧
      warnedReasons ((Watched.mk s []).log moves) = own ++ e.warned
  reader : reasons s.drain.1 = [e.reason] ∧ warnedReasons s.drain.2.2.2 = own ++ e.warned
  handlers : ∀ h : Handlers,
    reasonsHeard (h.follow s.bound s).1 = (if h.onError then [e.reason] else []) ∧
      warnedReasons (h.follow s.bound s).2.2 = own ++ e.warned

/-- All ways to learn of a failure give the same reason. -/
theorem gives_of_cause {config : Config} {l : Loader} (hl : l.MadeFrom config) {n : Nat}
    {s : Stream} (hs : l.stream? n = some s) {e : LoadError}
    (he : (verdict l.request.location (l.answer n).reply).cause? l.request.location = some e) :
    s.Gives (warnedReasons (l.answer n).reports) e := by
  let location := l.request.location
  have hp := proper_loader l n
  obtain ⟨hstart, -⟩ := listening_stream hl hs
  have hmade := Loader.stream?_eq hl ((Loader.stream?_isSome hl n).mp (by rw [hs]; rfl)) n
  rw [hs] at hmade
  have hall : s.drain.1 = promised location l.delivery (l.answer n) := (drain_stream hl hs).1
  have hreasons : reasons (promised location l.delivery (l.answer n)) = [e.reason] := by
    rw [reasons_promised, he]
    rfl
  have hlistener (moves : List Move) (hc : Closed ((Watched.mk s []).run moves).received) :
      reasons ((Watched.mk s []).run moves).received = [e.reason] ∧
        warnedReasons ((Watched.mk s []).log moves) =
          warnedReasons (l.answer n).reports ++ e.warned := by
    have hwhole : ((Watched.mk s []).run moves).received =
        promised location l.delivery (l.answer n) := by
      rcases listening_or_deserted_run hp (Or.inl hstart) moves with h | h
      · exact (h.received_eq hp hc).trans (promised_loader l n)
      · exact (h.whole hc).trans (promised_loader l n)
    have halarms : alarms ((Watched.mk s []).log moves) = alarms (l.answer n).reports ++
        (verdict location (l.answer n).reply).diagnostics location := by
      rw [Option.some.inj hmade] at hc ⊢
      exact (diagnosed_stream l.request l.target _ l.delivery (l.answer n) moves hc).2
    refine ⟨hwhole ▸ hreasons, ?_⟩
    rw [← warnedReasons_alarms, halarms, warnedReasons_append, warnedReasons_alarms,
      warnedReasons_diagnostics he]
  -- A reader and the handlers are listeners who follow schedules of their own.
  have hclosed : Closed s.drain.1 := by
    rw [hall]
    exact ⟨.error e, List.mem_of_getLast? (getLast?_error.mpr he), rfl⟩
  refine ⟨hlistener, ⟨hall ▸ hreasons, ?_⟩, fun h => ⟨?_, ?_⟩⟩
  · obtain ⟨moves, -, hrun, hlog⟩ := s.exists_run_take s.bound []
    have hend : Closed ((Watched.mk s []).run moves).received := by
      rw [hrun]
      exact hclosed
    exact hlog ▸ (hlistener moves hend).2
  · have hbegins : s.drain.1 <+: promised location l.delivery (l.answer n) :=
      hall ▸ List.prefix_rfl
    calc reasonsHeard (h.follow s.bound s).1
      _ = reasonsHeard (h.run s.drain.1) := by rw [h.follow_eq_run]; rfl
      _ = reasonsHeard (h.project s.drain.1) := by rw [h.run_of_beginning hbegins]
      _ = _ := by rw [h.reasonsHeard_project, hall, hreasons]
  · obtain ⟨moves, hlog, hreached⟩ := h.exists_run_follow s.bound s []
    have hend : Closed ((Watched.mk s []).run moves).received := by
      rcases hreached with hc | hsame
      · exact hc
      · rw [hsame]
        exact hclosed
    exact hlog ▸ (hlistener moves hend).2

/-- Every error has a reason, and a retrieval that fails gives that of its error in every way: as
the result of fetching the payload whole, in the error that the streams of both modes end with, to
handlers, and in one warning where the other side failed. -/
theorem one_reason_in_every_way {config : Config} {l : Loader} (hl : l.MadeFrom config) :
    (∀ e : LoadError, e.Explained) ∧
    (∀ progressive n, ((l.inMode progressive).stream? n).isSome = true ↔
      config.eventBuffer.toNat ≤ Loader.maxChannelCapacity) ∧
    (∀ progressive n s e, (l.inMode progressive).stream? n = some s →
      s.drain.1.getLast? = some (.error e) → s.Gives (warnedReasons (l.answer n).reports) e) ∧
    ∀ i e, (l.whole i).outcome = .failure e →
      (l.whole i).outcome.result? = some (.failure e.reason) ∧
      warnedReasons (l.whole i).reports = warnedReasons (l.answer i).reports ++ e.warned ∧
      ∀ progressive j s, (l.answer j).reply = (l.answer i).reply →
        (l.inMode progressive).stream? j = some s → s.drain.1.getLast? = some (.error e) := by
  have hmode (progressive : Bool) := Loader.madeFrom_inMode hl progressive
  refine ⟨LoadError.explained, fun progressive => Loader.stream?_isSome (hmode progressive), ?_, ?_⟩
  · intro progressive n s e hs he
    rw [(drain_stream (hmode progressive) hs).1, getLast?_error] at he
    exact gives_of_cause (hmode progressive) hs he
  · intro i e hfail
    have hv : verdict l.request.location (l.answer i).reply = .failure e :=
      (outcome_loader l i).symm.trans hfail
    refine ⟨by rw [hfail]; rfl, ?_, ?_⟩
    · have halarms := alarms_whole l.request l.target (l.answer i) (by rw [hv]; nofun)
      rw [hv] at halarms
      have hcause : (Outcome.failure e).cause? l.request.location = some e := rfl
      calc warnedReasons (l.whole i).reports
        _ = warnedReasons (alarms (l.whole i).reports) := (warnedReasons_alarms _).symm
        _ = warnedReasons (alarms (l.answer i).reports ++
              (Outcome.failure e).diagnostics l.request.location) := congrArg _ halarms
        _ = _ := by
          rw [warnedReasons_append, warnedReasons_alarms, warnedReasons_diagnostics hcause]
    · intro progressive j s hsame hs
      rw [(drain_stream (hmode progressive) hs).1, getLast?_error]
      have hreply : ((l.inMode progressive).answer j).reply = (l.answer i).reply := hsame
      have hlocation : (l.inMode progressive).request.location = l.request.location := rfl
      rw [hreply, hlocation, hv]
      rfl

/-- A status without a text is given by its number, and a broken task by its message. -/
theorem one_reason_in_every_way_numbered :
    let l := Loader.sample true 1
      [.response { status := 599, body := some [.chunk [1]] },
        .response { status := 599, body := some [.chunk [1]] }, .crash]
    l.MadeFrom { eventBuffer := 1 } ∧ (l.whole 0).outcome = .failure (.http "data.bin" 599 "") ∧
      (l.answer 1).reply = (l.answer 0).reply ∧
      (l.whole 0).outcome.result? = some (.failure "HTTP 599") ∧
      warnedReasons (l.whole 0).reports = ["HTTP 599"] ∧
      (∃ s, (l.inMode false).stream? 1 = some s ∧
        s.drain.1.getLast? = some (.error (.http "data.bin" 599 "")) ∧
        reasons s.drain.1 = ["HTTP 599"] ∧ reasonsHeard (({} : Handlers).follow s.bound s).1 =
          ["HTTP 599"]) ∧
      ∃ s, (l.inMode true).stream? 2 = some s ∧
        reasonsHeard (({} : Handlers).follow s.bound s).1 =
          ["Transfer of data.bin stopped before finishing"] := by
  intro l
  have hl : l.MadeFrom { eventBuffer := 1 } := Loader.madeFrom_sample _ _ _
  obtain ⟨-, hopens, hstreams, hwhole⟩ := one_reason_in_every_way hl
  have hfail : (l.whole 0).outcome = .failure (.http "data.bin" 599 "") := rfl
  obtain ⟨hresult, hwarned, hlast⟩ := hwhole 0 _ hfail
  have hopen (progressive : Bool) (n : Nat) : ∃ s, (l.inMode progressive).stream? n = some s :=
    Option.isSome_iff_exists.mp ((hopens progressive n).mpr (by decide))
  obtain ⟨s, hs⟩ := hopen false 1
  obtain ⟨t, ht⟩ := hopen true 2
  have hsend := hlast false 1 s rfl hs
  have htend : t.drain.1.getLast? = some (.error (.taskAborted "data.bin")) := by
    rw [(drain_stream (Loader.madeFrom_inMode hl true) ht).1]
    rfl
  have hgives := hstreams false 1 s _ hs hsend
  exact ⟨hl, hfail, rfl, hresult, hwarned, ⟨s, hs, hsend, hgives.reader.1, (hgives.handlers {}).1⟩,
    t, ht, ((hstreams true 2 t _ ht htend).handlers {}).1⟩

end Fetch
end Retrieval
