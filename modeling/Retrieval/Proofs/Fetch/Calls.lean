import Retrieval.Proofs.Fetch.EverySchedule

/-! What handlers are told of the events of a stream. Each event is a call of its own, made where a
handler is set, and a handler that is called once finds only the first event of its kind. In a
stream no kind but data comes twice, so that the calls are its events without those that no handler
is set for. -/
namespace Retrieval.Fetch

def Event.call : Event → Call
  | opened => .opened
  | status location code headers => .status location code headers
  | chunk data progress => .chunk data progress
  | complete => .complete
  | error cause => .error cause.reason

inductive Kind
  | opened
  | status
  | chunk
  | complete
  | error
  deriving DecidableEq

def Call.kind : Call → Kind
  | opened => .opened
  | status .. => .status
  | chunk .. => .chunk
  | complete => .complete
  | error _ => .error

def ofKind (k : Kind) (calls : List Call) : List Call := calls.filter fun call => call.kind = k

theorem ofKind_map (k : Kind) (events : List Event) :
    ofKind k (events.map Event.call) =
      (events.filter fun e => e.call.kind = k).map Event.call := List.filter_map

/-- Whether the handler for a kind is still there once a call was made for the event. -/
def Event.spares (e : Event) (k : Kind) : Bool := k = .chunk || k ≠ e.call.kind

/-- The events without those that come after another one of their kind, pieces of data apart. -/
def firsts : List Event → List Event
  | [] => []
  | event :: rest => event :: (firsts rest).filter fun later => event.spares later.call.kind

theorem firsts_sublist (events : List Event) : (firsts events).Sublist events := by
  induction events with
  | nil => exact List.Sublist.refl _
  | cons event rest ih => exact (List.filter_sublist.trans ih).cons_cons event

/-- Of one kind there is the first event, and of data there is all. -/
theorem filter_firsts (k : Kind) (events : List Event) :
    (firsts events).filter (fun e => e.call.kind = k) =
      if k = .chunk then events.filter (fun e => e.call.kind = k)
      else (events.filter fun e => e.call.kind = k).take 1 := by
  induction events with
  | nil => simp [firsts]
  | cons event rest ih =>
    rw [firsts, List.filter_cons, List.filter_cons, List.filter_filter]
    by_cases hsame : event.call.kind = k ∧ k ≠ .chunk
    · -- The event takes the place of all later ones of its kind.
      obtain ⟨rfl, hk⟩ := hsame
      have hnone : (firsts rest).filter (fun later =>
          decide (later.call.kind = event.call.kind) && event.spares later.call.kind) = [] := by
        refine List.filter_eq_nil_iff.mpr fun later _ => ?_
        simp only [Event.spares, Bool.and_eq_true, decide_eq_true_eq, Bool.or_eq_true]
        rintro ⟨hl, hc | hc⟩
        · exact hk (hl ▸ hc)
        · exact hc hl
      simp only [hnone, if_neg hk, decide_true, if_true, List.take_succ_cons, List.take_zero]
    · have hall : (firsts rest).filter (fun later =>
          decide (later.call.kind = k) && event.spares later.call.kind) =
            (firsts rest).filter fun later => later.call.kind = k := by
        refine List.filter_congr fun later _ => ?_
        simp only [Event.spares, Bool.and_eq_left_iff_imp, decide_eq_true_eq, Bool.or_eq_true]
        rintro rfl
        by_cases hc : later.call.kind = .chunk
        · exact Or.inl hc
        · exact Or.inr fun he => hsame ⟨he.symm, hc⟩
      rw [hall, ih]
      by_cases hk : k = .chunk
      · simp only [if_pos hk]
      · have hne : event.call.kind ≠ k := fun he => hsame ⟨he, hk⟩
        simp only [if_neg hk, decide_eq_false hne, Bool.false_eq_true, if_false]

/-- No kind but data comes twice. -/
def Varied (events : List Event) : Prop :=
  events.Pairwise fun e later => e.spares later.call.kind = true

theorem firsts_eq {events : List Event} (h : Varied events) : firsts events = events := by
  induction events with
  | nil => rfl
  | cons event rest ih =>
    obtain ⟨hhead, htail⟩ := List.pairwise_cons.mp h
    rw [firsts, ih htail, List.filter_eq_self.mpr hhead]

section

variable {location : String} {mode : Delivery} {answer : Answer}

theorem kind_of_mem_heading {reply : Reply} {event : Event} (h : event ∈ heading location reply) :
    event.call.kind = .status := by
  obtain ⟨r, -, rfl⟩ := mem_heading.mp h
  rfl

theorem kind_of_mem_chunks {reply : Reply} {event : Event} (h : event ∈ chunks mode reply) :
    event.call.kind = .chunk := by
  obtain ⟨bytes, q, rfl⟩ := mem_chunks h
  rfl

theorem kind_of_isTerminal {event : Event} (h : event.isTerminal = true) :
    event.call.kind = .complete ∨ event.call.kind = .error := by
  cases event with
  | complete => exact Or.inl rfl
  | error cause => exact Or.inr rfl
  | _ => cases h

/-- The parts of what a stream promises are of different kinds. -/
theorem varied_promised : Varied (promised location mode answer) := by
  have hlast {event : Event} (h : event ∈ (verdict location answer.reply).lastWord location) :=
    kind_of_isTerminal (isTerminal_of_mem_lastWord h)
  rw [promised_eq, Varied, List.pairwise_cons, List.pairwise_append, List.pairwise_append]
  refine ⟨fun event hm => ?_, ⟨?_, ?_, fun first hf later hlater => ?_⟩, ?_,
    fun first hf later hlater => ?_⟩
  · rcases List.mem_append.mp hm with hm | hm
    · rcases List.mem_append.mp hm with hm | hm
      · rw [kind_of_mem_heading hm]; rfl
      · rw [kind_of_mem_chunks hm]; rfl
    · rcases hlast hm with hk | hk <;> rw [hk] <;> rfl
  · cases answer.reply <;> simp [heading]
  · refine List.pairwise_of_forall_mem_list fun first hf later hlater => ?_
    rw [kind_of_mem_chunks hlater]
    rfl
  · rw [kind_of_mem_chunks hlater]
    rfl
  · cases verdict location answer.reply <;> simp [Outcome.lastWord, Outcome.parting]
  · have hfirst : first.call.kind = .status ∨ first.call.kind = .chunk :=
      (List.mem_append.mp hf).imp kind_of_mem_heading kind_of_mem_chunks
    rcases hfirst with hf | hf <;> rcases hlast hlater with hk | hk <;>
      rw [Event.spares, hf, hk] <;> rfl

end

namespace Handlers

def takes (h : Handlers) : Kind → Bool
  | .opened => h.onOpen
  | .status => h.onStatus
  | .chunk => true
  | .complete => h.onComplete
  | .error => h.onError

def project (h : Handlers) (events : List Event) : List Call :=
  (events.map Event.call).filter fun call => h.takes call.kind

/-- How far a list of events was handed over. -/
structure Heeded where
  calls : List Call
  /-- The handlers that are still to be called. -/
  left : Handlers
  stopped : Bool
  /-- The events that were not looked at. -/
  behind : List Event

def heed (h : Handlers) : List Event → Heeded
  | [] => ⟨[], h, false, []⟩
  | event :: rest =>
    match h.dispatch event with
    | (calls, left, true) => ⟨calls, left, true, rest⟩
    | (calls, left, false) => { left.heed rest with calls := calls ++ (left.heed rest).calls }

theorem dispatch_calls (h : Handlers) (event : Event) :
    (h.dispatch event).1 = h.project [event] := by
  cases event <;> simp only [dispatch, project, List.map_cons, List.map_nil, Event.call, Call.kind,
    takes, List.filter_cons, List.filter_nil, if_true]

/-- A call takes the handler for its kind away, unless it is the one for data. -/
theorem takes_dispatch (h : Handlers) (event : Event) (k : Kind) :
    (h.dispatch event).2.1.takes k = (event.spares k && h.takes k) := by
  cases event <;> cases k <;> rfl

theorem project_cons (h : Handlers) (event : Event) (rest : List Event) :
    h.project (event :: rest) = (h.dispatch event).1 ++ h.project rest := by
  rw [dispatch_calls, project, project, project, ← List.filter_append, ← List.map_append]
  rfl

theorem project_dispatch (h : Handlers) (event : Event) (rest : List Event) :
    (h.dispatch event).2.1.project rest =
      h.project (rest.filter fun later => event.spares later.call.kind) := by
  simp only [project, takes_dispatch, List.filter_map, List.filter_filter, Function.comp_def,
    Bool.and_comm]

theorem heed_cons (h : Handlers) (event : Event) (rest : List Event) :
    h.heed (event :: rest) =
      if event.isTerminal then ⟨(h.dispatch event).1, (h.dispatch event).2.1, true, rest⟩
      else
        { (h.dispatch event).2.1.heed rest with
          calls := (h.dispatch event).1 ++ ((h.dispatch event).2.1.heed rest).calls } := by
  cases event <;> rfl

theorem calls_heed (h : Handlers) (events : List Event) : (h.heed events).calls = h.run events := by
  induction events generalizing h with
  | nil => rfl
  | cons event rest ih => cases event <;> simp only [heed, run, dispatch, ih]

/-- The calls for a list of events are the first events of each kind up to the terminal one. -/
theorem run_eq (h : Handlers) (events : List Event) :
    h.run events = h.project (firsts (untilClosed events)) := by
  rw [← calls_heed]
  -- The handlers are others after each event, as the later events of its kind are.
  induction events generalizing h with
  | nil => rfl
  | cons event rest ih =>
    rw [heed_cons, untilClosed_cons]
    split
    · rw [dispatch_calls]
      rfl
    · rw [ih, project_dispatch, ← project_cons]
      rfl

/-- Handing over stops at the first terminal event and nowhere before. -/
theorem heed_stops (h : Handlers) (events : List Event) :
    events = untilClosed events ++ (h.heed events).behind ∧
      ((h.heed events).stopped = true ↔ Closed events) := by
  induction events generalizing h with
  | nil => exact ⟨rfl, iff_of_false Bool.false_ne_true not_closed_nil⟩
  | cons event rest ih =>
    rw [heed_cons, untilClosed_cons, closed_cons]
    split
    · rename_i ht
      exact ⟨rfl, iff_of_true rfl (Or.inl ht)⟩
    · rename_i ht
      obtain ⟨hplace, hstop⟩ := ih (h.dispatch event).2.1
      exact ⟨congrArg (event :: ·) hplace, hstop.trans (or_iff_right ht).symm⟩

/-- A handler is left that was set and has not been called, and the one for data always. -/
theorem heed_left (h : Handlers) (events : List Event) (k : Kind) :
    (h.heed events).left.takes k = (h.takes k && (untilClosed events).all (·.spares k)) := by
  induction events generalizing h with
  | nil => exact (Bool.and_true _).symm
  | cons event rest ih =>
    rw [heed_cons, untilClosed_cons]
    split
    · rw [takes_dispatch, List.all_cons, List.all_nil, Bool.and_true, Bool.and_comm]
    · rw [ih, takes_dispatch, List.all_cons, Bool.and_assoc, Bool.and_left_comm]

theorem run_of_beginning (h : Handlers) {location : String} {mode : Delivery} {answer : Answer}
    {events : List Event} (hb : events <+: promised location mode answer) :
    h.run events = h.project events := by
  have hsealed := (sealed_promised location mode answer).beginning hb
  have hvaried : Varied events := varied_promised.sublist hb.sublist
  rw [run_eq, untilClosed_eq hsealed, firsts_eq hvaried]

/-- Following a stream hands over what taking its events brings. -/
theorem follow_eq_run (limit : Nat) (h : Handlers) (s : Stream) :
    (h.follow limit s).1 = h.run (s.take limit).1 := by
  induction limit generalizing h s with
  | zero => rfl
  | succ limit ih =>
    rcases hn : s.next with ⟨result, after, reports⟩
    cases result with
    | item event =>
      rcases hd : h.dispatch event with ⟨calls, rest, stop⟩
      cases stop with
      | true => simp only [follow, Stream.take, hn, hd, run]
      | false => simp only [follow, Stream.take, hn, hd, run, ih]
    | _ => simp only [follow, Stream.take, hn, run]

/-- The calls of a kind are those that its handler is told of, as far as it is there. -/
theorem ofKind_run (h : Handlers) (events : List Event) (k : Kind) :
    ofKind k (h.run events) =
      if h.takes k then
        if k = .chunk then ofKind k ((untilClosed events).map Event.call)
        else (ofKind k ((untilClosed events).map Event.call)).take 1
      else [] := by
  have hswap : ofKind k (h.run events) =
      (ofKind k ((firsts (untilClosed events)).map Event.call)).filter fun _ => h.takes k := by
    rw [run_eq, ofKind, ofKind, project, List.filter_filter, List.filter_filter]
    refine List.filter_congr fun call _ => ?_
    by_cases hk : call.kind = k
    · rw [hk, Bool.and_comm]
    · simp only [decide_eq_false hk, Bool.false_and, Bool.and_false]
  rw [hswap, ofKind_map, filter_firsts, ofKind_map]
  by_cases ht : h.takes k = true
  · rw [if_pos ht, List.filter_eq_self.mpr fun _ _ => ht]
    split
    · rfl
    · rw [List.map_take]
  · rw [if_neg ht, List.filter_eq_nil_iff.mpr fun _ _ => ht]

structure HandedOver (h : Handlers) (events : List Event) : Prop where
  calls : (h.heed events).calls = h.run events
  place : events = untilClosed events ++ (h.heed events).behind
  stops : (h.heed events).stopped = true ↔ Closed events
  left : ∀ k, (h.heed events).left.takes k = (h.takes k && (untilClosed events).all (·.spares k))
  inOrder : (h.run events).Sublist ((untilClosed events).map Event.call)
  data : ofKind .chunk (h.run events) = ofKind .chunk ((untilClosed events).map Event.call)
  once : ∀ k, k ≠ .chunk → ofKind k (h.run events) =
    if h.takes k then (ofKind k ((untilClosed events).map Event.call)).take 1 else []
  /-- To leave handlers out takes their calls away and no others. -/
  fewer : ∀ left : Handlers, (∀ k, left.takes k = true → h.takes k = true) →
    left.run events = (h.run events).filter fun call => left.takes call.kind

/-- Following hands over what the handlers heed, up to the event at which they stop. -/
theorem handedOver (h : Handlers) (events : List Event) : h.HandedOver events where
  calls := h.calls_heed events
  place := (h.heed_stops events).1
  stops := (h.heed_stops events).2
  left := h.heed_left events
  inOrder := by
    rw [run_eq]
    exact List.filter_sublist.trans ((firsts_sublist _).map Event.call)
  data := h.ofKind_run events .chunk
  once k hk := by rw [ofKind_run, if_neg hk]
  fewer left hleft := by
    rw [run_eq, run_eq, project, project, List.filter_filter]
    refine List.filter_congr fun call _ => ?_
    exact (Bool.and_eq_left_iff_imp.mpr (hleft call.kind)).symm

end Handlers

/-- Handlers are told the events of the stream for the same reply one by one, without those that no
handler is set for, and whoever moves when they are told what has been received. Any list of events
is handed over up to its first terminal one, with one call at most for each kind but data. -/
theorem calls_of_every_retrieval {config : Config} {l : Loader} (hl : l.MadeFrom config)
    (h : Handlers) :
    (∀ events, h.HandedOver events) ∧
    (∀ n, (l.stream? n).isSome = true ↔ config.eventBuffer.toNat ≤ Loader.maxChannelCapacity) ∧
    ∀ i j s t, l.stream? i = some s → l.stream? j = some t →
      (l.answer i).reply = (l.answer j).reply →
      (h.follow t.bound t).1 =
        (s.drain.1.map Event.call).filter (fun call => h.takes call.kind) ∧
      (∀ moves, h.run ((Watched.mk t []).run moves).received =
        (((Watched.mk t []).run moves).received.map Event.call).filter
          fun call => h.takes call.kind) ∧
      ∀ left : Handlers, (∀ k, left.takes k = true → h.takes k = true) →
        (left.follow t.bound t).1 =
          (h.follow t.bound t).1.filter fun call => left.takes call.kind := by
  refine ⟨h.handedOver, Loader.stream?_isSome hl, fun i j s t hs ht hsame => ⟨?_, ?_, ?_⟩⟩
  · have hevents : s.drain.1 = t.drain.1 := by
      rw [(drain_stream hl hs).1, (drain_stream hl ht).1]
      exact promised_congr (by rw [hsame]) (by rw [hsame]) (by rw [hsame])
    have hall : t.drain.1 <+: promised l.request.location l.delivery (l.answer j) :=
      (drain_stream hl ht).1 ▸ List.prefix_rfl
    rw [Handlers.follow_eq_run, hevents]
    exact h.run_of_beginning hall
  · intro moves
    have hp := proper_loader l j
    obtain ⟨hstart, hcap⟩ := listening_stream hl ht
    have hroom : 0 < t.capacity := by omega
    have hbegins := (inStep_run hp hstart hroom moves).beginning
    rw [promised_loader] at hbegins
    exact h.run_of_beginning ((List.prefix_append _ _).trans hbegins)
  · intro left hleft
    rw [Handlers.follow_eq_run, Handlers.follow_eq_run]
    exact (h.handedOver _).fewer left hleft

/-- A body that breaks down, told to a handler for the status besides those for data and failures,
and to the latter two alone. -/
theorem calls_of_every_retrieval_broken_down :
    let reply : Reply := .response
      { status := 200, headers := [("etag", [120])], contentLength := some 9,
        body := some [.chunk [1, 2], .chunk [], .crash] }
    let l := Loader.sample true 1 [reply]
    let h : Handlers := { onStatus := true }
    let calls : List Call := [.status "data.bin" 200 [("etag", [120])], .chunk [1, 2] ⟨2, 9⟩,
      .error "Transfer of data.bin stopped before finishing"]
    l.MadeFrom { eventBuffer := 1 } ∧ (l.answer 0).reply = (l.answer 1).reply ∧
      ∃ s t, l.stream? 0 = some s ∧ l.stream? 1 = some t ∧
        (s.drain.1.map Event.call).filter (fun call => h.takes call.kind) = calls ∧
        (h.follow t.bound t).1 = calls ∧ (∀ k, ({} : Handlers).takes k = true → h.takes k = true) ∧
        (({} : Handlers).follow t.bound t).1 = calls.tail := by
  intro reply l h calls
  have hl : l.MadeFrom { eventBuffer := 1 } := Loader.madeFrom_sample _ _ _
  obtain ⟨-, -, hstreams⟩ := calls_of_every_retrieval hl h
  obtain ⟨s, hs⟩ : ∃ s, l.stream? 0 = some s := ⟨_, rfl⟩
  obtain ⟨t, ht⟩ : ∃ t, l.stream? 1 = some t := ⟨_, rfl⟩
  obtain ⟨hcalls, -, hfewer⟩ := hstreams 0 1 s t hs ht rfl
  have hless : ∀ k, ({} : Handlers).takes k = true → h.takes k = true := by
    intro k hk
    cases k with
    | chunk => rfl
    | error => rfl
    | _ => cases hk
  have htold : (s.drain.1.map Event.call).filter (fun call => h.takes call.kind) = calls := by
    rw [(drain_stream hl hs).1]
    rfl
  rw [htold] at hcalls
  have hrest := hfewer {} hless
  rw [hcalls] at hrest
  exact ⟨hl, rfl, s, t, hs, ht, htold, hcalls, hless, hrest⟩

end Retrieval.Fetch
