import Retrieval.Proofs.Fetch.InOrder

/-! The listener's side over any channel. Whatever is sent, in whatever order, and whenever the
sender goes away, a listener is given the events up to the first terminal one, and an error of its
own where the sender has gone without one. Behind that there is nothing for ever. -/
namespace Retrieval.Fetch

inductive Turn
  /-- An event is sent, unless the sender has gone. -/
  | send (event : Event)
  | close
  | poll

def Turn.isPoll : Turn → Bool
  | poll => true
  | _ => false

structure Channel where
  receiver : Receiver
  queue : List Event := []
  closed : Bool := false
  sent : List Event := []
  results : List Poll := []
  log : List Log.Event := []

/-- Whether a listener can see the end: by a terminal event or because the sender has gone. -/
def exhausted (sent : List Event) (closed : Bool) : Bool := sent.any Event.isTerminal || closed

/-- What polls bring once a listener has been given all that there is. -/
def thereafter (sent : List Event) (closed : Bool) : Poll :=
  if exhausted sent closed then .ended else .pending

/-- All that a listener is given of the events on a channel. -/
def fused (location : String) (sent : List Event) (closed : Bool) : List Event :=
  untilClosed sent ++
    if closed && !sent.any Event.isTerminal then [.error (.taskAborted location)] else []

theorem any_isTerminal (events : List Event) :
    events.any Event.isTerminal = true ↔ Closed events := List.any_eq_true

theorem exhausted_iff {sent : List Event} {closed : Bool} :
    exhausted sent closed = true ↔ Closed sent ∨ closed = true := by
  rw [exhausted, Bool.or_eq_true, any_isTerminal]

theorem sealed_of_not_closed {events : List Event} (h : ¬Closed events) : Sealed events := by
  intro first event rest he ht
  exact absurd ⟨event, by simp [he], ht⟩ h

theorem untilClosed_append_of_closed {events : List Event} (h : Closed events)
    (more : List Event) : untilClosed (events ++ more) = untilClosed events := by
  induction events with
  | nil => exact absurd h not_closed_nil
  | cons event rest ih =>
    rw [List.cons_append, untilClosed_cons, untilClosed_cons]
    split
    · rfl
    · rename_i ht
      rw [ih (((closed_cons event rest).mp h).resolve_left ht)]

theorem untilClosed_append_of_not_closed {events : List Event} (h : ¬Closed events)
    (more : List Event) : untilClosed (events ++ more) = events ++ untilClosed more := by
  induction events with
  | nil => rfl
  | cons event rest ih =>
    have hopen := not_or.mp (mt (closed_cons event rest).mpr h)
    rw [List.cons_append, untilClosed_cons, if_neg hopen.1, ih hopen.2, List.cons_append]

section

variable {location : String}

theorem exhausted_cons (event : Event) (rest : List Event) (closed : Bool) :
    exhausted (event :: rest) closed = (event.isTerminal || exhausted rest closed) := by
  rw [exhausted, exhausted, List.any_cons, Bool.or_assoc]

theorem fused_cons (event : Event) (rest : List Event) (closed : Bool) :
    fused location (event :: rest) closed =
      event :: if event.isTerminal then [] else fused location rest closed := by
  cases ht : event.isTerminal <;> simp [fused, untilClosed_cons, ht]

theorem Sealed.cons {event : Event} {rest : List Event} (hs : Sealed rest)
    (h : event.isTerminal = true → rest = []) : Sealed (event :: rest) := by
  intro first last behind he ht
  cases first with
  | nil =>
    obtain ⟨rfl, rfl⟩ := List.cons.inj he
    exact h ht
  | cons head more => exact hs more last behind (List.cons.inj he).2 ht

/-- What a listener is given ends with its only terminal event, if there is one. -/
theorem sealed_fused (location : String) (sent : List Event) (closed : Bool) :
    Sealed (fused location sent closed) ∧
      (Closed (fused location sent closed) ↔ exhausted sent closed = true) := by
  induction sent with
  | nil =>
    cases closed with
    | true => exact ⟨(sealed_of_not_closed not_closed_nil).cons fun _ => rfl,
        iff_of_true ⟨_, List.mem_singleton_self _, rfl⟩ rfl⟩
    | false => exact ⟨sealed_of_not_closed not_closed_nil,
        iff_of_false not_closed_nil Bool.false_ne_true⟩
  | cons event rest ih =>
    rw [fused_cons, exhausted_cons, closed_cons]
    cases ht : event.isTerminal with
    | true => exact ⟨(sealed_of_not_closed not_closed_nil).cons fun _ => rfl,
        iff_of_true (Or.inl rfl) rfl⟩
    | false =>
      refine ⟨ih.1.cons fun hterm => ?_, ?_⟩
      · rw [ht] at hterm
        cases hterm
      · simpa using ih.2

/-- What was given without a terminal event stands in front of what is still given. -/
theorem fused_append {first : List Event} (h : ¬Closed first) (rest : List Event) (closed : Bool) :
    fused location (first ++ rest) closed = first ++ fused location rest closed := by
  have hnone : first.any Event.isTerminal = false :=
    Bool.eq_false_iff.mpr (mt (any_isTerminal _).mp h)
  rw [fused, untilClosed_append_of_not_closed h, List.any_append, hnone, Bool.false_or, fused,
    List.append_assoc]

/-- After a terminal event nothing that is sent makes a difference, nor does the sender's going. -/
theorem fused_of_closed (location : String) {sent : List Event} (h : Closed sent)
    (more : List Event) (first second : Bool) :
    fused location (sent ++ more) first = fused location sent second := by
  have hsome := (any_isTerminal sent).mpr h
  simp [fused, untilClosed_append_of_closed h, hsome]

end

namespace Channel

def start (location : String) : Channel := { receiver := ⟨location, false⟩ }

def act (c : Channel) : Turn → Channel
  | .send event =>
    if c.closed then c else { c with queue := c.queue ++ [event], sent := c.sent ++ [event] }
  | .close => { c with closed := true }
  | .poll =>
    let polled := c.receiver.poll c.queue c.closed
    { c with
      receiver := polled.receiver, queue := polled.queue
      results := c.results ++ [polled.result], log := c.log ++ polled.reports }

def run (c : Channel) (turns : List Turn) : Channel := turns.foldl act c

def given (c : Channel) : List Event := c.results.flatMap Poll.events

def due (c : Channel) : List Event :=
  if c.receiver.finished then [] else fused c.receiver.location c.queue c.closed

def idle (c : Channel) : Poll :=
  if c.receiver.finished || exhausted c.queue c.closed then .ended else .pending

variable {c : Channel}

/-- All that a poll can be: the listener knows the end, an event is there, the sender has gone
without a last word, or there is nothing yet. -/
theorem poll_cases (c : Channel) :
    (c.receiver.finished = true ∧ c.act .poll = { c with results := c.results ++ [.ended] }) ∨
    (c.receiver.finished = false ∧ ∃ event rest, c.queue = event :: rest ∧ c.act .poll =
      { c with
        receiver := { c.receiver with finished := event.isTerminal }, queue := rest
        results := c.results ++ [.item event] }) ∨
    (c.receiver.finished = false ∧ c.queue = [] ∧ c.closed = true ∧ c.act .poll =
      { c with
        receiver := ⟨"", true⟩
        results := c.results ++ [.item (.error (.taskAborted c.receiver.location))]
        log := c.log ++ [abortReport c.receiver.location] }) ∨
    (c.receiver.finished = false ∧ c.queue = [] ∧ c.closed = false ∧
      c.act .poll = { c with results := c.results ++ [.pending] }) := by
  obtain ⟨⟨place, finished⟩, queue, closed, sent, results, log⟩ := c
  cases finished with
  | true => exact Or.inl ⟨rfl, by simp [act, Receiver.poll]⟩
  | false =>
    cases queue with
    | cons event rest => exact Or.inr (Or.inl ⟨rfl, event, rest, rfl, by simp [act, Receiver.poll]⟩)
    | nil =>
      cases closed with
      | true => exact Or.inr (Or.inr (Or.inl ⟨rfl, rfl, rfl, by simp [act, Receiver.poll]⟩))
      | false => exact Or.inr (Or.inr (Or.inr ⟨rfl, rfl, rfl, by simp [act, Receiver.poll]⟩))

/-- A poll takes the next event that is due, and nothing changes about what comes after all. -/
theorem poll_due (c : Channel) :
    (c.act .poll).results = c.results ++ [(c.due.head?.map Poll.item).getD c.idle] ∧
      (c.act .poll).due = c.due.tail ∧ (c.act .poll).idle = c.idle := by
  rcases c.poll_cases with ⟨hf, he⟩ | ⟨hf, event, rest, hq, he⟩ | ⟨hf, hq, hc, he⟩ |
    ⟨hf, hq, hc, he⟩
  · simp [he, due, idle, hf]
  · simp only [he, due, idle, hf, hq, fused_cons, exhausted_cons, Bool.false_or]
    cases event.isTerminal <;> simp
  · simp [he, due, idle, hf, hq, hc, fused, exhausted, untilClosed, through]
  · simp [he, due, idle, hf, hq, hc, fused, exhausted, untilClosed, through]

/-- Polls bring the events that are due one after another, and then the same result for ever. -/
theorem results_polls (c : Channel) (n : Nat) :
    (c.run (List.replicate n .poll)).results =
      c.results ++ (c.due.map Poll.item ++ List.replicate n c.idle).take n := by
  induction n generalizing c with
  | zero => simp [run]
  | succ n ih =>
    obtain ⟨hr, hd, hi⟩ := c.poll_due
    have hrun : c.run (List.replicate (n + 1) .poll) =
        (c.act .poll).run (List.replicate n .poll) := rfl
    rw [hrun, ih, hr, hd, hi]
    cases c.due with
    | nil => simp [List.replicate_succ]
    | cons event rest =>
      -- One repetition more at the end is too far behind to be taken.
      have hmore : (rest.map Poll.item ++ List.replicate (n + 1) c.idle).take n =
          (rest.map Poll.item ++ List.replicate n c.idle).take n := by
        rw [List.replicate_succ', ← List.append_assoc, List.take_append_of_le_length (by simp)]
      simp only [List.map_cons, List.cons_append, List.take_succ_cons, hmore, List.head?_cons,
        Option.map_some, Option.getD_some, List.tail_cons, List.append_assoc, List.nil_append]

structure Kept (location : String) (c : Channel) : Prop where
  waiting : c.receiver.finished = false →
    c.receiver.location = location ∧ c.given ++ c.queue = c.sent ∧ ¬Closed c.given
  finished : c.receiver.finished = true →
    c.given = fused location c.sent c.closed ∧ exhausted c.sent c.closed = true
  log : c.log =
    if c.receiver.finished && !c.sent.any Event.isTerminal then [abortReport location] else []

section

variable {location : String}

theorem given_append (c : Channel) (result : Poll) (r : Receiver) (queue : List Event)
    (log : List Log.Event) :
    ({ c with receiver := r, queue := queue, results := c.results ++ [result], log := log } :
      Channel).given = c.given ++ result.events := by
  simp [given, List.flatMap_append]

theorem kept_start (location : String) : Kept location (start location) where
  waiting _ := ⟨rfl, rfl, not_closed_nil⟩
  finished h := by cases h
  log := rfl

/-- A listener who has seen the end while the sender is still there has had a terminal event. -/
theorem Kept.closed_sent (h : Kept location c) (hf : c.receiver.finished = true)
    (hc : c.closed = false) : Closed c.sent :=
  (exhausted_iff.mp (h.finished hf).2).resolve_right (by simp [hc])

/-- An event that is sent waits behind all others. -/
theorem Kept.send (h : Kept location c) (event : Event) : Kept location (c.act (.send event)) := by
  by_cases hc : c.closed = true
  · rw [act, if_pos hc]
    exact h
  · have hopen : c.closed = false := Bool.eq_false_iff.mpr hc
    rw [act, if_neg hc]
    refine ⟨fun hf => ?_, fun hf => ?_, ?_⟩
    · obtain ⟨hplace, hall, hnone⟩ := h.waiting hf
      exact ⟨hplace, (List.append_assoc ..).symm.trans (congrArg (· ++ [event]) hall), hnone⟩
    · -- What comes behind the terminal event counts for nothing.
      have hsent := h.closed_sent hf hopen
      exact ⟨(h.finished hf).1.trans (fused_of_closed location hsent [event] _ _).symm,
        exhausted_iff.mpr (Or.inl (hsent.imp fun _ hm => ⟨List.mem_append_left _ hm.1, hm.2⟩))⟩
    · rw [h.log]
      cases hf : c.receiver.finished with
      | false => rfl
      | true => simp [(any_isTerminal c.sent).mpr (h.closed_sent hf hopen)]

theorem Kept.close (h : Kept location c) : Kept location (c.act .close) := by
  refine ⟨h.waiting, fun hf => ⟨(h.finished hf).1.trans ?_, exhausted_iff.mpr (Or.inr rfl)⟩, h.log⟩
  cases hc : c.closed with
  | true => rfl
  | false =>
    have hsame := fused_of_closed location (h.closed_sent hf hc) [] false true
    rwa [List.append_nil] at hsame

/-- A poll that brings no event leaves things as they are. -/
theorem Kept.unchanged (h : Kept location c) {result : Poll} (hn : result.events = []) :
    Kept location { c with results := c.results ++ [result] } := by
  have hsame : ({ c with results := c.results ++ [result] } : Channel).given = c.given := by
    rw [given_append c result c.receiver, hn, List.append_nil]
  exact ⟨fun hf => hsame ▸ h.waiting hf, fun hf => hsame ▸ h.finished hf, h.log⟩

/-- A poll gives the next event that is due, or none. -/
theorem Kept.poll (h : Kept location c) : Kept location (c.act .poll) := by
  have hlog : c.receiver.finished = false → c.log = [] := fun hf => by
    rw [h.log, hf]
    rfl
  rcases c.poll_cases with ⟨hf, he⟩ | ⟨hf, event, rest, hq, he⟩ | ⟨hf, hq, hc, he⟩ |
    ⟨hf, hq, hc, he⟩
  · rw [he]
    exact h.unchanged rfl
  · -- The event passes from the channel to the listener, and is the last if it is terminal.
    obtain ⟨hplace, hall, hnone⟩ := h.waiting hf
    have hmore : (c.act .poll).given = c.given ++ [event] := by
      rw [he, given_append]
      rfl
    have hsent : c.sent = c.given ++ event :: rest := by rw [← hall, hq]
    rw [he] at hmore ⊢
    refine ⟨fun hn => ⟨hplace, ?_, ?_⟩, fun ht => ⟨?_, exhausted_iff.mpr (Or.inl ?_)⟩, ?_⟩
    · rw [hmore, hsent, List.append_assoc]
      rfl
    · rw [hmore, closed_append_singleton hnone]
      exact Bool.eq_false_iff.mp hn
    · have hlast : event.isTerminal = true := ht
      rw [hmore, hsent, fused_append hnone, fused_cons, if_pos hlast]
    · exact ⟨event, by simp [hsent], ht⟩
    · have hterm : (event.isTerminal && !c.sent.any Event.isTerminal) = false := by
        cases ht : event.isTerminal with
        | false => rfl
        | true => simp [hsent, ht]
      simp only [hlog hf, hterm, Bool.false_eq_true, if_false]
  · -- The sender has gone without a last word, and the poll supplies one.
    obtain ⟨hplace, hall, hnone⟩ := h.waiting hf
    have hmore : (c.act .poll).given = c.given ++ [.error (.taskAborted location)] := by
      rw [he, given_append, hplace]
      rfl
    have hsent : c.sent = c.given ++ [] := by rw [← hall, hq]
    have hany : c.sent.any Event.isTerminal = false := by
      rw [hsent, List.append_nil]
      exact Bool.eq_false_iff.mpr (mt (any_isTerminal _).mp hnone)
    rw [he] at hmore ⊢
    refine ⟨nofun, fun _ => ⟨?_, exhausted_iff.mpr (Or.inr hc)⟩, ?_⟩
    · rw [hmore, hsent, fused_append hnone, hc]
      rfl
    · simp only [hlog hf, hplace, hany]
      rfl
  · rw [he]
    exact h.unchanged rfl

theorem Kept.run (h : Kept location c) (turns : List Turn) : Kept location (c.run turns) := by
  induction turns generalizing c with
  | nil => exact h
  | cons turn rest ih =>
    refine ih (?_ : Kept location (c.act turn))
    cases turn with
    | send event => exact h.send event
    | close => exact h.close
    | poll => exact h.poll

/-- What was given and what is due make up all that there is for the listener. -/
theorem Kept.account (h : Kept location c) : c.given ++ c.due = fused location c.sent c.closed := by
  cases hf : c.receiver.finished with
  | true => rw [due, if_pos hf, List.append_nil, (h.finished hf).1]
  | false =>
    obtain ⟨hplace, hall, hnone⟩ := h.waiting hf
    rw [due, hf, if_neg Bool.false_ne_true, ← hall, fused_append hnone, hplace]

theorem Kept.idle_eq (h : Kept location c) : c.idle = thereafter c.sent c.closed := by
  cases hf : c.receiver.finished with
  | true => simp only [idle, thereafter, hf, Bool.true_or, if_true, (h.finished hf).2]
  | false =>
    obtain ⟨-, hall, hnone⟩ := h.waiting hf
    have hany : c.given.any Event.isTerminal = false :=
      Bool.eq_false_iff.mpr (mt (any_isTerminal _).mp hnone)
    simp only [idle, thereafter, hf, Bool.false_or, ← hall, exhausted, List.any_append, hany]

theorem Kept.finished_eq (h : Kept location c) :
    c.receiver.finished = c.given.any Event.isTerminal := by
  rw [Bool.eq_iff_iff, any_isTerminal]
  constructor
  · intro hf
    rw [(h.finished hf).1]
    exact (sealed_fused location c.sent c.closed).2.mpr (h.finished hf).2
  · intro hc
    refine Decidable.byContradiction fun hn => ?_
    exact (h.waiting (Bool.eq_false_iff.mpr hn)).2.2 hc

/-- From any point on, polls bring the rest of all that there is. -/
theorem Kept.results_polls (h : Kept location c) (n : Nat) :
    (c.run (List.replicate n .poll)).results = c.results ++
      (((fused location c.sent c.closed).drop c.given.length).map Poll.item ++
        List.replicate n (thereafter c.sent c.closed)).take n := by
  rw [Channel.results_polls, h.idle_eq, ← h.account, List.drop_left]

end

/-- A listener who has seen the end is told nothing but that, whatever else happens. -/
theorem results_of_finished (hf : c.receiver.finished = true) (turns : List Turn) :
    (c.run turns).results = c.results ++ List.replicate (turns.countP Turn.isPoll) .ended := by
  induction turns generalizing c with
  | nil => exact (List.append_nil _).symm
  | cons turn rest ih =>
    have hrun : c.run (turn :: rest) = (c.act turn).run rest := rfl
    rw [hrun]
    cases turn with
    | send event =>
      have hsame : (c.act (.send event)).receiver = c.receiver ∧
          (c.act (.send event)).results = c.results := by
        by_cases hc : c.closed = true <;> simp [act, hc]
      rw [ih (hsame.1.symm ▸ hf), hsame.2]
      rfl
    | close => exact ih hf
    | poll =>
      have hpoll : c.act .poll = { c with results := c.results ++ [.ended] } := by
        simp [act, Receiver.poll, hf]
      have hrest := ih (c := c.act .poll) (by rw [hpoll]; exact hf)
      rw [hrest, hpoll, List.append_assoc, List.countP_cons_of_pos rfl, List.replicate_succ]
      rfl

/-- What is sent one after another waits in that order. -/
theorem run_send (hc : c.closed = false) (events : List Event) :
    c.run (events.map .send) =
      { c with queue := c.queue ++ events, sent := c.sent ++ events } := by
  induction events generalizing c with
  | nil => simp [run]
  | cons event rest ih =>
    have hstep : c.act (.send event) =
        { c with queue := c.queue ++ [event], sent := c.sent ++ [event] } := by
      rw [act, hc, if_neg Bool.false_ne_true]
    have hrest := ih (c := c.act (.send event)) (by rw [hstep]; exact hc)
    have hrun : c.run ((event :: rest).map .send) =
        (c.act (.send event)).run (rest.map .send) := rfl
    rw [hrun, hrest, hstep]
    simp only [List.append_assoc, List.singleton_append]

theorem run_append (c : Channel) (first second : List Turn) :
    c.run (first ++ second) = (c.run first).run second := List.foldl_append

end Channel

open Channel in
/-- Over every channel a listener is given the events up to the first terminal one, or all of them
and one error in the name of its location where the sender has gone, and after that it is told the
end by every poll; as long as neither has come it waits. The error alone is logged, and once. -/
theorem fused_on_every_channel (location : String) :
    (∀ (sent : List Event) (closed : Bool) n,
      ((start location).run (sent.map .send ++ (if closed then [.close] else []) ++
        List.replicate n .poll)).results =
          ((fused location sent closed).map Poll.item ++
            List.replicate n (thereafter sent closed)).take n) ∧
    ∀ turns,
      let c := (start location).run turns
      let all := fused location c.sent c.closed
      Sealed all ∧ (Closed all ↔ exhausted c.sent c.closed = true) ∧
      c.given <+: all ∧
      (∀ n, (c.run (List.replicate n .poll)).results = c.results ++
        ((all.drop c.given.length).map Poll.item ++
          List.replicate n (thereafter c.sent c.closed)).take n) ∧
      (Closed c.given → ∀ more, (c.run more).results =
        c.results ++ List.replicate (more.countP Turn.isPoll) .ended) ∧
      c.log =
        if c.given.any Event.isTerminal && !c.sent.any Event.isTerminal then [abortReport location]
        else [] := by
  refine ⟨fun sent closed n => ?_, ?_⟩
  · obtain ⟨c, hc⟩ : ∃ c, c = (start location).run
        (sent.map .send ++ if closed then [.close] else []) := ⟨_, rfl⟩
    have hkept : Kept location c := hc ▸ (kept_start location).run _
    -- Nothing has been polled for up to here.
    have hstate : c.sent = sent ∧ c.closed = closed ∧ c.results = [] := by
      rw [hc, run_append, run_send rfl]
      cases closed <;> exact ⟨rfl, rfl, rfl⟩
    obtain ⟨hsent, hclosed, hresults⟩ := hstate
    have hnone : c.given = [] := by rw [given, hresults]; rfl
    rw [run_append, ← hc, hkept.results_polls, hsent, hclosed, hresults, hnone]
    rfl
  · intro turns c all
    have hkept : Kept location c := (kept_start location).run turns
    obtain ⟨hsealed, hclosed⟩ := sealed_fused location c.sent c.closed
    refine ⟨hsealed, hclosed, ⟨c.due, hkept.account⟩, hkept.results_polls, fun hc => ?_, ?_⟩
    · refine results_of_finished ?_
      rw [hkept.finished_eq]
      exact (any_isTerminal _).mpr hc
    · rw [hkept.log, hkept.finished_eq]

open Channel in
/-- A completion with more behind it, of which the listener hears nothing; and a sender who goes
without a last word. -/
theorem fused_on_every_channel_twice :
    let c := (start "data.bin").run
      [.send .opened, .poll, .poll, .send .complete, .send (.error (.taskAborted "x")), .poll]
    Closed c.given ∧
      (c.run [.send .complete, .poll, .close, .poll]).results =
        [.item .opened, .pending, .item .complete, .ended, .ended] ∧
      ((start "data.bin").run ([.opened, .opened].map .send ++ [.close] ++
        List.replicate 5 .poll)).results =
          [.item .opened, .item .opened, .item (.error (.taskAborted "data.bin")), .ended,
            .ended] := by
  intro c
  obtain ⟨hstatic, hturns⟩ := fused_on_every_channel "data.bin"
  obtain ⟨-, -, -, -, hover, -⟩ := hturns
    [.send .opened, .poll, .poll, .send .complete, .send (.error (.taskAborted "x")), .poll]
  have hclosed : Closed c.given :=
    ⟨Event.complete, List.mem_cons_of_mem Event.opened (List.mem_singleton_self _), rfl⟩
  exact ⟨hclosed, hover hclosed _, hstatic [.opened, .opened] true 5⟩

end Retrieval.Fetch
