import Retrieval.Fetch.Stream
import Retrieval.Proofs.Fetch.Told

/-! A stream under every schedule. Task and listener take their turns in any order, and the
listener may go away at any time. What has been received and what waits in the channel is always
the beginning of one list of events, which the schedule has no part in. -/
namespace Retrieval.Fetch

namespace Stream

def release (s : Stream) : Stream := { s with dropped := true, queue := [] }

def abort (s : Stream) : Stream := { s with steps := [], ending := .finished }

def upcoming (s : Stream) : List Event :=
  emitted s.steps ++
    if s.ending = .crashed ∧ s.receiver.finished = false then
      [.error (.taskAborted s.receiver.location)]
    else []

end Stream

def Poll.events : Poll → List Event
  | item event => [event]
  | _ => []

inductive Move
  /-- The task takes one step, unless it has to wait. -/
  | work
  | poll
  | release
  /-- The task is stopped, at any time after the listener has gone. -/
  | abort

structure Watched where
  stream : Stream
  received : List Event := []

namespace Watched

def act (w : Watched) : Move → Watched
  | .work =>
    match w.stream.advance? with
    | some (next, _) => { w with stream := next }
    | none => w
  | .poll => ⟨w.stream.poll.2.1, w.received ++ w.stream.poll.1.events⟩
  | .release => { w with stream := w.stream.release }
  | .abort => if w.stream.dropped then { w with stream := w.stream.abort } else w

def run (w : Watched) (moves : List Move) : Watched := moves.foldl act w

theorem run_cons (w : Watched) (move : Move) (rest : List Move) :
    w.run (move :: rest) = (w.act move).run rest := rfl

theorem run_append (w : Watched) (first second : List Move) :
    w.run (first ++ second) = (w.run first).run second := List.foldl_append

def entries (w : Watched) : Move → List Log.Event
  | .work => (w.stream.advance?.map Prod.snd).getD []
  | .poll => w.stream.poll.2.2
  | .release | .abort => []

def log (w : Watched) : List Move → List Log.Event
  | [] => []
  | move :: rest => w.entries move ++ (w.act move).log rest

theorem log_append (w : Watched) (first second : List Move) :
    w.log (first ++ second) = w.log first ++ (w.run first).log second := by
  induction first generalizing w with
  | nil => rfl
  | cons move rest ih =>
    have hrest := ih (w.act move)
    simp only [List.cons_append, log, run_cons, hrest, List.append_assoc]

/-- What each move of a schedule keeps is kept by the schedule. -/
theorem run_of_act {P : Watched → Prop} {moves : List Move}
    (hact : ∀ w, ∀ move ∈ moves, P w → P (w.act move)) {w : Watched} (h : P w) :
    P (w.run moves) := by
  induction moves generalizing w with
  | nil => exact h
  | cons move rest ih =>
    have hnext : P (w.act move) := hact w move List.mem_cons_self h
    exact ih (fun v later hm => hact v later (List.mem_cons_of_mem move hm)) hnext

end Watched

namespace Stream

/-- All that a step of a task can be: it tells the listener nothing, or it is an event that nobody
takes any more, or an event for which there is room. -/
theorem advance?_cases {s t : Stream} {reports : List Log.Event}
    (h : s.advance? = some (t, reports)) :
    (∃ act transfer rest, s.steps = ⟨act, transfer⟩ :: rest ∧ act.event? = none ∧
      t = { s with steps := rest, transfer, sent := s.sent ++ act.request?.toList } ∧
      reports = act.entry?.toList) ∨
    (∃ event transfer rest, s.steps = ⟨.emit event, transfer⟩ :: rest ∧ s.dropped = true ∧
      t = { s with steps := [], ending := .finished, transfer }) ∨
    (∃ event transfer rest, s.steps = ⟨.emit event, transfer⟩ :: rest ∧ s.dropped = false ∧
      s.queue.length < s.capacity ∧
      t = { s with queue := s.queue ++ [event], steps := rest, transfer } ∧ reports = []) := by
  unfold advance? at h
  split at h
  · cases h
  · rename_i entry transfer rest hs
    cases h
    refine Or.inl ⟨.report entry, transfer, rest, hs, rfl, ?_, rfl⟩
    simp only [Act.request?, Option.toList_none, List.append_nil]
  · rename_i request target transfer rest hs
    cases h
    exact Or.inl ⟨.send request target, transfer, rest, hs, rfl, rfl, rfl⟩
  · rename_i event transfer rest hs
    by_cases hd : s.dropped = true
    · rw [if_pos hd] at h
      cases h
      exact Or.inr (Or.inl ⟨event, transfer, rest, hs, hd, rfl⟩)
    · rw [if_neg hd] at h
      have hstays : s.dropped = false := Bool.eq_false_iff.mpr hd
      by_cases hq : s.queue.length < s.capacity
      · rw [if_pos hq] at h
        cases h
        exact Or.inr (Or.inr ⟨event, transfer, rest, hs, hstays, hq, rfl, rfl⟩)
      · rw [if_neg hq] at h
        cases h

theorem advance?_eq_none {s : Stream} (h : s.advance? = none) :
    s.steps = [] ∨ s.capacity ≤ s.queue.length := by
  unfold advance? at h
  split at h
  · exact Or.inl (by assumption)
  · cases h
  · cases h
  · split at h
    · cases h
    · split at h
      · cases h
      · exact Or.inr (by omega)

/-- All that a poll can be as long as the listener stays: the stream is over, an event is there,
the task has gone without a last word, or nothing has come yet. -/
theorem poll_cases {s : Stream} (hd : s.dropped = false) :
    (s.receiver.finished = true ∧ s.poll = (.ended, s, [])) ∨
    (s.receiver.finished = false ∧ ∃ event rest, s.queue = event :: rest ∧ s.poll =
      (.item event,
        { s with receiver := { s.receiver with finished := event.isTerminal }, queue := rest },
        [])) ∨
    (s.receiver.finished = false ∧ s.queue = [] ∧ s.taskGone = true ∧ s.poll =
      (.item (.error (.taskAborted s.receiver.location)),
        { s with receiver := ⟨"", true⟩, queue := [] }, [abortReport s.receiver.location])) ∨
    (s.receiver.finished = false ∧ s.queue = [] ∧ s.taskGone = false ∧
      s.poll = (.pending, s, [])) := by
  have hp : s.poll =
      ((s.receiver.poll s.queue s.taskGone).result,
        { s with
          receiver := (s.receiver.poll s.queue s.taskGone).receiver
          queue := (s.receiver.poll s.queue s.taskGone).queue },
        (s.receiver.poll s.queue s.taskGone).reports) := if_neg (by rw [hd]; decide)
  by_cases hf : s.receiver.finished = true
  · refine Or.inl ⟨hf, ?_⟩
    rw [hp]
    simp only [Receiver.poll, if_pos hf]
  · have hf' : s.receiver.finished = false := Bool.eq_false_iff.mpr hf
    cases hq : s.queue with
    | cons event rest =>
      refine Or.inr (Or.inl ⟨hf', event, rest, rfl, ?_⟩)
      rw [hp]
      simp only [Receiver.poll, if_neg hf, hq]
    | nil =>
      by_cases hg : s.taskGone = true
      · refine Or.inr (Or.inr (Or.inl ⟨hf', rfl, hg, ?_⟩))
        rw [hp]
        simp only [Receiver.poll, if_neg hf, hq, if_pos hg]
      · refine Or.inr (Or.inr (Or.inr ⟨hf', rfl, Bool.eq_false_iff.mpr hg, ?_⟩))
        have hs : { s with queue := [] } = s := by rw [← hq]
        rw [hp]
        simp only [Receiver.poll, if_neg hf, hq, if_neg hg]
        exact congrArg (fun t : Stream => (Poll.pending, t, ([] : List Log.Event))) hs

theorem poll_of_dropped {s : Stream} (hd : s.dropped = true) : s.poll = (.ended, s, []) := by
  simp only [poll, hd, if_true]

theorem poll_eq_ended {s : Stream} :
    s.poll.1 = .ended ↔ s.dropped = true ∨ s.receiver.finished = true := by
  by_cases hd : s.dropped = true
  · rw [poll_of_dropped hd]
    exact ⟨fun _ => Or.inl hd, fun _ => rfl⟩
  · rcases poll_cases (Bool.eq_false_iff.mpr hd) with ⟨hf, he⟩ | ⟨hf, _, _, -, he⟩ |
      ⟨hf, -, -, he⟩ | ⟨hf, -, -, he⟩
    · rw [he]
      exact ⟨fun _ => Or.inr hf, fun _ => rfl⟩
    all_goals
      rw [he, hf]
      simp [hd]

end Stream

namespace Watched

/-- All that a move of the task can be: it waits, does what the listener is not told, stops because
nobody listens, or hands an event out. -/
theorem work_cases (w : Watched) :
    (w.act .work = w ∧ w.entries .work = []) ∨
    (∃ act transfer rest, w.stream.steps = ⟨act, transfer⟩ :: rest ∧ act.event? = none ∧
      w.act .work =
        { w with
          stream :=
            { w.stream with
              steps := rest, transfer, sent := w.stream.sent ++ act.request?.toList } } ∧
      w.entries .work = act.entry?.toList) ∨
    (∃ event transfer rest, w.stream.steps = ⟨.emit event, transfer⟩ :: rest ∧
      w.stream.dropped = true ∧
      w.act .work =
        { w with stream := { w.stream with steps := [], ending := .finished, transfer } }) ∨
    (∃ event transfer rest, w.stream.steps = ⟨.emit event, transfer⟩ :: rest ∧
      w.stream.dropped = false ∧ w.stream.queue.length < w.stream.capacity ∧
      w.act .work =
        { w with
          stream :=
            { w.stream with queue := w.stream.queue ++ [event], steps := rest, transfer } } ∧
      w.entries .work = []) := by
  cases hn : w.stream.advance? with
  | none => exact Or.inl ⟨by simp only [act, hn], by simp only [entries, hn]; rfl⟩
  | some next =>
    obtain ⟨t, reports⟩ := next
    have hw : w.act .work = { w with stream := t } := by simp only [act, hn]
    have he : w.entries .work = reports := by
      simp only [entries, hn, Option.map_some, Option.getD_some]
    rw [hw, he]
    rcases Stream.advance?_cases hn with ⟨act, tr, rest, hs, hact, rfl, hr⟩ |
      ⟨event, tr, rest, hs, hd, rfl⟩ | ⟨event, tr, rest, hs, hd, hq, rfl, hr⟩
    · exact Or.inr (Or.inl ⟨act, tr, rest, hs, hact, rfl, hr⟩)
    · exact Or.inr (Or.inr (Or.inl ⟨event, tr, rest, hs, hd, rfl⟩))
    · exact Or.inr (Or.inr (Or.inr ⟨event, tr, rest, hs, hd, hq, rfl, hr⟩))

theorem act_poll_of_ended {w : Watched} (h : w.stream.poll = (.ended, w.stream, [])) :
    w.act .poll = w := by
  simp only [act, h, Poll.events, List.append_nil]

/-- A stream that has ended brings nothing under any move and stays ended. -/
theorem ended_act {w : Watched} (h : w.stream.poll.1 = .ended) (move : Move) :
    (w.act move).stream.poll.1 = .ended ∧ (w.act move).received = w.received := by
  have hover := Stream.poll_eq_ended.mp h
  cases move with
  | work =>
    -- No step touches what the listener has seen or whether it is there.
    rcases w.work_cases with ⟨he, -⟩ | ⟨_, _, _, -, -, he, -⟩ | ⟨_, _, _, -, -, he⟩ |
      ⟨_, _, _, -, -, -, he, -⟩
    all_goals
      rw [he]
      exact ⟨Stream.poll_eq_ended.mpr hover, rfl⟩
  | poll =>
    -- Whichever way the stream has ended, a poll leaves it as it is.
    have hstay : w.stream.poll = (.ended, w.stream, []) := by
      by_cases hd : w.stream.dropped = true
      · exact Stream.poll_of_dropped hd
      · have hf := hover.resolve_left hd
        rcases Stream.poll_cases (Bool.eq_false_iff.mpr hd) with ⟨-, he⟩ | ⟨hn, -⟩ | ⟨hn, -⟩ |
          ⟨hn, -⟩
        · exact he
        all_goals
          rw [hf] at hn
          cases hn
    exact (act_poll_of_ended hstay).symm ▸ ⟨h, rfl⟩
  | release => exact ⟨Stream.poll_eq_ended.mpr (Or.inl rfl), rfl⟩
  | abort =>
    unfold act
    dsimp only
    split
    · exact ⟨Stream.poll_eq_ended.mpr hover, rfl⟩
    · exact ⟨h, rfl⟩

theorem ended_run {w : Watched} (h : w.stream.poll.1 = .ended) (moves : List Move) :
    (w.run moves).stream.poll.1 = .ended ∧ (w.run moves).received = w.received := by
  refine run_of_act (P := fun v => v.stream.poll.1 = .ended ∧ v.received = w.received) ?_ ⟨h, rfl⟩
  rintro v move - ⟨hv, hsame⟩
  obtain ⟨hnext, hkept⟩ := ended_act hv move
  exact ⟨hnext, hkept.trans hsame⟩

/-- A stream that was given up brings nothing more. -/
theorem received_cancel (s : Stream) (received : List Event) (moves : List Move) :
    ((⟨s.cancel, received⟩ : Watched).run moves).received = received := by
  have hgone : (⟨s.cancel, received⟩ : Watched).stream.poll.1 = .ended :=
    Stream.poll_eq_ended.mpr (Or.inl rfl)
  exact (ended_run hgone moves).2

end Watched
end Retrieval.Fetch
