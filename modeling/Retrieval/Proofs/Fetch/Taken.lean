import Retrieval.Proofs.Fetch.Schedule

/-! The steps that the task of a stream takes under a schedule. They are the first ones of its
course, in order. As long as it is not stopped from outside, the task takes all of them, unless it
comes to an event that nobody listens to any more. -/
namespace Retrieval.Fetch

/-- One step of a task: it goes on behind it, or the step is an event that nobody takes. -/
theorem Stream.advance?_step {s next : Stream} {reports : List Log.Event}
    (h : s.advance? = some (next, reports)) :
    ∃ step rest, s.steps = step :: rest ∧ next.transfer = step.transfer ∧
      ((next.steps = rest ∧ next.ending = s.ending ∧
          (s.dropped = true → step.event? = none)) ∨
        (s.dropped = true ∧ next.steps = [] ∧ ∃ event, step.act = .emit event)) := by
  unfold advance? at h
  split at h
  · cases h
  · rename_i entry transfer rest hs
    cases h
    exact ⟨_, rest, hs, rfl, Or.inl ⟨rfl, rfl, fun _ => rfl⟩⟩
  · rename_i request target transfer rest hs
    cases h
    exact ⟨_, rest, hs, rfl, Or.inl ⟨rfl, rfl, fun _ => rfl⟩⟩
  · rename_i event transfer rest hs
    by_cases hd : s.dropped = true
    · rw [if_pos hd] at h
      cases h
      exact ⟨_, rest, hs, rfl, Or.inr ⟨hd, rfl, event, rfl⟩⟩
    · rw [if_neg hd] at h
      by_cases hq : s.queue.length < s.capacity
      · rw [if_pos hq] at h
        cases h
        exact ⟨_, rest, hs, rfl, Or.inl ⟨rfl, rfl, fun hgone => absurd hgone hd⟩⟩
      · rw [if_neg hq] at h
        cases h

namespace Watched

def step? (w : Watched) : Move → Option Step
  | .work => if w.stream.advance?.isSome then w.stream.steps.head? else none
  | _ => none

/-- The event that the task comes to in a move and that nobody is there to take. -/
def unheard? (w : Watched) : Move → Option Event
  | .work => if w.stream.dropped then w.stream.steps.head?.bind Step.event? else none
  | _ => none

def taken (w : Watched) : List Move → List Step
  | [] => []
  | move :: rest => (w.step? move).toList ++ (w.act move).taken rest

def unheard (w : Watched) : List Move → List Event
  | [] => []
  | move :: rest => (w.unheard? move).toList ++ (w.act move).unheard rest

/-- The task takes no step in a move, and comes to no event. -/
def Rests (w : Watched) (move : Move) : Prop :=
  w.step? move = none ∧ w.unheard? move = none ∧
    (w.act move).stream.transfer = w.stream.transfer

variable {w : Watched}

theorem taken_of_rests {move : Move} (h : w.Rests move) (rest : List Move) :
    w.taken (move :: rest) = (w.act move).taken rest := by
  simp only [taken, h.1, Option.toList_none, List.nil_append]

theorem unheard_of_none {move : Move} (h : w.unheard? move = none) (rest : List Move) :
    w.unheard (move :: rest) = (w.act move).unheard rest := by
  simp only [unheard, h, Option.toList_none, List.nil_append]

theorem taken_of_step {move : Move} {step : Step} (h : w.step? move = some step)
    (rest : List Move) : w.taken (move :: rest) = step :: (w.act move).taken rest := by
  simp only [taken, h, Option.toList_some, List.singleton_append]

/-- A task never waits at an event that nobody takes. -/
theorem unheard?_of_wait (h : w.stream.advance? = none) : w.unheard? .work = none := by
  unfold Stream.advance? at h
  split at h
  · rename_i hs
    simp [unheard?, hs]
  · cases h
  · cases h
  · by_cases hd : w.stream.dropped = true
    · rw [if_pos hd] at h
      cases h
    · exact if_neg hd

/-- All that a move can be for the task: it rests, it is stopped, it takes a step and goes on behind
it, or it comes to an event that nobody takes. -/
theorem act_cases (w : Watched) (move : Move) :
    (w.Rests move ∧ (w.act move).stream.steps = w.stream.steps ∧
      (w.act move).stream.ending = w.stream.ending) ∨
    (move = .abort ∧ w.Rests move ∧ (w.act move).stream.steps = []) ∨
    (∃ step rest, w.stream.steps = step :: rest ∧ w.step? move = some step ∧
      w.unheard? move = none ∧ (w.act move).stream.transfer = step.transfer ∧
      (w.act move).stream.steps = rest ∧ (w.act move).stream.ending = w.stream.ending) ∨
    (∃ event t rest, w.stream.steps = ⟨.emit event, t⟩ :: rest ∧
      w.step? move = some ⟨.emit event, t⟩ ∧ w.unheard? move = some event ∧
      (w.act move).stream.transfer = t ∧ (w.act move).stream.steps = []) := by
  cases move with
  | work =>
    cases hn : w.stream.advance? with
    | none =>
      have hsame : w.act .work = w := by simp only [act, hn]
      refine Or.inl ⟨⟨?_, unheard?_of_wait hn, by rw [hsame]⟩, by rw [hsame], by rw [hsame]⟩
      simp [step?, hn]
    | some result =>
      obtain ⟨next, reports⟩ := result
      have hw : w.act .work = { w with stream := next } := by simp only [act, hn]
      obtain ⟨step, rest, hs, ht, hgo⟩ := Stream.advance?_step hn
      have hstep : w.step? .work = some step := by simp [step?, hn, hs]
      rw [hw]
      -- The step is told or needs no telling, unless it is an event and the listener has left.
      rcases hgo with ⟨hrest, hend, hheard⟩ | ⟨hgone, hover, event, hevent⟩
      · have hnone : w.unheard? .work = none := by
          by_cases hd : w.stream.dropped = true
          · simp [unheard?, hs, hheard hd]
          · exact if_neg hd
        exact Or.inr (Or.inr (Or.inl ⟨step, rest, hs, hstep, hnone, ht, hrest, hend⟩))
      · obtain ⟨a, t⟩ := step
        cases hevent
        have hlost : w.unheard? .work = some event := by
          simp [unheard?, hgone, hs, Step.event?, Act.event?]
        exact Or.inr (Or.inr (Or.inr ⟨event, t, rest, hs, hstep, hlost, ht, hover⟩))
  | poll =>
    have hstream : w.stream.poll.2.1.transfer = w.stream.transfer ∧
        w.stream.poll.2.1.steps = w.stream.steps ∧
        w.stream.poll.2.1.ending = w.stream.ending := by
      unfold Stream.poll
      split <;> exact ⟨rfl, rfl, rfl⟩
    obtain ⟨ht, hsteps, hend⟩ := hstream
    exact Or.inl ⟨⟨rfl, rfl, ht⟩, hsteps, hend⟩
  | release => exact Or.inl ⟨⟨rfl, rfl, rfl⟩, rfl, rfl⟩
  | abort =>
    -- A task can be stopped only once its listener has left.
    by_cases hd : w.stream.dropped = true
    · have hstop : w.act .abort = { w with stream := w.stream.abort } := if_pos hd
      exact Or.inr (Or.inl ⟨rfl, ⟨rfl, rfl, by rw [hstop]; rfl⟩, by rw [hstop]; rfl⟩)
    · have hsame : w.act .abort = w := if_neg hd
      exact Or.inl ⟨⟨rfl, rfl, by rw [hsame]⟩, by rw [hsame], by rw [hsame]⟩

/-- Whatever the schedule, a task takes the first steps of its course. -/
theorem taken_begun (w : Watched) (moves : List Move) : w.taken moves <+: w.stream.steps := by
  induction moves generalizing w with
  | nil => exact List.nil_prefix
  | cons move rest ih =>
    have hrest := ih (w.act move)
    rcases w.act_cases move with ⟨hr, hsteps, -⟩ | ⟨-, hr, hover⟩ |
      ⟨step, later, hs, hstep, -, -, hlater, -⟩ | ⟨event, t, later, hs, hstep, -, -, hover⟩
    · rw [taken_of_rests hr, ← hsteps]
      exact hrest
    · rw [hover] at hrest
      rw [taken_of_rests hr, List.prefix_nil.mp hrest]
      exact List.nil_prefix
    · rw [hlater] at hrest
      rw [taken_of_step hstep, hs]
      exact (List.prefix_cons_inj step).mpr hrest
    · rw [hover] at hrest
      rw [taken_of_step hstep, hs, List.prefix_nil.mp hrest]
      exact ⟨later, rfl⟩

/-- A task without steps takes none, and comes to no event. -/
theorem run_of_idle (h : w.stream.steps = []) (moves : List Move) :
    (w.run moves).stream.steps = [] ∧ w.unheard moves = [] := by
  induction moves generalizing w with
  | nil => exact ⟨h, rfl⟩
  | cons move rest ih =>
    rw [run_cons]
    rcases w.act_cases move with ⟨hr, hsteps, -⟩ | ⟨-, hr, hover⟩ |
      ⟨step, later, hs, -⟩ | ⟨event, t, later, hs, -⟩
    · rw [unheard_of_none hr.2.1]
      exact ih (hsteps.trans h)
    · rw [unheard_of_none hr.2.1]
      exact ih hover
    · rw [h] at hs
      cases hs
    · rw [h] at hs
      cases hs

end Watched

def reached (fresh : Transfer) : List Step → Transfer
  | [] => fresh
  | step :: rest => reached step.transfer rest

@[simp] theorem reached_append (fresh : Transfer) (first second : List Step) :
    reached fresh (first ++ second) = reached (reached fresh first) second := by
  induction first generalizing fresh with
  | nil => rfl
  | cons step rest ih => exact ih step.transfer

namespace Watched

variable {w : Watched}

/-- The transfer behind a stream has come as far as the steps that its task took. -/
theorem transfer_run (w : Watched) (moves : List Move) :
    (w.run moves).stream.transfer = reached w.stream.transfer (w.taken moves) := by
  induction moves generalizing w with
  | nil => rfl
  | cons move rest ih =>
    have hrest := ih (w.act move)
    rw [run_cons, hrest]
    rcases w.act_cases move with ⟨hr, -⟩ | ⟨-, hr, -⟩ | ⟨step, -, -, hstep, -, ht, -⟩ |
      ⟨event, t, -, -, hstep, -, ht, -⟩
    · rw [taken_of_rests hr, hr.2.2]
    · rw [taken_of_rests hr, hr.2.2]
    · rw [taken_of_step hstep, ht]
      rfl
    · rw [taken_of_step hstep, ht]
      rfl

/-- A schedule in which the task hands out every event that it comes to. -/
structure Heard (w : Watched) (moves : List Move) : Prop where
  account : w.taken moves ++ (w.run moves).stream.steps = w.stream.steps
  ending : (w.run moves).stream.ending = w.stream.ending
  unheard : w.unheard moves = []

/-- A schedule in which the task comes to an event that nobody takes, and takes no step after it. -/
structure GivenUp (w : Watched) (moves : List Move) (event : Event) : Prop where
  last : ∃ front t, w.taken moves = front ++ [⟨.emit event, t⟩]
  idle : (w.run moves).stream.steps = []
  unheard : w.unheard moves = [event]

namespace Heard

theorem after_rest {move : Move} {rest : List Move} (h : (w.act move).Heard rest)
    (hr : w.Rests move) (hsteps : (w.act move).stream.steps = w.stream.steps)
    (hend : (w.act move).stream.ending = w.stream.ending) : w.Heard (move :: rest) := by
  refine ⟨?_, h.ending.trans hend, ?_⟩
  · rw [taken_of_rests hr, ← hsteps]
    exact h.account
  · rw [unheard_of_none hr.2.1]
    exact h.unheard

theorem after_step {move : Move} {rest : List Move} {step : Step} (h : (w.act move).Heard rest)
    (hs : w.stream.steps = step :: (w.act move).stream.steps) (hstep : w.step? move = some step)
    (hnone : w.unheard? move = none) (hend : (w.act move).stream.ending = w.stream.ending) :
    w.Heard (move :: rest) := by
  refine ⟨?_, h.ending.trans hend, ?_⟩
  · rw [taken_of_step hstep, hs]
    exact congrArg (step :: ·) h.account
  · rw [unheard_of_none hnone]
    exact h.unheard

end Heard

namespace GivenUp

variable {event : Event}

theorem after_rest {move : Move} {rest : List Move} (h : (w.act move).GivenUp rest event)
    (hr : w.Rests move) : w.GivenUp (move :: rest) event := by
  refine ⟨?_, h.idle, ?_⟩
  · rw [taken_of_rests hr]
    exact h.last
  · rw [unheard_of_none hr.2.1]
    exact h.unheard

theorem after_step {move : Move} {rest : List Move} {step : Step}
    (h : (w.act move).GivenUp rest event) (hstep : w.step? move = some step)
    (hnone : w.unheard? move = none) : w.GivenUp (move :: rest) event := by
  obtain ⟨front, t, hlast⟩ := h.last
  refine ⟨⟨step :: front, t, ?_⟩, h.idle, ?_⟩
  · rw [taken_of_step hstep, hlast]
    rfl
  · rw [unheard_of_none hnone]
    exact h.unheard

/-- Behind an event that nobody takes nothing is left to do. -/
theorem at_event {move : Move} {t : Transfer} (hstep : w.step? move = some ⟨.emit event, t⟩)
    (hlost : w.unheard? move = some event) (hidle : (w.act move).stream.steps = [])
    (rest : List Move) : w.GivenUp (move :: rest) event := by
  obtain ⟨hdone, hquiet⟩ := run_of_idle hidle rest
  have hno : (w.act move).taken rest = [] := by
    have hbegun := (w.act move).taken_begun rest
    rw [hidle] at hbegun
    exact List.prefix_nil.mp hbegun
  refine ⟨⟨[], t, ?_⟩, hdone, ?_⟩
  · rw [taken_of_step hstep, hno]
    rfl
  · simp only [Watched.unheard, hlost, hquiet, Option.toList_some, List.append_nil]

end GivenUp

/-- A task that is not stopped from outside goes on until it has nothing left to do, or until it
comes to an event that nobody takes. -/
theorem heard_or_givenUp (w : Watched) {moves : List Move} (hm : Move.abort ∉ moves) :
    w.Heard moves ∨ ∃ event, w.GivenUp moves event := by
  induction moves generalizing w with
  | nil => exact Or.inl ⟨rfl, rfl, rfl⟩
  | cons move rest ih =>
    rw [List.mem_cons, not_or] at hm
    have hrest := ih (w.act move) hm.2
    rcases w.act_cases move with ⟨hr, hsteps, hend⟩ | ⟨habort, -⟩ |
      ⟨step, later, hs, hstep, hnone, -, hlater, hend⟩ |
      ⟨event, t, later, -, hstep, hlost, -, hidle⟩
    · rcases hrest with h | ⟨event, h⟩
      · exact Or.inl (h.after_rest hr hsteps hend)
      · exact Or.inr ⟨event, h.after_rest hr⟩
    · exact absurd habort.symm hm.1
    · rcases hrest with h | ⟨event, h⟩
      · exact Or.inl (h.after_step (hlater ▸ hs) hstep hnone hend)
      · exact Or.inr ⟨event, h.after_step hstep hnone⟩
    · exact Or.inr ⟨event, GivenUp.at_event hstep hlost hidle rest⟩

end Watched
end Retrieval.Fetch
