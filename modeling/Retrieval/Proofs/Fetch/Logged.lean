import Retrieval.Proofs.Fetch.Drain
import Retrieval.Proofs.Fetch.Operations

/-! Warnings and errors under every schedule. What has been logged and what is still to be logged
make up one list as long as the listener stays, and of that list nothing serious is left when the
last event has been received. -/
namespace Retrieval.Fetch

def alarms (entries : List Log.Event) : List Log.Event :=
  entries.filter fun entry => entry.level = .warn ∨ entry.level = .error

@[simp] theorem alarms_append (first second : List Log.Event) :
    alarms (first ++ second) = alarms first ++ alarms second := List.filter_append ..

theorem noted_cons (act : Act) (t : Transfer) (rest : List Step) :
    noted (⟨act, t⟩ :: rest) = act.entry?.toList ++ noted rest := by
  cases act <;> rfl

def Stream.unlogged (s : Stream) : List Log.Event :=
  noted s.steps ++
    if s.ending = .crashed ∧ s.receiver.finished = false then [abortReport s.receiver.location]
    else []

/-- Behind the last event of a course nothing serious is noted. -/
def Course.Discreet (c : Course) : Prop :=
  c.ending = .finished → ∀ rest, rest <:+ c.steps → emitted rest = [] → alarms (noted rest) = []

/-- What holds of a stream as long as its listener stays: an account of its events, and of the steps
that its task has still to do. -/
structure Followed (location : String) (c : Course) (w : Watched) : Prop where
  listening : Listening location c w
  left : w.stream.steps <:+ c.steps
  /-- A task that broke down is found gone only when it has done all its steps. -/
  spent : w.stream.receiver.finished = true → c.ending = .crashed → w.stream.steps = []

structure Silent (w : Watched) : Prop where
  gone : w.stream.dropped = true
  heard : emitted w.stream.steps = []
  calm : alarms (noted w.stream.steps) = []

variable {location : String} {c : Course} {w : Watched}

/-- A task that breaks down leaves the last word to the receiver. -/
theorem Listening.not_terminal_of_crashed (hp : c.Proper location) (h : Listening location c w)
    (hf : w.stream.receiver.finished = false) (hc : w.stream.ending = .crashed) {event : Event}
    {rest : List Event} (hq : w.stream.queue = event :: rest) : event.isTerminal = false := by
  apply Bool.eq_false_iff.mpr
  intro ht
  have hall : c.promised location = (w.received ++ [event]) ++ (rest ++ w.stream.upcoming) := by
    rw [← h.account, hq]
    simp only [List.append_assoc, List.cons_append, List.nil_append]
  have hclosed : Closed (w.received ++ [event]) := ⟨event, by simp, ht⟩
  -- The error that stands for the breakdown is still to come.
  have hnone := (List.append_eq_nil_iff.mp (hp.once.rest_eq_nil hall hclosed)).2
  simp [Stream.upcoming, hf, hc] at hnone

namespace Followed

/-- A task that goes on leaves less to do. -/
theorem onward (h : Followed location c w) {v : Watched} (hv : Listening location c v)
    (hs : v.stream.steps <:+ w.stream.steps) (hf : v.stream.receiver = w.stream.receiver) :
    Followed location c v where
  listening := hv
  left := hs.trans h.left
  spent := by
    rw [hf]
    intro hover hc
    exact List.suffix_nil.mp (h.spent hover hc ▸ hs)

theorem work (h : Followed location c w) :
    Followed location c (w.act .work) ∧
      w.entries .work ++ (w.act .work).stream.unlogged = w.stream.unlogged := by
  have hnext := h.listening.work
  rcases w.work_cases with ⟨he, hn⟩ | ⟨act, tr, rest, hs, -, he, hn⟩ | ⟨_, _, _, -, hd, -⟩ |
    ⟨event, tr, rest, hs, -, -, he, hn⟩
  · rw [he, hn]
    exact ⟨h, rfl⟩
  · rw [he] at hnext
    rw [he, hn]
    refine ⟨h.onward hnext (hs ▸ List.suffix_cons _ _) rfl, ?_⟩
    simp only [Stream.unlogged, hs, noted_cons, List.append_assoc]
  · exact absurd hd (by rw [h.listening.stays]; decide)
  · rw [he] at hnext
    rw [he, hn]
    refine ⟨h.onward hnext (hs ▸ List.suffix_cons _ _) rfl, ?_⟩
    simp only [Stream.unlogged, hs]
    rfl

theorem poll (hp : c.Proper location) (h : Followed location c w) :
    Followed location c (w.act .poll) ∧
      w.entries .poll ++ (w.act .poll).stream.unlogged = w.stream.unlogged := by
  have hnext := h.listening.poll hp
  rcases Stream.poll_cases h.listening.stays with ⟨-, he⟩ | ⟨hf, event, rest, hq, he⟩ |
    ⟨hf, hq, hg, he⟩ | ⟨-, -, -, he⟩
  · rw [Watched.act_poll_of_ended he, Watched.entries, he]
    exact ⟨h, rfl⟩
  · simp only [Watched.act, he] at hnext
    simp only [Watched.act, Watched.entries, he, List.nil_append]
    by_cases hc : w.stream.ending = .crashed
    · -- The event is not the last one, so the receiver's own error is still to come.
      have ht := h.listening.not_terminal_of_crashed hp hf hc hq
      refine ⟨⟨hnext, h.left, ?_⟩, ?_⟩
      · intro hover _
        rw [ht] at hover
        cases hover
      · simp only [Stream.unlogged, ht, hf]
    · refine ⟨⟨hnext, h.left, ?_⟩, ?_⟩
      · intro _ hcrash
        exact absurd (h.listening.ending.trans hcrash) hc
      · simp only [Stream.unlogged, hc, false_and]
  · -- The task is gone without a last word, and the receiver says so.
    obtain ⟨hsteps, hcrash⟩ := h.listening.crashed_of_gone hp hf hq hg
    simp only [Watched.act, he] at hnext
    simp only [Watched.act, Watched.entries, he]
    refine ⟨⟨hnext, h.left, fun _ _ => hsteps⟩, ?_⟩
    simp [Stream.unlogged, hsteps, hcrash, hf, noted]
  · simp only [Watched.act, Watched.entries, he, Poll.events, List.append_nil, List.nil_append]
    exact ⟨h, trivial⟩

/-- A move of a listener who stays only takes diagnostics from those that are to come. -/
theorem act (hp : c.Proper location) (h : Followed location c w) {move : Move}
    (hm : move ≠ .release) :
    Followed location c (w.act move) ∧
      w.entries move ++ (w.act move).stream.unlogged = w.stream.unlogged := by
  cases move with
  | work => exact h.work
  | poll => exact h.poll hp
  | release => exact absurd rfl hm
  | abort =>
    have hstay : w.act .abort = w := if_neg (by rw [h.listening.stays]; decide)
    rw [hstay]
    exact ⟨h, rfl⟩

/-- Behind the last event there is nothing to hand out and nothing serious to note. -/
theorem calm (hp : c.Proper location) (hd : c.Discreet) (h : Followed location c w)
    (hc : Closed w.received) :
    emitted w.stream.steps = [] ∧ alarms (noted w.stream.steps) = [] ∧
      w.stream.unlogged = noted w.stream.steps := by
  have hf := h.listening.finished.mpr hc
  have hall := h.listening.received_eq hp hc
  have hnone : w.stream.upcoming = [] := by
    have hacc := h.listening.account
    rw [hall, List.append_assoc] at hacc
    exact (List.append_eq_nil_iff.mp (List.append_right_eq_self.mp hacc)).2
  have hsteps : emitted w.stream.steps = [] := (List.append_eq_nil_iff.mp hnone).1
  -- A task that goes on for ever has no last event.
  have hgoes : c.ending ≠ .stalled := hp.ends.mp (hall ▸ hc)
  refine ⟨hsteps, ?_, by simp [Stream.unlogged, hf]⟩
  cases hend : c.ending with
  | finished => exact hd hend _ h.left hsteps
  | crashed =>
    rw [h.spent hf hend]
    rfl
  | stalled => exact absurd hend hgoes

theorem release (hp : c.Proper location) (hd : c.Discreet) (h : Followed location c w)
    (hc : Closed w.received) : Silent (w.act .release) :=
  have hcalm := h.calm hp hd hc
  ⟨rfl, hcalm.1, hcalm.2.1⟩

end Followed

/-- A task whose listener has gone behind the last event warns of nothing more. -/
theorem Silent.act (h : Silent w) (move : Move) :
    Silent (w.act move) ∧ alarms (w.entries move) = [] := by
  cases move with
  | work =>
    -- Of the steps that are left all are notes.
    rcases w.work_cases with ⟨he, hn⟩ | ⟨act, tr, rest, hs, hact, he, hn⟩ |
      ⟨event, tr, rest, hs, -⟩ | ⟨event, tr, rest, hs, -⟩
    · rw [he, hn]
      exact ⟨h, rfl⟩
    · have hheard : emitted w.stream.steps = emitted rest := by
        rw [hs]
        exact List.filterMap_cons_none hact
      have hcalm := h.calm
      rw [hs, noted_cons, alarms_append, List.append_eq_nil_iff] at hcalm
      rw [he, hn]
      exact ⟨⟨h.gone, hheard ▸ h.heard, hcalm.2⟩, hcalm.1⟩
    all_goals
      have hheard := h.heard
      rw [hs] at hheard
      cases hheard
  | poll =>
    have hended := Stream.poll_of_dropped h.gone
    rw [Watched.act_poll_of_ended hended, Watched.entries, hended]
    exact ⟨h, rfl⟩
  | release => exact ⟨⟨rfl, h.heard, h.calm⟩, rfl⟩
  | abort =>
    have hstop : w.act .abort = { w with stream := w.stream.abort } := if_pos h.gone
    rw [hstop]
    exact ⟨⟨h.gone, rfl, rfl⟩, rfl⟩

theorem Silent.log (h : Silent w) (moves : List Move) : alarms (w.log moves) = [] := by
  induction moves generalizing w with
  | nil => rfl
  | cons move rest ih =>
    obtain ⟨hnext, hnone⟩ := h.act move
    rw [Watched.log, alarms_append, hnone, ih hnext]
    rfl

/-- Under a schedule that brings the last event, all warnings and errors of a stream are logged,
each of them once. -/
theorem Followed.alarms_log (hp : c.Proper location) (hd : c.Discreet) (h : Followed location c w)
    (moves : List Move) (hc : Closed (w.run moves).received) :
    alarms (w.log moves) = alarms w.stream.unlogged := by
  -- Up to the move at which the listener leaves, each move takes what it logs from what is to come.
  induction moves generalizing w with
  | nil =>
    obtain ⟨-, hcalm, hrest⟩ := h.calm hp hd hc
    rw [hrest, hcalm]
    rfl
  | cons move rest ih =>
    by_cases hm : move = .release
    · subst hm
      -- Whoever leaves receives nothing more, so the last event was there before.
      have hsame := (h.listening.release hp).received_run rest
      have hbefore : Closed w.received := by
        rw [Watched.run_cons, hsame] at hc
        exact hc
      obtain ⟨-, hcalm, hrest⟩ := h.calm hp hd hbefore
      rw [hrest, hcalm]
      exact (h.release hp hd hbefore).log rest
    · obtain ⟨hnext, htaken⟩ := h.act hp hm
      rw [Watched.log, ← htaken, alarms_append, alarms_append, ih hnext hc]

namespace Followed

theorem run (hp : c.Proper location) (h : Followed location c w) {moves : List Move}
    (hm : Move.release ∉ moves) :
    Followed location c (w.run moves) ∧
      w.log moves ++ (w.run moves).stream.unlogged = w.stream.unlogged := by
  induction moves generalizing w with
  | nil => exact ⟨h, rfl⟩
  | cons move rest ih =>
    rw [List.mem_cons, not_or] at hm
    obtain ⟨hnext, htaken⟩ := h.act hp (Ne.symm hm.1)
    obtain ⟨hlast, hrest⟩ := ih hnext hm.2
    refine ⟨hlast, ?_⟩
    rw [Watched.log, Watched.run_cons, List.append_assoc, hrest, htaken]

theorem next (hp : c.Proper location) (h : Followed location c w) :
    Followed location c ⟨w.stream.next.2.1, w.received ++ w.stream.next.1.events⟩ ∧
      w.stream.next.2.2 ++ w.stream.next.2.1.unlogged = w.stream.unlogged := by
  obtain ⟨moves, hm, hrun, hlog⟩ := w.stream.exists_run_next w.received
  have hw : (⟨w.stream, w.received⟩ : Watched) = w := rfl
  rw [hw] at hrun hlog
  have hlast := h.run hp hm
  rwa [hrun, hlog] at hlast

/-- A task that has come to rest with nothing in its channel has noted all that there is to note. -/
theorem unlogged_of_rest (hp : c.Proper location) (hd : c.Discreet) (h : Followed location c w)
    (hr : 0 < w.stream.capacity) (hrest : w.stream.next.1.events = []) :
    w.stream.next.2.1.unlogged = [] := by
  obtain ⟨moves, hm, hrun, -⟩ := w.stream.exists_run_settle w.received
  have hs : Followed location c ⟨w.stream.settle.1, w.received⟩ := hrun ▸ (h.run hp hm).1
  have hcap : 0 < w.stream.settle.1.capacity := by
    rw [Stream.capacity_settle]
    exact hr
  have hnext : w.stream.next.1 = w.stream.settle.1.poll.1 ∧
      w.stream.next.2.1 = w.stream.settle.1.poll.2.1 := ⟨rfl, rfl⟩
  -- With room in the channel only a task without steps waits.
  have hidle (hq : w.stream.settle.1.queue = []) : w.stream.settle.1.steps = [] := by
    rcases Stream.advance?_eq_none (Stream.advance?_settle w.stream) with hsteps | hfull
    · exact hsteps
    · rw [hq, List.length_nil] at hfull
      omega
  rw [hnext.1] at hrest
  rw [hnext.2]
  rcases Stream.poll_cases hs.listening.stays with ⟨hf, he⟩ | ⟨-, event, rest, -, he⟩ |
    ⟨-, -, -, he⟩ | ⟨-, hq, hg, he⟩
  · have hc := hs.listening.finished.mp hf
    have hall := hs.listening.received_eq hp hc
    have hq : w.stream.settle.1.queue = [] := by
      have hacc := hs.listening.account
      rw [hall, List.append_assoc] at hacc
      exact (List.append_eq_nil_iff.mp (List.append_right_eq_self.mp hacc)).1
    rw [he, (hs.calm hp hd hc).2.2, hidle hq]
    rfl
  · rw [he] at hrest
    cases hrest
  · rw [he] at hrest
    cases hrest
  · have hsteps := hidle hq
    have hstall : w.stream.settle.1.ending = .stalled := by
      simpa [Stream.taskGone, hsteps] using hg
    rw [he]
    simp [Stream.unlogged, hsteps, hstall, noted]

/-- Taking more events than are to come logs all that there is to log. -/
theorem log_take (hp : c.Proper location) (hd : c.Discreet) {limit : Nat}
    (h : Followed location c w) (hr : 0 < w.stream.capacity)
    (hlong : (w.stream.queue ++ w.stream.upcoming).length < limit) :
    (w.stream.take limit).2.2.2 = w.stream.unlogged := by
  -- With each event that is taken one less is to come, and what was logged on the way is paid off.
  induction limit generalizing w with
  | zero => omega
  | succ limit ih =>
    obtain ⟨hnext, hpaid⟩ := h.next hp
    have hover (hrest : w.stream.next.1.events = []) : w.stream.next.2.2 = w.stream.unlogged := by
      rw [← hpaid, h.unlogged_of_rest hp hd hr hrest, List.append_nil]
    rcases w.stream.take_cases limit with ⟨event, hev, -, -, -, hlog⟩ | ⟨hev, -, -, hlast⟩ |
      ⟨hev, -, -, hlast⟩
    · have hcap : 0 < w.stream.next.2.1.capacity := by
        rw [Stream.capacity_next]
        exact hr
      have hless : (w.stream.next.2.1.queue ++ w.stream.next.2.1.upcoming).length < limit := by
        have hbefore := congrArg List.length h.listening.account
        have hafter := congrArg List.length hnext.listening.account
        rw [hev] at hafter
        simp only [Poll.events, List.length_append, List.length_singleton] at hbefore hafter hlong ⊢
        omega
      rw [hlog, ih hnext hcap hless]
      exact hpaid
    · rw [hlast]
      exact hover (by rw [hev]; rfl)
    · rw [hlast]
      exact hover (by rw [hev]; rfl)

/-- Reading a stream to its end logs all that there is to log. -/
theorem log_drain (hp : c.Proper location) (hd : c.Discreet) (h : Followed location c w)
    (hr : 0 < w.stream.capacity) : w.stream.drain.2.2.2 = w.stream.unlogged :=
  h.log_take hp hd hr w.stream.length_upcoming_lt

end Followed

theorem followed_ofCourse (hl : Listening location c w) (hs : w.stream.steps = c.steps)
    (hf : w.stream.receiver.finished = false) : Followed location c w where
  listening := hl
  left := hs ▸ List.suffix_rfl
  spent := by
    intro h
    rw [hf] at h
    cases h

end Retrieval.Fetch
