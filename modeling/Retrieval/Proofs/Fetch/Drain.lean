import Retrieval.Proofs.Fetch.InOrder

/-! Taking the events of a stream one after another, with the task running as far as it can in
between, is one of its schedules, and one that brings all events. -/
namespace Retrieval.Fetch

namespace Stream

theorem settle_of_none {s : Stream} (h : s.advance? = none) : s.settle = (s, []) := by
  rw [settle]
  split
  · rfl
  · rename_i hs
    rw [h] at hs
    cases hs

theorem settle_of_some {s t : Stream} {reports : List Log.Event}
    (h : s.advance? = some (t, reports)) : s.settle = (t.settle.1, reports ++ t.settle.2) := by
  rw [settle]
  split
  · rename_i hn
    rw [h] at hn
    cases hn
  · rename_i hs
    rw [h] at hs
    cases hs
    rfl

theorem advance?_settle (s : Stream) : s.settle.1.advance? = none := by
  induction s using settle.induct with
  | case1 s hn => rw [settle_of_none hn]; exact hn
  | case2 s t reports hs _ _ _ _ ih => rw [settle_of_some hs]; exact ih

/-- Letting a task run as far as it can is a schedule in which the listener stays. -/
theorem exists_run_settle (s : Stream) (received : List Event) :
    ∃ moves, Move.release ∉ moves ∧
      (⟨s, received⟩ : Watched).run moves = ⟨s.settle.1, received⟩ ∧
      (⟨s, received⟩ : Watched).log moves = s.settle.2 := by
  induction s using settle.induct with
  | case1 s hn => exact ⟨[], by simp, by rw [settle_of_none hn]; rfl, by rw [settle_of_none hn]; rfl⟩
  | case2 s t reports hs _ _ _ _ ih =>
    obtain ⟨moves, hm, hrun, hlog⟩ := ih
    have hw : (⟨s, received⟩ : Watched).act .work = ⟨t, received⟩ := by
      simp only [Watched.act, hs]
    have he : (⟨s, received⟩ : Watched).entries .work = reports := by
      simp only [Watched.entries, hs, Option.map_some, Option.getD_some]
    refine ⟨.work :: moves, by simpa using hm, ?_, ?_⟩
    · rw [Watched.run_cons, hw, hrun, settle_of_some hs]
    · rw [Watched.log, he, hw, hlog, settle_of_some hs]

theorem exists_run_next (s : Stream) (received : List Event) :
    ∃ moves, Move.release ∉ moves ∧
      (⟨s, received⟩ : Watched).run moves = ⟨s.next.2.1, received ++ s.next.1.events⟩ ∧
      (⟨s, received⟩ : Watched).log moves = s.next.2.2 := by
  obtain ⟨moves, hm, hrun, hlog⟩ := exists_run_settle s received
  refine ⟨moves ++ [.poll], by simpa using hm, by rw [Watched.run_append, hrun]; rfl, ?_⟩
  have hpoll : (⟨s.settle.1, received⟩ : Watched).log [.poll] = s.settle.1.poll.2.2 :=
    List.append_nil _
  rw [Watched.log_append, hrun, hlog, hpoll]
  rfl

/-- What taking comes to, by what comes next. -/
theorem take_cases (s : Stream) (limit : Nat) :
    (∃ event, s.next.1 = .item event ∧
      (s.take (limit + 1)).1 = event :: (s.next.2.1.take limit).1 ∧
      (s.take (limit + 1)).2.1 = (s.next.2.1.take limit).2.1 ∧
      (s.take (limit + 1)).2.2.1 = (s.next.2.1.take limit).2.2.1 ∧
      (s.take (limit + 1)).2.2.2 = s.next.2.2 ++ (s.next.2.1.take limit).2.2.2) ∨
    (s.next.1 = .ended ∧ (s.take (limit + 1)).1 = [] ∧ (s.take (limit + 1)).2.1 = true ∧
      (s.take (limit + 1)).2.2 = s.next.2) ∨
    (s.next.1 = .pending ∧ (s.take (limit + 1)).1 = [] ∧ (s.take (limit + 1)).2.1 = false ∧
      (s.take (limit + 1)).2.2 = s.next.2) := by
  rcases hn : s.next with ⟨result, after, reports⟩
  cases result with
  | item event => exact Or.inl ⟨event, by simp only [take, hn, and_self]⟩
  | ended => exact Or.inr (Or.inl (by simp only [take, hn, and_self]))
  | pending => exact Or.inr (Or.inr (by simp only [take, hn, and_self]))

/-- Taking events one after another is a schedule in which the listener stays. -/
theorem exists_run_take (limit : Nat) (s : Stream) (received : List Event) :
    ∃ moves, Move.release ∉ moves ∧ (⟨s, received⟩ : Watched).run moves =
        ⟨(s.take limit).2.2.1, received ++ (s.take limit).1⟩ ∧
      (⟨s, received⟩ : Watched).log moves = (s.take limit).2.2.2 := by
  induction limit generalizing s received with
  | zero => exact ⟨[], by simp, by simp [take, Watched.run], rfl⟩
  | succ limit ih =>
    obtain ⟨moves, hm, hrun, hlog⟩ := exists_run_next s received
    rcases take_cases s limit with ⟨event, hr, he, -, hs, hn⟩ | ⟨hr, he, -, hs⟩ |
      ⟨hr, he, -, hs⟩
    · obtain ⟨more, hmore, hrest, hlater⟩ := ih s.next.2.1 (received ++ [event])
      rw [hr] at hrun
      refine ⟨moves ++ more, by simp [hm, hmore], ?_, ?_⟩
      · rw [Watched.run_append, hrun, he, hs]
        simpa only [Poll.events, List.append_assoc, List.cons_append, List.nil_append] using hrest
      · rw [Watched.log_append, hrun, hlog, hn]
        exact congrArg (s.next.2.2 ++ ·) hlater
    · exact ⟨moves, hm, by rw [hrun, hr, he, hs]; rfl, by rw [hlog, hs]⟩
    · exact ⟨moves, hm, by rw [hrun, hr, he, hs]; rfl, by rw [hlog, hs]⟩

end Stream

theorem Watched.capacity_act (w : Watched) (move : Move) :
    (w.act move).stream.capacity = w.stream.capacity := by
  cases move with
  | work =>
    rcases w.work_cases with ⟨he, -⟩ | ⟨_, _, _, -, -, he, -⟩ | ⟨_, _, _, -, -, he⟩ |
      ⟨_, _, _, -, -, -, he, -⟩
    all_goals rw [he]
  | poll =>
    simp only [Watched.act, Stream.poll]
    split <;> rfl
  | release => rfl
  | abort =>
    simp only [Watched.act]
    split <;> rfl

theorem Watched.capacity_run (w : Watched) (moves : List Move) :
    (w.run moves).stream.capacity = w.stream.capacity := by
  refine run_of_act (P := fun v => v.stream.capacity = w.stream.capacity) ?_ rfl
  intro v move _ hv
  rw [capacity_act, hv]

theorem Stream.capacity_settle (s : Stream) : s.settle.1.capacity = s.capacity := by
  obtain ⟨moves, -, hrun, -⟩ := exists_run_settle s []
  simpa only [hrun] using Watched.capacity_run ⟨s, []⟩ moves

theorem Stream.capacity_next (s : Stream) : s.next.2.1.capacity = s.capacity := by
  obtain ⟨moves, -, hrun, -⟩ := exists_run_next s []
  simpa only [hrun] using Watched.capacity_run ⟨s, []⟩ moves

theorem length_emitted_le (steps : List Step) : (emitted steps).length ≤ steps.length :=
  List.length_filterMap_le _ _

/-- Each event to come is in the channel or in a step, and one may be put in at the end. -/
theorem Stream.length_upcoming_lt (s : Stream) : (s.queue ++ s.upcoming).length < s.bound := by
  have hsteps := length_emitted_le s.steps
  simp only [bound, upcoming, List.length_append]
  split <;> simp only [List.length_nil, List.length_singleton] <;> omega

variable {location : String} {c : Course} {w : Watched}

namespace Listening

theorem next (hp : c.Proper location) (h : Listening location c w) :
    Listening location c ⟨w.stream.next.2.1, w.received ++ w.stream.next.1.events⟩ := by
  obtain ⟨moves, hm, hrun, -⟩ := Stream.exists_run_next w.stream w.received
  exact hrun ▸ h.run hp hm

theorem settle (hp : c.Proper location) (h : Listening location c w) :
    Listening location c ⟨w.stream.settle.1, w.received⟩ := by
  obtain ⟨moves, hm, hrun, -⟩ := Stream.exists_run_settle w.stream w.received
  exact hrun ▸ h.run hp hm

/-- What comes next is the next event of the course. Nothing comes only where all events have been
received: the stream has ended then, or the task waits for ever. -/
theorem next_cases (hp : c.Proper location) (h : Listening location c w)
    (hr : 0 < w.stream.capacity) :
    (∃ event, w.stream.next.1 = .item event) ∨
    (w.stream.next.1 = .ended ∧ Closed w.received) ∨
    (w.stream.next.1 = .pending ∧ w.received = c.promised location ∧ c.ending = .stalled) := by
  have hs := h.settle hp
  have hcap : 0 < w.stream.settle.1.capacity := by
    rw [Stream.capacity_settle]
    exact hr
  have hnext : w.stream.next.1 = w.stream.settle.1.poll.1 := rfl
  rcases Stream.poll_cases hs.stays with ⟨hf, he⟩ | ⟨-, event, rest, -, he⟩ |
    ⟨-, -, -, he⟩ | ⟨hf, hq, hg, he⟩
  · exact Or.inr (Or.inl ⟨by rw [hnext, he], hs.finished.mp hf⟩)
  · exact Or.inl ⟨event, by rw [hnext, he]⟩
  · exact Or.inl ⟨_, by rw [hnext, he]⟩
  · -- The channel has room, so that the task has nothing left to do.
    have hsteps : w.stream.settle.1.steps = [] := by
      rcases Stream.advance?_eq_none (Stream.advance?_settle w.stream) with hsteps | hfull
      · exact hsteps
      · rw [hq, List.length_nil] at hfull
        omega
    have hstall : w.stream.settle.1.ending = .stalled := by
      simpa [Stream.taskGone, hsteps] using hg
    refine Or.inr (Or.inr ⟨by rw [hnext, he], ?_, hs.ending.symm.trans hstall⟩)
    have hup : w.stream.settle.1.upcoming = [] := by
      simp [Stream.upcoming, hsteps, hstall, emitted]
    have hacc := hs.account
    rwa [hup, hq, List.append_nil, List.append_nil] at hacc

/-- Events are taken in order and without a gap, and the stream is seen to end once all have been
taken, unless its task waits for ever. -/
theorem take_eq (hp : c.Proper location) (limit : Nat) {rest : List Event}
    (h : Listening location c w) (hr : 0 < w.stream.capacity)
    (he : c.promised location = w.received ++ rest) :
    (w.stream.take limit).1 = rest.take limit ∧
      ((w.stream.take limit).2.1 = true ↔ rest.length < limit ∧ c.ending ≠ .stalled) := by
  -- The invariant passes from each event to the next, with one event less to come.
  induction limit generalizing w rest with
  | zero => simp [Stream.take]
  | succ limit ih =>
    have hnext := h.next hp
    rcases Stream.take_cases w.stream limit with ⟨event, hev, h1, h2, -⟩ | ⟨hev, h1, h2, -⟩ |
      ⟨hev, h1, h2, -⟩
    · rw [hev] at hnext
      -- The event is the first of those that were left.
      have hall : w.received ++ rest = w.received ++ event ::
          (w.stream.next.2.1.queue ++ w.stream.next.2.1.upcoming) := by
        rw [← he, ← hnext.account]
        simp only [Poll.events, List.append_assoc, List.cons_append, List.nil_append]
      obtain rfl := List.append_cancel_left hall
      have hcap : 0 < w.stream.next.2.1.capacity := by
        rw [Stream.capacity_next]
        exact hr
      have hrest : c.promised location = (w.received ++ [event]) ++
          (w.stream.next.2.1.queue ++ w.stream.next.2.1.upcoming) := by
        rw [he, List.append_assoc, List.singleton_append]
      obtain ⟨i1, i2⟩ := ih hnext hcap hrest
      refine ⟨by rw [h1, i1, List.take_succ_cons], ?_⟩
      rw [h2, i2, List.length_cons, Nat.add_lt_add_iff_right]
    · rcases h.next_cases hp hr with ⟨event, hi⟩ | ⟨-, hc⟩ | ⟨hi, -, -⟩
      · rw [hev] at hi; cases hi
      · obtain rfl := hp.once.rest_eq_nil he hc
        have hend : c.ending ≠ .stalled := by
          rw [List.append_nil] at he
          exact hp.ends.mp (he ▸ hc)
        simp [h1, h2, hend]
      · rw [hev] at hi; cases hi
    · rcases h.next_cases hp hr with ⟨event, hi⟩ | ⟨hi, -⟩ | ⟨-, hall, hend⟩
      · rw [hev] at hi; cases hi
      · rw [hev] at hi; cases hi
      · obtain rfl : rest = [] := by
          rw [hall] at he
          exact List.append_right_eq_self.mp he.symm
        simp [h1, h2, hend]

/-- Draining reaches beyond everything that is to come. -/
theorem drain_eq (hp : c.Proper location) (h : Listening location c w)
    (hr : 0 < w.stream.capacity) :
    w.received ++ w.stream.drain.1 = c.promised location ∧
      (w.stream.drain.2.1 = true ↔ c.ending ≠ .stalled) := by
  have he : c.promised location = w.received ++ (w.stream.queue ++ w.stream.upcoming) := by
    rw [← h.account, List.append_assoc]
  have hlong := w.stream.length_upcoming_lt
  obtain ⟨h1, h2⟩ := h.take_eq hp w.stream.bound hr he
  refine ⟨?_, ?_⟩
  · rw [he]
    exact congrArg (w.received ++ ·) (h1.trans (List.take_of_length_le (Nat.le_of_lt hlong)))
  · exact h2.trans (and_iff_right hlong)

/-- Unless the task waits for ever, a listener who stays can see the stream end. -/
theorem exists_end (hp : c.Proper location) (h : Listening location c w)
    (hr : 0 < w.stream.capacity) (hs : c.ending ≠ .stalled) :
    ∃ more, Move.release ∉ more ∧ (w.run more).stream.poll.1 = .ended := by
  obtain ⟨more, hm, hrun, -⟩ := Stream.exists_run_take w.stream.bound w.stream w.received
  have hlast := h.run hp hm
  have hall : (w.run more).received = c.promised location := by
    rw [show w.run more = _ from hrun]
    exact (h.drain_eq hp hr).1
  have hclosed : Closed (w.run more).received := hall ▸ hp.ends.mpr hs
  exact ⟨more, hm, Stream.poll_eq_ended.mpr (Or.inr (hlast.finished.mpr hclosed))⟩

end Listening
end Retrieval.Fetch
