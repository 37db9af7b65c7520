import Mathlib.Algebra.GroupWithZero.Nat
import Retrieval.Proofs.Transfer.Language

/-! The counters of a transfer after any operations. They depend on the accepted ones alone: on the
bytes that data brought and on the length that headers announced. -/
namespace Retrieval.Transfer

namespace Operation

def size : Operation → Nat
  | data len => len
  | _ => 0

def length? : Operation → Option Nat
  | headers total => some total
  | _ => none

end Operation

def brought (ops : List Operation) : Nat := (ops.map Operation.size).sum

def announced? (ops : List Operation) : Option Nat := ops.findSome? Operation.length?

/-- The length that is expected once so many bytes have come: none if none was announced, and
otherwise the announced one or, where that is overtaken, what has come. -/
def expected (announced : Option Nat) (come : Nat) : Nat :=
  match announced with
  | none => 0
  | some total => if total = 0 then 0 else max total come

theorem brought_append (first second : List Operation) :
    brought (first ++ second) = brought first + brought second := by
  simp only [brought, List.map_append, List.sum_append]

theorem announced?_append (first second : List Operation) :
    announced? (first ++ second) = (announced? first).or (announced? second) :=
  List.findSome?_append

theorem expected_zero_or_le (announced : Option Nat) (come : Nat) :
    expected announced come = 0 ∨ come ≤ expected announced come := by
  unfold expected
  split
  · exact Or.inl rfl
  · split <;> omega

/-- More bytes never lower what is expected, and neither does a length that comes late. -/
theorem expected_mono (announced late : Option Nat) {come more : Nat} (h : come ≤ more) :
    expected announced come ≤ expected (announced.or late) more := by
  cases announced with
  | none => exact Nat.zero_le _
  | some total =>
    simp only [expected, Option.some_or]
    split <;> omega

/-- Once a length is announced, data move what is expected as they move the counters. -/
theorem total_add (announced : Option Nat) (come len : Nat) :
    (Progress.add ⟨come, expected announced come⟩ len).total = expected announced (come + len) := by
  cases announced with
  | none => rfl
  | some total =>
    simp only [Progress.add, expected]
    -- The length follows the bytes just where they overtake it.
    by_cases hz : total = 0
    · simp only [if_pos hz]
      rfl
    · simp only [if_neg hz]
      split <;> omega

structure Tallied (mode : Delivery) (accepted : List Operation) (t : Transfer) : Prop where
  mode : t.mode = mode
  loaded : t.progress.loaded = brought accepted
  total : t.progress.total = expected (announced? accepted) (brought accepted)
  /-- Before the headers nothing has been announced and nothing has come. -/
  early : t.phase = .idle ∨ t.phase = .opened → announced? accepted = none ∧ brought accepted = 0

variable {mode : Delivery} {accepted : List Operation} {t : Transfer} {op : Operation}

namespace Tallied

theorem progress (h : Tallied mode accepted t) :
    t.progress = ⟨brought accepted, expected (announced? accepted) (brought accepted)⟩ := by
  rw [← h.total, ← h.loaded]

/-- An operation that neither brings nor announces anything leaves the counters alone. -/
theorem quiet (h : Tallied mode accepted t) (hs : op.size = 0) (hl : op.length? = none)
    {next : Transfer} (hm : next.mode = t.mode) (hp : next.progress = t.progress)
    (he : next.phase = .idle ∨ next.phase = .opened → t.phase = .idle ∨ t.phase = .opened) :
    Tallied mode (accepted ++ [op]) next := by
  have hb : brought (accepted ++ [op]) = brought accepted := by
    rw [brought_append]
    simp only [brought, List.map_cons, List.map_nil, List.sum_cons, List.sum_nil, hs, Nat.add_zero]
  have ha : announced? (accepted ++ [op]) = announced? accepted := by
    rw [announced?_append]
    simp only [announced?, List.findSome?_cons, hl, List.findSome?_nil, Option.or_none]
  refine ⟨hm.trans h.mode, ?_, ?_, ?_⟩
  · rw [hp, hb, h.loaded]
  · rw [hp, hb, ha, h.total]
  · intro hn
    rw [hb, ha]
    exact h.early (he hn)

/-- Each accepted operation keeps the account. -/
theorem perform (h : Tallied mode accepted t) (hop : op.accepted t.phase = true) :
    Tallied mode (accepted ++ [op]) (t.perform op) := by
  rcases accepted_cases hop with ⟨rfl, hp⟩ | ⟨total, rfl, hp⟩ | ⟨len, rfl, -⟩ | ⟨rfl, -⟩ | ⟨rfl, -⟩
  · exact h.quiet rfl rfl rfl rfl fun _ => Or.inl hp
  · -- The headers come first of all, so that the length they announce is the one that counts.
    obtain ⟨hnone, hzero⟩ := h.early (Or.inr hp)
    have hb : brought (accepted ++ [.headers total]) = 0 := by
      rw [brought_append, hzero]
      rfl
    have ha : announced? (accepted ++ [.headers total]) = some total := by
      rw [announced?_append, hnone]
      rfl
    refine ⟨h.mode, ?_, ?_, ?_⟩
    · rw [hb]
      exact h.loaded.trans hzero
    · rw [hb, ha]
      simp only [Transfer.perform, expected]
      split <;> omega
    · rintro (hn | hn) <;> cases hn
  · -- Data raise the loaded bytes, and the total with them once they overtake it.
    have hb : brought (accepted ++ [.data len]) = brought accepted + len := by
      rw [brought_append]
      rfl
    have ha : announced? (accepted ++ [.data len]) = announced? accepted := by
      rw [announced?_append]
      exact Option.or_none
    have hprogress : (t.perform (.data len)).progress = t.progress.add len := rfl
    refine ⟨h.mode, ?_, ?_, ?_⟩
    · rw [hprogress, hb, ← h.loaded]
      rfl
    · rw [hprogress, hb, ha, h.progress]
      exact total_add _ _ _
    · rintro (hn | hn) <;> cases hn
  · exact h.quiet rfl rfl rfl rfl fun hn => by rcases hn with hn | hn <;> cases hn
  · exact h.quiet rfl rfl rfl rfl fun hn => by rcases hn with hn | hn <;> cases hn

theorem run (h : Tallied mode accepted t) (ops : List Operation) :
    Tallied mode (accepted ++ t.kept ops) (t.run ops) := by
  -- A rejected operation leaves both the transfer and the list of accepted ones as they are.
  induction ops generalizing t accepted with
  | nil =>
    rw [show t.kept [] = [] from rfl, List.append_nil]
    exact h
  | cons op rest ih =>
    rw [run_cons]
    rcases apply_cases t op with ⟨hop, -, hs⟩ | ⟨hop, -, hs⟩
    · have hrest := ih (h.perform hop)
      rw [List.append_assoc, List.singleton_append] at hrest
      rw [kept_cons_of_accepted hop, hs]
      exact hrest
    · rw [kept_cons_of_rejected hop, hs]
      exact ih h

end Tallied

theorem tallied_run (mode : Delivery) (ops : List Operation) :
    Tallied mode (({ mode } : Transfer).kept ops) (({ mode } : Transfer).run ops) := by
  have hfresh : Tallied mode [] ({ mode } : Transfer) := ⟨rfl, rfl, rfl, fun _ => ⟨rfl, rfl⟩⟩
  exact hfresh.run ops

/-- No counter grows beyond what has come and what was announced, so that sixty-four bits hold it if
they hold these. -/
theorem counters_fit (mode : Delivery) (ops : List Operation) {bound : Nat}
    (hb : brought (({ mode } : Transfer).kept ops) < bound)
    (ha : ∀ total, announced? (({ mode } : Transfer).kept ops) = some total → total < bound) :
    (({ mode } : Transfer).run ops).progress.loaded < bound ∧
      (({ mode } : Transfer).run ops).progress.total < bound := by
  have h := tallied_run mode ops
  rw [h.loaded, h.total]
  refine ⟨hb, ?_⟩
  unfold expected
  split
  · omega
  · rename_i total hs
    have := ha total hs
    split <;> omega

/-- The counters after any operations, said of the accepted ones. They never go down, data are
answered with the counters they lead to, and the end of a life fixes them. -/
theorem counters_of_every_run (mode : Delivery) (ops : List Operation) :
    let fresh : Transfer := { mode }
    let now := fresh.run ops
    now.mode = mode ∧
    now.progress.loaded = brought (fresh.kept ops) ∧
    now.progress.total =
      (match announced? (fresh.kept ops) with
        | none => 0
        | some total => if total = 0 then 0 else max total now.progress.loaded) ∧
    (now.progress.total = 0 ∨ now.progress.loaded ≤ now.progress.total) ∧
    (∀ more, now.progress.loaded ≤ (fresh.run (ops ++ more)).progress.loaded ∧
      now.progress.total ≤ (fresh.run (ops ++ more)).progress.total) ∧
    (∀ len next, now.apply (.data len) = .ok next →
      fresh.run (ops ++ [.data len]) = next ∧
        now.answer (.data len) = .ok (some next.progress)) ∧
    (now.phase.isTerminal = true → ∀ more,
      (fresh.run (ops ++ more)).progress = now.progress) := by
  intro fresh now
  have h : Tallied mode (fresh.kept ops) now := tallied_run mode ops
  refine ⟨h.mode, h.loaded, ?_, ?_, ?_, ?_, ?_⟩
  · rw [h.loaded]
    exact h.total
  · rw [h.loaded, h.total]
    exact expected_zero_or_le _ _
  · -- More operations only lengthen the list of those accepted.
    intro more
    have hmore := tallied_run mode (ops ++ more)
    have hk : fresh.kept (ops ++ more) = fresh.kept ops ++ now.kept more := kept_append _ _ _
    have hle : brought (fresh.kept ops) ≤ brought (fresh.kept (ops ++ more)) := by
      rw [hk, brought_append]
      omega
    rw [h.loaded, h.total, hmore.loaded, hmore.total]
    refine ⟨hle, ?_⟩
    have ha := announced?_append (fresh.kept ops) (now.kept more)
    rw [← hk] at ha
    rw [ha]
    exact expected_mono _ _ hle
  · -- The data are accepted, so the next operation leads where applying them does.
    intro len next hnext
    rcases apply_cases now (.data len) with ⟨hop, ha, hs⟩ | ⟨-, ha, -⟩
    · rw [ha] at hnext
      cases hnext
      refine ⟨?_, ?_⟩
      · rw [run_append, run_cons]
        exact hs
      · simp only [answer, hop, if_true]
        rfl
    · rw [ha] at hnext
      cases hnext
  · intro hover more
    rw [run_append, run_of_terminal hover]

/-- An announced length is overtaken by the data, and data that are rejected do not count. -/
theorem counters_of_every_run_overtaken :
    let fresh : Transfer := { mode := .progressive }
    let now := fresh.run [.data 9, .start, .headers 3, .data 2, .start, .data 0, .data 2]
    now.progress = ⟨4, 4⟩ ∧ (now.progress.total = 0 ∨ now.progress.loaded ≤ now.progress.total) ∧
      now.answer (.data 5) = .ok (some ⟨9, 9⟩) ∧
      now.progress.loaded ≤ (now.run [.finish, .data 5]).progress.loaded := by
  intro fresh now
  obtain ⟨-, -, -, hle, hup, hdata, -⟩ := counters_of_every_run .progressive
    [.data 9, .start, .headers 3, .data 2, .start, .data 0, .data 2]
  exact ⟨rfl, hle, (hdata 5 _ rfl).2, (hup [.finish, .data 5]).1⟩

end Retrieval.Transfer
