import Retrieval.Proofs.Fetch.Guarded

/-! The lists of operations that a transfer accepts. They are the beginnings of a life, which a
failure may break off. Of any other list the accepted operations make such a list, and the
rejected ones leave nothing behind. -/
namespace Retrieval.Transfer

def run (t : Transfer) (ops : List Operation) : Transfer := ops.foldl step t

def Accepts (t : Transfer) : List Operation → Prop
  | [] => True
  | op :: rest => ∃ next, t.apply op = .ok next ∧ next.Accepts rest

def kept (t : Transfer) : List Operation → List Operation
  | [] => []
  | op :: rest =>
    match t.apply op with
    | .ok next => op :: next.kept rest
    | .error _ => t.kept rest

/-- A life that no failure breaks off. -/
def life (total : Nat) (sizes : List Nat) : List Operation :=
  .start :: .headers total :: (sizes.map .data ++ [.finish])

/-- The beginning of a life, or one that has not come to its end and a failure behind it. -/
def Regular (ops : List Operation) : Prop :=
  (∃ total sizes, ops <+: life total sizes) ∨
    ∃ total sizes begun, begun <+: life total sizes ∧ .finish ∉ begun ∧ ops = begun ++ [.fail]

variable {t : Transfer} {op : Operation}

/-- An operation is accepted and performed, or it is rejected and nothing changes. -/
theorem apply_cases (t : Transfer) (op : Operation) :
    (op.accepted t.phase = true ∧ t.apply op = .ok (t.perform op) ∧ t.step op = t.perform op) ∨
    (op.accepted t.phase = false ∧ t.apply op = .error ⟨t.phase, op.name⟩ ∧ t.step op = t) := by
  by_cases h : op.accepted t.phase = true
  · have ha : t.apply op = .ok (t.perform op) := apply_of_accepted h
    exact Or.inl ⟨h, ha, by simp only [step, ha]⟩
  · have ha : t.apply op = .error ⟨t.phase, op.name⟩ := if_neg h
    exact Or.inr ⟨Bool.eq_false_iff.mpr h, ha, by simp only [step, ha]⟩

/-- Which operations are accepted, and in which phases. -/
theorem accepted_cases (h : op.accepted t.phase = true) :
    (op = .start ∧ t.phase = .idle) ∨
    (∃ total, op = .headers total ∧ t.phase = .opened) ∨
    (∃ len, op = .data len ∧ t.Receiving) ∨
    (op = .finish ∧ t.Receiving) ∨
    (op = .fail ∧ t.phase.isTerminal = false) := by
  unfold Receiving
  cases hp : t.phase <;> cases op <;> simp [hp, Operation.accepted, Phase.isTerminal] at h ⊢

theorem accepted_of_terminal (h : t.phase.isTerminal = true) (op : Operation) :
    op.accepted t.phase = false := by
  cases hp : t.phase <;> simp [hp, Phase.isTerminal] at h <;> cases op <;> rfl

theorem step_of_accepted (h : op.accepted t.phase = true) : t.step op = t.perform op := by
  rcases apply_cases t op with ⟨-, -, hs⟩ | ⟨hr, -, -⟩
  · exact hs
  · rw [h] at hr
    cases hr

theorem step_of_apply {next : Transfer} (h : t.apply op = .ok next) : t.step op = next := by
  simp only [step, h]

theorem run_cons (t : Transfer) (op : Operation) (rest : List Operation) :
    t.run (op :: rest) = (t.step op).run rest := rfl

theorem run_append (t : Transfer) (first second : List Operation) :
    t.run (first ++ second) = (t.run first).run second := List.foldl_append

theorem accepts_cons {rest : List Operation} :
    t.Accepts (op :: rest) ↔ op.accepted t.phase = true ∧ (t.perform op).Accepts rest := by
  constructor
  · rintro ⟨next, ha, hrest⟩
    rcases apply_cases t op with ⟨h, ha', -⟩ | ⟨-, ha', -⟩
    · rw [ha'] at ha
      cases ha
      exact ⟨h, hrest⟩
    · rw [ha'] at ha
      cases ha
  · rintro ⟨h, hrest⟩
    exact ⟨_, apply_of_accepted h, hrest⟩

/-- A single operation that is accepted is performed. -/
theorem run_single (h : t.Accepts [op]) : t.run [op] = t.perform op :=
  step_of_accepted (accepts_cons.mp h).1

theorem accepts_append {first second : List Operation} :
    t.Accepts (first ++ second) ↔ t.Accepts first ∧ (t.run first).Accepts second := by
  induction first generalizing t with
  | nil => simp only [Accepts, run, List.nil_append, List.foldl_nil, true_and]
  | cons op rest ih =>
    rw [List.cons_append, accepts_cons, accepts_cons, ih, and_assoc]
    refine and_congr_right fun h => ?_
    rw [run_cons, step_of_accepted h]

theorem accepts_begun {ops begun : List Operation} (h : t.Accepts ops) (hb : begun <+: ops) :
    t.Accepts begun := by
  obtain ⟨rest, rfl⟩ := hb
  exact (accepts_append.mp h).1

theorem accepts_data (ht : t.Receiving) (sizes : List Nat) :
    t.Accepts (sizes.map .data) ∧ (t.run (sizes.map .data)).Receiving := by
  induction sizes generalizing t with
  | nil => exact ⟨trivial, ht⟩
  | cons len rest ih =>
    have h := ht.accepted_data len
    obtain ⟨hrest, hend⟩ := ih (receiving_perform_data t len)
    rw [List.map_cons, accepts_cons, run_cons, step_of_accepted h]
    exact ⟨⟨h, hrest⟩, hend⟩

theorem accepts_life (mode : Delivery) (total : Nat) (sizes : List Nat) :
    ({ mode } : Transfer).Accepts (life total sizes) := by
  unfold life
  rw [accepts_cons, accepts_cons, accepts_append]
  have hr := receiving_perform_headers (({ mode } : Transfer).perform .start) total
  obtain ⟨hdata, hend⟩ := accepts_data hr sizes
  refine ⟨rfl, rfl, hdata, ?_⟩
  rw [accepts_cons]
  exact ⟨hend.accepted_finish, trivial⟩

/-- Only the end of a life and a failure lead to a terminal phase. -/
theorem isTerminal_step (h : t.phase.isTerminal = false) (hf : op ≠ .finish) (hl : op ≠ .fail) :
    (t.step op).phase.isTerminal = false := by
  rcases apply_cases t op with ⟨-, -, hs⟩ | ⟨-, -, hs⟩
  · rw [hs]
    cases op with
    | finish => exact absurd rfl hf
    | fail => exact absurd rfl hl
    | _ => rfl
  · rw [hs]
    exact h

theorem isTerminal_run (h : t.phase.isTerminal = false) {ops : List Operation}
    (hf : .finish ∉ ops) (hl : .fail ∉ ops) : (t.run ops).phase.isTerminal = false := by
  induction ops generalizing t with
  | nil => exact h
  | cons op rest ih =>
    rw [List.mem_cons, not_or] at hf hl
    exact ih (isTerminal_step h (Ne.symm hf.1) (Ne.symm hl.1)) hf.2 hl.2

theorem fail_notMem_life (total : Nat) (sizes : List Nat) : .fail ∉ life total sizes := by
  simp [life]

theorem accepts_of_regular {ops : List Operation} (mode : Delivery) (h : Regular ops) :
    ({ mode } : Transfer).Accepts ops := by
  rcases h with ⟨total, sizes, hb⟩ | ⟨total, sizes, begun, hb, hf, rfl⟩
  · exact accepts_begun (accepts_life mode total sizes) hb
  · have hl : .fail ∉ begun := fun hm => fail_notMem_life total sizes (hb.subset hm)
    have hopen := isTerminal_run (t := { mode }) rfl hf hl
    rw [accepts_append, accepts_cons]
    refine ⟨accepts_begun (accepts_life mode total sizes) hb, ?_, trivial⟩
    simp only [Operation.accepted, hopen, Bool.not_false]

/-- A transfer whose life is over accepts nothing. -/
theorem eq_nil_of_accepts (h : t.phase.isTerminal = true) {ops : List Operation}
    (ha : t.Accepts ops) : ops = [] := by
  cases ops with
  | nil => rfl
  | cons op rest =>
    have hop := (accepts_cons.mp ha).1
    rw [accepted_of_terminal h op] at hop
    cases hop

/-- Nothing, the end or a failure: what may stand behind the data. -/
def Closing (last : List Operation) : Prop := last = [] ∨ last = [.finish] ∨ last = [.fail]

/-- A transfer that receives accepts data, and then an end. -/
theorem accepts_receiving (ht : t.Receiving) {ops : List Operation} (ha : t.Accepts ops) :
    ∃ (sizes : List Nat) (last : List Operation), ops = sizes.map .data ++ last ∧ Closing last := by
  -- Data keep the transfer receiving, and whatever else is accepted ends it.
  induction ops generalizing t with
  | nil => exact ⟨[], [], rfl, Or.inl rfl⟩
  | cons op rest ih =>
    obtain ⟨hop, hrest⟩ := accepts_cons.mp ha
    rcases accepted_cases hop with ⟨-, hp⟩ | ⟨total, -, hp⟩ | ⟨len, rfl, -⟩ | ⟨rfl, -⟩ | ⟨rfl, -⟩
    · rcases ht with ht | ht <;> rw [hp] at ht <;> cases ht
    · rcases ht with ht | ht <;> rw [hp] at ht <;> cases ht
    · obtain ⟨sizes, last, rfl, hlast⟩ := ih (receiving_perform_data t len) hrest
      exact ⟨len :: sizes, last, rfl, hlast⟩
    · obtain rfl := eq_nil_of_accepts rfl hrest
      exact ⟨[], [.finish], rfl, Or.inr (Or.inl rfl)⟩
    · obtain rfl := eq_nil_of_accepts rfl hrest
      exact ⟨[], [.fail], rfl, Or.inr (Or.inr rfl)⟩

/-- An open transfer accepts a failure, or the headers and what comes behind them. -/
theorem accepts_opened (ht : t.phase = .opened) {ops : List Operation} (ha : t.Accepts ops) :
    ops = [] ∨ ops = [.fail] ∨ ∃ (total : Nat) (sizes : List Nat) (last : List Operation),
      ops = .headers total :: (sizes.map .data ++ last) ∧ Closing last := by
  cases ops with
  | nil => exact Or.inl rfl
  | cons op rest =>
    obtain ⟨hop, hrest⟩ := accepts_cons.mp ha
    rcases accepted_cases hop with ⟨-, hp⟩ | ⟨total, rfl, -⟩ | ⟨_, -, hp⟩ | ⟨-, hp⟩ | ⟨rfl, -⟩
    · rw [ht] at hp
      cases hp
    · obtain ⟨sizes, last, rfl, hlast⟩ :=
        accepts_receiving (receiving_perform_headers t total) hrest
      exact Or.inr (Or.inr ⟨total, sizes, last, rfl, hlast⟩)
    · rcases hp with hp | hp <;> rw [ht] at hp <;> cases hp
    · rcases hp with hp | hp <;> rw [ht] at hp <;> cases hp
    · obtain rfl := eq_nil_of_accepts rfl hrest
      exact Or.inr (Or.inl rfl)

/-- What is accepted behind the headers belongs to a life. -/
theorem regular_of_closing (total : Nat) (sizes : List Nat) {last : List Operation}
    (h : Closing last) : Regular (.start :: .headers total :: (sizes.map .data ++ last)) := by
  have hbegun : .start :: .headers total :: sizes.map .data <+: life total sizes :=
    ⟨[.finish], rfl⟩
  rcases h with rfl | rfl | rfl
  · rw [List.append_nil]
    exact Or.inl ⟨total, sizes, hbegun⟩
  · exact Or.inl ⟨total, sizes, List.prefix_rfl⟩
  · exact Or.inr ⟨total, sizes, _, hbegun, by simp, rfl⟩

theorem regular_of_accepts {ops : List Operation} (mode : Delivery)
    (h : ({ mode } : Transfer).Accepts ops) : Regular ops := by
  cases ops with
  | nil => exact Or.inl ⟨0, [], List.nil_prefix⟩
  | cons op rest =>
    obtain ⟨hop, hrest⟩ := accepts_cons.mp h
    rcases accepted_cases hop with ⟨rfl, -⟩ | ⟨_, -, hp⟩ | ⟨_, -, hp⟩ | ⟨-, hp⟩ | ⟨rfl, -⟩
    · rcases accepts_opened rfl hrest with rfl | rfl | ⟨total, sizes, last, rfl, hlast⟩
      · exact Or.inl ⟨0, [], _, rfl⟩
      · exact Or.inr ⟨0, [], [.start], ⟨_, rfl⟩, by simp, rfl⟩
      · exact regular_of_closing total sizes hlast
    · cases hp
    · rcases hp with hp | hp <;> cases hp
    · rcases hp with hp | hp <;> cases hp
    · obtain rfl := eq_nil_of_accepts rfl hrest
      exact Or.inr ⟨0, [], [], List.nil_prefix, by simp, rfl⟩

theorem kept_cons_of_accepted (h : op.accepted t.phase = true) (rest : List Operation) :
    t.kept (op :: rest) = op :: (t.perform op).kept rest := by
  simp only [kept, apply_of_accepted h]

theorem kept_cons_of_rejected (h : op.accepted t.phase = false) (rest : List Operation) :
    t.kept (op :: rest) = t.kept rest := by
  rcases apply_cases t op with ⟨ha, -, -⟩ | ⟨-, ha, -⟩
  · rw [h] at ha
    cases ha
  · simp only [kept, ha]

/-- The accepted operations alone are accepted and lead to the same state. -/
theorem accepts_kept (t : Transfer) (ops : List Operation) :
    t.Accepts (t.kept ops) ∧ t.run (t.kept ops) = t.run ops := by
  induction ops generalizing t with
  | nil => exact ⟨trivial, rfl⟩
  | cons op rest ih =>
    rcases apply_cases t op with ⟨h, -, hs⟩ | ⟨h, -, hs⟩
    · obtain ⟨haccepts, hrun⟩ := ih (t.perform op)
      rw [kept_cons_of_accepted h, accepts_cons, run_cons, run_cons, hs]
      exact ⟨⟨h, haccepts⟩, hrun⟩
    · rw [kept_cons_of_rejected h, run_cons, hs]
      exact ih t

theorem kept_sublist (t : Transfer) (ops : List Operation) : (t.kept ops).Sublist ops := by
  induction ops generalizing t with
  | nil => exact List.Sublist.slnil
  | cons op rest ih =>
    rcases apply_cases t op with ⟨h, -, -⟩ | ⟨h, -, -⟩
    · rw [kept_cons_of_accepted h]
      exact (ih _).cons_cons op
    · rw [kept_cons_of_rejected h]
      exact (ih t).cons op

theorem kept_append (t : Transfer) (first second : List Operation) :
    t.kept (first ++ second) = t.kept first ++ (t.run first).kept second := by
  induction first generalizing t with
  | nil => rfl
  | cons op rest ih =>
    rw [List.cons_append, run_cons]
    rcases apply_cases t op with ⟨h, -, hs⟩ | ⟨h, -, hs⟩
    · rw [kept_cons_of_accepted h, kept_cons_of_accepted h, ih, hs, List.cons_append]
    · rw [kept_cons_of_rejected h, kept_cons_of_rejected h, ih, hs]

/-- Nothing of what comes after the end of a life counts. -/
theorem kept_of_terminal (h : t.phase.isTerminal = true) (ops : List Operation) :
    t.kept ops = [] := eq_nil_of_accepts h (accepts_kept t ops).1

theorem run_of_terminal (h : t.phase.isTerminal = true) (ops : List Operation) :
    t.run ops = t := by
  rw [← (accepts_kept t ops).2, kept_of_terminal h]
  rfl

/-- A new transfer accepts the regular lists and no others. Of any list it keeps a regular one; a
rejected operation is named together with the phase and changes nothing. -/
theorem accepts_exactly_regular (mode : Delivery) (ops : List Operation) :
    let fresh : Transfer := { mode }
    (fresh.Accepts ops ↔ Regular ops) ∧
    (∀ before op after cause, ops = before ++ op :: after →
      (fresh.run before).apply op = .error cause →
        (fresh.run before).answer op = .error cause ∧
        cause = ⟨(fresh.run before).phase, op.name⟩ ∧
        fresh.run (before ++ [op]) = fresh.run before) ∧
    fresh.run (fresh.kept ops) = fresh.run ops ∧
    (fresh.kept ops).Sublist ops ∧ fresh.Accepts (fresh.kept ops) ∧ Regular (fresh.kept ops) ∧
    ((fresh.run ops).phase.isTerminal = true → ∀ more,
      (∀ op, (fresh.run (ops ++ more)).apply op = .error ⟨(fresh.run ops).phase, op.name⟩) ∧
      fresh.run (ops ++ more) = fresh.run ops ∧ fresh.kept (ops ++ more) = fresh.kept ops) := by
  intro fresh
  obtain ⟨haccepts, hrun⟩ := accepts_kept fresh ops
  refine ⟨⟨regular_of_accepts mode, accepts_of_regular mode⟩, ?_, hrun, kept_sublist fresh ops,
    haccepts, regular_of_accepts mode haccepts, ?_⟩
  · -- An operation is accepted or rejected; only the second gives a cause.
    intro before op after cause _ hcause
    rcases apply_cases (fresh.run before) op with ⟨-, ha, -⟩ | ⟨h, ha, hs⟩
    · rw [ha] at hcause
      cases hcause
    · rw [ha] at hcause
      cases hcause
      refine ⟨?_, rfl, ?_⟩
      · simp only [answer, h, Bool.false_eq_true, if_false]
      · rw [run_append, run_cons, hs]
        rfl
  · -- Behind the end every operation is rejected, so that nothing more is kept.
    intro hover more
    have hsame : fresh.run (ops ++ more) = fresh.run ops := by
      rw [run_append, run_of_terminal hover]
    refine ⟨fun op => ?_, hsame, ?_⟩
    · rw [hsame]
      rcases apply_cases (fresh.run ops) op with ⟨h, -, -⟩ | ⟨-, ha, -⟩
      · rw [accepted_of_terminal hover] at h
        cases h
      · exact ha
    · rw [kept_append, kept_of_terminal hover, List.append_nil]

/-- Data before the opening, a second opening and a failure behind the end are rejected, and what
is left is a life. -/
theorem accepts_exactly_regular_mixed :
    let fresh : Transfer := { mode := .buffered }
    let ops : List Operation := [.data 3, .start, .headers 0, .start, .data 2, .finish, .fail]
    ¬Regular ops ∧ fresh.kept ops = life 0 [2] ∧ fresh.run (life 0 [2]) = fresh.run ops ∧
      Regular (life 0 [2]) ∧ (fresh.run ops).phase = .completed ∧
      (fresh.run ops).apply .start = .error ⟨.completed, "open"⟩ := by
  intro fresh ops
  obtain ⟨hiff, -, hrun, -, -, hregular, hover⟩ := accepts_exactly_regular .buffered ops
  refine ⟨fun h => ?_, rfl, hrun, hregular, rfl, (hover rfl []).1 .start⟩
  obtain ⟨next, hdata, -⟩ := hiff.mpr h
  cases hdata

end Retrieval.Transfer
