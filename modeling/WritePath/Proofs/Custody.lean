import WritePath.Execution.Deployment

namespace WritePath

/-!
# Where a connection is

Every act of an execution takes its connection from one place to another, or leaves it where it is;
most are allowed in one place only.

* `Custody`, `Custody.step` — where the connection is, and what may be done then.
* `Custody.run_balance` — along any run, connections handed over are given back or held.
* `Custody.countP_le_of_step` — what is done once at most.
* `Custody.counts_of_needsConnection`, `Custody.counts_of_callback` — what was done before something
  that needs a connection, and before a callback is told.
-/

/-! ### Places, and what may be done there -/

/-- Where the connection of an execution is. -/
inductive Custody where
  /-- It was not asked for. -/
  | unasked
  /-- It was asked for. -/
  | asked
  /-- The execution has it. -/
  | held
  /-- It was given back. -/
  | returned
  /-- A callback has learnt how the execution ended. -/
  | settled
  deriving DecidableEq, Repr

/-- A connection is handed over. -/
def Act.isHandover : Act → Bool
  | connected _ => true
  | _ => false

/-- A connection is given back. -/
def Act.isReturn : Act → Bool
  | release => true
  | _ => false

/-- A connection is asked for. -/
def Act.isAcquisition : Act → Bool
  | acquire => true
  | _ => false

/-- A connection is needed for what is done. -/
def Act.needsConnection : Act → Bool
  | probe | send _ _ | release => true
  | _ => false

namespace Custody

/-- Where the connection is after something is done, if it may be done. Nothing is done once a
    callback knows how the execution ended. -/
def step : Custody → Act → Option Custody
  | settled, _ => none
  | c, .note _ => some c
  | unasked, .acquire => some asked
  | asked, .connected _ => some held
  | held, .probe => some held
  | held, .send _ _ => some held
  | held, .release => some returned
  | held, .callback _ => none
  | _, .callback _ => some settled
  | _, _ => none

/-- Where it is after several things are done. -/
def run (c : Custody) (acts : List Act) : Option Custody :=
  acts.foldlM step c

/-- The number of connections held. -/
def holding : Custody → Nat
  | held => 1
  | unasked | asked | returned | settled => 0

/-- The number of connections that may still be handed over. -/
def expected : Custody → Nat
  | unasked | asked => 1
  | held | returned | settled => 0

/-- The number of connections that may still be asked for. -/
def askable : Custody → Nat
  | unasked => 1
  | asked | held | returned | settled => 0

/-- The execution may end here. -/
def isClear : Custody → Bool
  | unasked | asked | returned => true
  | held | settled => false

theorem holding_of_isClear {c : Custody} (h : c.isClear = true) : c.holding = 0 := by
  cases c <;> first | rfl | cases h

theorem step_callback {c : Custody} (h : c.isClear = true) (outcome : Outcome) :
    c.step (.callback outcome) = some settled := by
  cases c <;> first | rfl | cases h

theorem eq_held_of_needsConnection {c c' : Custody} {a : Act} (h : c.step a = some c')
    (ha : a.needsConnection = true) : c = held := by
  cases a with
  | probe | send protocol batch | release => cases c <;> first | rfl | cases h
  | acquire | connected stream | note event | callback outcome => cases ha

theorem eq_settled_of_callback {c c' : Custody} {outcome : Outcome}
    (h : c.step (.callback outcome) = some c') : c.holding = 0 ∧ c' = settled := by
  cases c <;> cases h <;> exact ⟨rfl, rfl⟩

/-! ### Several things done -/

theorem run_cons (c : Custody) (a : Act) (rest : List Act) :
    c.run (a :: rest) = (c.step a).bind (run · rest) :=
  rfl

theorem run_append (c : Custody) (first next : List Act) :
    c.run (first ++ next) = (c.run first).bind (run · next) :=
  List.foldlM_append

theorem run_append_of_run {c c' : Custody} {first : List Act} (h : c.run first = some c')
    (next : List Act) : c.run (first ++ next) = c'.run next := by
  rw [run_append, h, Option.bind_some]

theorem run_settled {acts : List Act} {c : Custody} (h : settled.run acts = some c) :
    acts = [] := by
  cases acts with
  | nil => rfl
  | cons a rest => cases a <;> cases h

/-- Where nothing that is done matters, the connection stays where it is. -/
theorem run_of_forall_step {c : Custody} {acts : List Act} (h : ∀ a ∈ acts, c.step a = some c) :
    c.run acts = some c := by
  induction acts with
  | nil => rfl
  | cons a rest ih =>
    obtain ⟨ha, hrest⟩ := List.forall_mem_cons.1 h
    rw [run_cons, ha]
    exact ih hrest

theorem run_notes {c : Custody} (h : c ≠ settled) (events : List TraceEvent) :
    c.run (Act.notes events) = some c := by
  refine run_of_forall_step fun a ha => ?_
  obtain ⟨e, -, rfl⟩ := List.mem_map.1 ha
  cases c <;> first | rfl | exact absurd rfl h

/-! ### Counting -/

theorem step_balance {c c' : Custody} {a : Act} (h : c.step a = some c') :
    (if a.isHandover then 1 else 0) + c.holding = (if a.isReturn then 1 else 0) + c'.holding := by
  cases a <;> cases c <;> cases h <;> rfl

/-- **Balance.** Along any run, connections handed over are given back or held. -/
theorem run_balance {c c' : Custody} {acts : List Act} (h : c.run acts = some c') :
    acts.countP Act.isHandover + c.holding = acts.countP Act.isReturn + c'.holding := by
  induction acts generalizing c with
  | nil =>
    cases h
    rfl
  | cons a rest ih =>
    rw [run_cons] at h
    obtain ⟨c₁, hstep, hrest⟩ := Option.bind_eq_some_iff.1 h
    have hhead := step_balance hstep
    have htail := ih hrest
    rw [List.countP_cons, List.countP_cons]
    omega

/-- Something that uses up what there is of it is not done more often than there is. -/
theorem countP_le_of_step {p : Act → Bool} {left : Custody → Nat}
    (hstep : ∀ {c c' : Custody} {a : Act}, c.step a = some c' →
      (if p a then 1 else 0) + left c' ≤ left c)
    {c c' : Custody} {acts : List Act} (h : c.run acts = some c') :
    acts.countP p + left c' ≤ left c := by
  induction acts generalizing c with
  | nil =>
    cases h
    exact Nat.le_of_eq (Nat.zero_add _)
  | cons a rest ih =>
    rw [run_cons] at h
    obtain ⟨c₁, hfirst, hrest⟩ := Option.bind_eq_some_iff.1 h
    have hhead := hstep hfirst
    have htail := ih hrest
    rw [List.countP_cons]
    omega

theorem step_expected {c c' : Custody} {a : Act} (h : c.step a = some c') :
    (if a.isHandover then 1 else 0) + c'.expected ≤ c.expected := by
  cases a <;> cases c <;> cases h <;> simp [Act.isHandover, expected]

theorem step_askable {c c' : Custody} {a : Act} (h : c.step a = some c') :
    (if a.isAcquisition then 1 else 0) + c'.askable ≤ c.askable := by
  cases a <;> cases c <;> cases h <;> simp [Act.isAcquisition, askable]

/-- Whatever needs a connection is done while there is one, and before it is given back. -/
theorem counts_of_needsConnection {c : Custody} {before after : List Act} {a : Act}
    (h : unasked.run (before ++ a :: after) = some c) (ha : a.needsConnection = true) :
    before.countP Act.isHandover = 1 ∧ before.countP Act.isReturn = 0 := by
  rw [run_append] at h
  obtain ⟨c₁, hbefore, hrest⟩ := Option.bind_eq_some_iff.1 h
  rw [run_cons] at hrest
  obtain ⟨c₂, hstep, -⟩ := Option.bind_eq_some_iff.1 hrest
  -- Whatever needs a connection is allowed only while it is held, which fixes the balance.
  obtain rfl : c₁ = held := eq_held_of_needsConnection hstep ha
  have hbalance : before.countP Act.isHandover = before.countP Act.isReturn + 1 :=
    run_balance hbefore
  have hhandover : before.countP Act.isHandover ≤ 1 := countP_le_of_step step_expected hbefore
  omega

/-- Whoever is told that the execution has ended is told when the connection is given back, and
    nothing is done afterwards. -/
theorem counts_of_callback {c : Custody} {before after : List Act} {outcome : Outcome}
    (h : unasked.run (before ++ .callback outcome :: after) = some c) :
    before.countP Act.isReturn = before.countP Act.isHandover ∧ after = [] := by
  rw [run_append] at h
  obtain ⟨c₁, hbefore, hrest⟩ := Option.bind_eq_some_iff.1 h
  rw [run_cons] at hrest
  obtain ⟨c₂, hstep, hafter⟩ := Option.bind_eq_some_iff.1 hrest
  obtain ⟨hholding, rfl⟩ := eq_settled_of_callback hstep
  have hbalance : before.countP Act.isHandover = before.countP Act.isReturn + c₁.holding :=
    run_balance hbefore
  rw [hholding] at hbalance
  exact ⟨hbalance.symm, run_settled hafter⟩

end Custody

end WritePath
