import WritePath.Proofs.Runs

namespace WritePath

/-!
# What a hanging execution would still do

Whoever gives up on a call that hangs does not know how it would have ended. Whatever it would have
come to, the execution had by then done the first part of what it would have done.

* `Deployment.Becomes` — a deployment on which calls that hang come to some end.
* `Run.Becomes` — a run that does the first part of another and hangs, or that is the other.
* `Operation.execute_becomes` — the execution on the one deployment becomes that on the other.
-/

/-! ### Deployments -/

/-- A call that hangs comes to some end; any other ends as it does. -/
def Ending.Becomes {α : Type} (e e' : Ending α) : Prop :=
  e = .hangs ∨ e = e'

/-- Whatever hangs on a connection comes to some end. -/
structure Connection.Becomes (c c' : Connection) : Prop where
  stream : c.stream = c'.stream
  probe : c.probe.ending.Becomes c'.probe.ending
  command (b : WriteBatch) : (c.sendCommand b).ending.Becomes (c'.sendCommand b).ending
  legacy (b : WriteBatch) : (c.sendLegacy b).ending.Becomes (c'.sendLegacy b).ending

/-- Whatever hangs on a deployment or on its connections comes to some end. -/
inductive Deployment.Becomes (d d' : Deployment) : Prop where
  | hanging (h : d.acquire.ending = .hangs)
  | panicking (h : d.acquire.ending = .panics) (h' : d'.acquire.ending = .panics)
  | refusing {e : Error} (h : d.acquire.ending = .returns (.error e))
      (h' : d'.acquire.ending = .returns (.error e))
  | connecting {c c' : Connection} (h : d.acquire.ending = .returns (.ok c))
      (h' : d'.acquire.ending = .returns (.ok c')) (hc : c.Becomes c')

theorem Ending.Becomes.map {α β : Type} {e e' : Ending α} (h : e.Becomes e') (f : α → β) :
    (e.map f).Becomes (e'.map f) := by
  rcases h with rfl | rfl
  · exact .inl rfl
  · exact .inr rfl

theorem Connection.Becomes.refl (c : Connection) : c.Becomes c where
  stream := rfl
  probe := .inr rfl
  command _ := .inr rfl
  legacy _ := .inr rfl

/-- Nothing has to come to another end. -/
theorem Deployment.Becomes.refl (d : Deployment) : d.Becomes d := by
  cases h : d.acquire.ending with
  | hangs => exact .hanging h
  | panics => exact .panicking h h
  | returns answer =>
    cases answer with
    | error e => exact .refusing h h
    | ok c => exact .connecting h h (.refl c)

/-! ### Runs -/

/-- A run hangs after it has done the first part of another, or it is the other. -/
def Run.Becomes {α : Type} (r r' : Run α) : Prop :=
  r.ending = .hangs ∧ r.acts <+: r'.acts ∨ r = r'

namespace Run

variable {α β : Type} {r r' : Run α}

theorem Becomes.acts_isPrefix (h : r.Becomes r') : r.acts <+: r'.acts := by
  rcases h with ⟨-, hprefix⟩ | rfl
  · exact hprefix
  · exact List.prefix_rfl

theorem becomes_await {c c' : Call α} (h : c.ending.Becomes c'.ending) :
    (await c).Becomes (await c') := by
  rcases h with h | h
  · exact .inl ⟨h, List.nil_prefix⟩
  · exact .inr (by rw [await, await, h])

theorem bind_of_hangs (h : r.ending = .hangs) (next : α → Run β) :
    r >>= next = ⟨r.acts, .hangs⟩ := by
  obtain ⟨done, ending⟩ := r
  subst h
  rfl

theorem acts_isPrefix_bind (r : Run α) (next : α → Run β) : r.acts <+: (r >>= next).acts := by
  obtain ⟨done, ending⟩ := r
  cases ending with
  | returns a => exact List.prefix_append ..
  | panics | hangs => exact List.prefix_rfl

theorem Becomes.after (h : r.Becomes r') (acts : List Act) :
    (r.after acts).Becomes (r'.after acts) := by
  rcases h with ⟨hhangs, hprefix⟩ | rfl
  · exact .inl ⟨hhangs, (List.prefix_append_right_inj acts).2 hprefix⟩
  · exact .inr rfl

/-- What comes after a run that hangs does not matter. -/
theorem Becomes.bind {next next' : α → Run β} (h : r.Becomes r')
    (hnext : ∀ a, (next a).Becomes (next' a)) : (r >>= next).Becomes (r' >>= next') := by
  rcases h with ⟨hhangs, hprefix⟩ | rfl
  · -- There is nothing after a run that hangs, and something perhaps after the other.
    rw [bind_of_hangs hhangs]
    exact .inl ⟨rfl, hprefix.trans (acts_isPrefix_bind r' next')⟩
  · obtain ⟨done, ending⟩ := r
    cases ending with
    | panics | hangs => exact .inr rfl
    | returns a =>
      exact (hnext a).after done

/-- A connection is not given back in a run that hangs. -/
theorem Becomes.holding (h : r.Becomes r') : r.holding.Becomes r'.holding := by
  rcases h with ⟨hhangs, hprefix⟩ | rfl
  · -- The other run may give it back, but only at its end.
    have hacts : r'.acts <+: r'.holding.acts := by
      obtain ⟨done, ending⟩ := r'
      cases ending with
      | hangs => exact List.prefix_rfl
      | returns a | panics => exact List.prefix_append ..
    have hkept : r.holding = r := by rw [Run.holding, hhangs]
    rw [hkept]
    exact .inl ⟨hhangs, hprefix.trans hacts⟩
  · exact .inr rfl

end Run

/-! ### Executions -/

namespace Operation

variable {c c' : Connection} {d d' : Deployment}

theorem write_becomes (op : Operation) (h : c.Becomes c') : (op.write c).Becomes (op.write c') := by
  have hsend (protocol : WireProtocol) :
      (op.send c protocol).ending.Becomes (op.send c' protocol).ending := by
    cases protocol with
    | command => exact (h.command op.batch).map _
    | legacy => exact (h.legacy op.batch).map _
  -- The protocol depends on the stream alone, which is the same.
  rw [write, write, h.stream]
  exact .bind (.inr rfl) fun _ => .bind (.inr rfl) fun _ =>
    (Run.becomes_await (hsend _)).bind fun _ => .inr rfl

theorem use_becomes (op : Operation) (h : c.Becomes c') : (op.use c).Becomes (op.use c') := by
  rw [use, use]
  cases op.isRetrying with
  | false => exact op.write_becomes h
  | true =>
    refine .bind (.inr rfl) fun _ => (Run.becomes_await h.probe).bind fun answer => ?_
    cases answer with
    | error e => exact .inr rfl
    | ok _ => exact op.write_becomes h

/-- **Completion.** Whatever the calls that hang come to, the execution does the first part of what
    it then does. -/
theorem execute_becomes (op : Operation) (h : d.Becomes d') :
    (op.execute d).Becomes (op.execute d') := by
  rw [execute_eq, execute_eq]
  refine Run.Becomes.after ?_ [.acquire]
  cases h with
  | hanging h =>
    rw [finishAcquiring, Run.await, h]
    exact .inl ⟨rfl, List.nil_prefix⟩
  | panicking h h' | refusing h h' => exact .inr (by rw [finishAcquiring, Run.await, h, ← h']; rfl)
  | connecting h h' hc =>
    rw [finishAcquiring_of_ok h, finishAcquiring_of_ok h', hc.stream]
    exact ((op.use_becomes hc).holding.bind fun _ => .inr rfl).after _

end Operation

end WritePath
