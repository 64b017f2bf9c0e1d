import WebTestbed.Probe.Poll

/-! How steps end: with a value, or at once with a fault. Both endings have a condition of their own,
so that a step is described whatever happens in it. -/
namespace WebTestbed

variable {ε σ S α β : Type}

/-- A value and its state fit `post`, or a fault and its state fit `fault`. -/
def Ended (post : α → S → Prop) (fault : ε → S → Prop) : Except ε α × S → Prop
  | (.ok a, t) => post a t
  | (.error e, t) => fault e t

/-- From the state, the step gives a value and a state that fit `post`, or faults as `fault` has
it. -/
def Ends (x : ExceptT ε (StateM S) α) (s : S) (post : α → S → Prop) (fault : ε → S → Prop) : Prop :=
  Ended post fault (x.run.run s)

section Ends

variable {x : ExceptT ε (StateM S) α} {s : S} {post post' : α → S → Prop}
  {fault fault' : ε → S → Prop}

theorem Ended.mono {r : Except ε α × S} (h : Ended post fault r)
    (hp : ∀ a t, post a t → post' a t) (hf : ∀ e t, fault e t → fault' e t) :
    Ended post' fault' r := by
  obtain ⟨_ | _, _⟩ := r
  · exact hf _ _ h
  · exact hp _ _ h

theorem Ends.mono (h : Ends x s post fault) (hp : ∀ a t, post a t → post' a t)
    (hf : ∀ e t, fault e t → fault' e t) : Ends x s post' fault' :=
  Ended.mono h hp hf

theorem Ends.imp (h : Ends x s post fault) (hp : ∀ a t, post a t → post' a t) :
    Ends x s post' fault :=
  h.mono hp (fun _ _ h => h)

theorem Ends.post_of_run (h : Ends x s post fault) {a : α} {t : S}
    (hr : x.run.run s = (.ok a, t)) : post a t := by
  unfold Ends at h
  rw [hr] at h
  exact h

theorem Ends.exists_run_or (h : Ends x s post fault) :
    (∃ a t, x.run.run s = (.ok a, t) ∧ post a t) ∨
      ∃ e t, x.run.run s = (.error e, t) ∧ fault e t := by
  unfold Ends at h
  cases hr : x.run.run s with
  | mk r t =>
    rw [hr] at h
    cases r with
    | error e => exact .inr ⟨e, t, rfl, h⟩
    | ok a => exact .inl ⟨a, t, rfl, h⟩

/-- A step that cannot fault gives a value. -/
theorem Ends.exists_run (h : Ends x s post fun _ _ => False) :
    ∃ a t, x.run.run s = (.ok a, t) ∧ post a t := by
  obtain h | ⟨_, _, _, h⟩ := h.exists_run_or
  · exact h
  · exact h.elim

/-- A step given by what it does to the state ends as that ends. -/
theorem ends_mk {f : S → Except ε α × S} :
    Ends (ExceptT.mk (modifyGet f)) s post fault ↔ Ended post fault (f s) :=
  Iff.rfl

@[simp] theorem ends_pure (a : α) : Ends (pure a : ExceptT ε (StateM S) α) s post fault ↔ post a s :=
  Iff.rfl

@[simp] theorem ends_throw (e : ε) :
    Ends (throw e : ExceptT ε (StateM S) α) s post fault ↔ fault e s :=
  Iff.rfl

@[simp] theorem ends_get {post : S → S → Prop} :
    Ends (get : ExceptT ε (StateM S) S) s post fault ↔ post s s :=
  Iff.rfl

@[simp] theorem ends_modify {f : S → S} {post : Unit → S → Prop} :
    Ends (modify f : ExceptT ε (StateM S) Unit) s post fault ↔ post () (f s) :=
  Iff.rfl

@[simp] theorem ends_bind {f : α → ExceptT ε (StateM S) β} {post : β → S → Prop} :
    Ends (x >>= f) s post fault ↔ Ends x s (fun a t => Ends (f a) t post fault) fault := by
  unfold Ends
  rw [ExceptT.run_bind, StateT.run_bind]
  obtain ⟨_ | _, _⟩ := x.run.run s
  · rfl
  · rfl

theorem Ends.bind {post : α → S → Prop} {f : α → ExceptT ε (StateM S) β} {post' : β → S → Prop}
    (hx : Ends x s post fault) (hf : ∀ a t, post a t → Ends (f a) t post' fault) :
    Ends (x >>= f) s post' fault := by
  rw [ends_bind]
  exact hx.imp hf

end Ends

namespace Action

/-- The step faults only if clocks do not count on for the time. -/
def Within (a : Action σ α) (d : Duration) : Prop :=
  ∀ s, Ends a s (fun _ _ => True) (fun _ t => clockLimit ≤ t.clock.nanos + d.nanos)

variable {s : Session σ}

@[simp] theorem ends_tell {level : Level} {source text : String} {post : Unit → Session σ → Prop}
    {fault : Fault → Session σ → Prop} : Ends (tell level source text) s post fault ↔
      post () { s with journal := ⟨s.clock, level, source, text⟩ :: s.journal } :=
  Iff.rfl

/-- The moment is within the time that clocks count, or the step faults. Nothing changes. -/
theorem ends_deadline (d : Duration) : Ends (deadline d : Action σ Duration) s
    (fun moment t => moment = ⟨s.clock.nanos + d.nanos⟩ ∧ t = s)
    (fun _ t => clockLimit ≤ s.clock.nanos + d.nanos ∧ t = s) := by
  unfold deadline now
  rw [ends_bind, ends_bind, ends_get, ends_pure]
  by_cases h : s.clock.nanos + d.nanos < clockLimit
  · rw [if_pos h, ends_pure]
    exact ⟨rfl, rfl⟩
  · rw [if_neg h, ends_throw]
    exact ⟨Nat.le_of_not_lt h, rfl⟩

theorem run_deadline (d : Duration) (s : Session σ) : (deadline d : Action σ Duration).run.run s =
    if s.clock.nanos + d.nanos < clockLimit then (.ok ⟨s.clock.nanos + d.nanos⟩, s)
    else (.error .clockOverflow, s) := by
  have h : (deadline d : Action σ Duration).run.run s =
      (if s.clock.nanos + d.nanos < clockLimit then pure ⟨s.clock.nanos + d.nanos⟩
        else throw .clockOverflow : Action σ Duration).run.run s := rfl
  rw [h]
  split <;> rfl

end Action

end WebTestbed
