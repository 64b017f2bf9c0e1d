import WebTestbed.Proofs.Action

/-! What is kept by asking again and again. -/
namespace WebTestbed.Probe

variable {σ : Type}

theorem timeForAttempt_le (interval left : Duration) :
    (timeForAttempt interval left).nanos ≤ left.nanos :=
  Nat.min_le_right _ _

section Equations

variable {interval deadline : Duration} {attempt : Duration → Action σ Bool} {s t : Session σ}

theorem pollUntil_over (h : ¬ s.clock.nanos < deadline.nanos) :
    pollUntil interval deadline attempt s = (.ok false, s) := by
  rw [pollUntil, if_neg h]

variable (hs : s.clock.nanos < deadline.nanos)
include hs

theorem pollUntil_answered {r : Except Fault Bool × Session σ}
    (hr : (attempt (timeForAttempt interval ⟨deadline.nanos - s.clock.nanos⟩)).run.run s = r)
    (h : ∀ t, r ≠ (.ok false, t)) : pollUntil interval deadline attempt s = r := by
  rw [pollUntil, if_pos hs]
  simp only [hr]

variable
  (hr : (attempt (timeForAttempt interval ⟨deadline.nanos - s.clock.nanos⟩)).run.run s =
    (.ok false, t))
include hr

theorem pollUntil_late (ht : ¬ t.clock.nanos < deadline.nanos) :
    pollUntil interval deadline attempt s = (.ok false, t) := by
  rw [pollUntil, if_pos hs]
  simp only [hr, if_neg ht]

variable (ht : t.clock.nanos < deadline.nanos)
include ht

theorem pollUntil_again : pollUntil interval deadline attempt s = pollUntil interval deadline attempt
    { t with clock := nextStart interval s.clock t.clock deadline } := by
  rw [pollUntil, if_pos hs]
  simp only [hr, if_pos ht]

end Equations

/-- Where clocks do not count on to the deadline, there is no attempt. -/
theorem run_poll (interval timeout : Duration) (attempt : Duration → Action σ Bool)
    (s : Session σ) : (poll interval timeout attempt).run.run s =
      if s.clock.nanos + timeout.nanos < Action.clockLimit then
        pollUntil interval ⟨s.clock.nanos + timeout.nanos⟩ attempt s
      else (.error .clockOverflow, s) := by
  unfold poll
  rw [ExceptT.run_bind, StateT.run_bind, Action.run_deadline]
  split <;> rfl

section Ends

variable {interval : Duration} {attempt : Duration → Action σ Bool}
  {post : Bool → Session σ → Prop} {fault : Fault → Session σ → Prop}

/-- What holds after an attempt that fails, at whatever time, holds before the next one. What each
attempt then ends with is what all of them end with. -/
theorem ended_pollUntil (begin : Nat) (deadline : Duration)
    (hclock : ∀ t clock, post false t → post false { t with clock := clock })
    (hattempt : ∀ d t, post false t → begin ≤ t.clock.nanos →
      t.clock.nanos + d.nanos ≤ deadline.nanos → Ends (attempt d) t post fault)
    {s : Session σ} (hs : post false s) (hb : begin ≤ s.clock.nanos) :
    Ended post fault (pollUntil interval deadline attempt s) := by
  have hfirst : ∀ s : Session σ, post false s → begin ≤ s.clock.nanos →
      s.clock.nanos < deadline.nanos →
      Ends (attempt (timeForAttempt interval ⟨deadline.nanos - s.clock.nanos⟩)) s post fault := by
    intro s hs hb hlt
    apply hattempt _ s hs hb
    have := timeForAttempt_le interval ⟨deadline.nanos - s.clock.nanos⟩
    simp only at this
    omega
  fun_induction pollUntil interval deadline attempt s with
  | case1 s hlt left t hr ht ih =>
    have h : post false t := (hfirst s hs hb hlt).post_of_run hr
    exact ih (hclock t _ h) (Nat.le_trans hb (Nat.le_of_lt (lt_nextStart ..)))
  | case2 s hlt left t hr ht =>
    have h : post false t := (hfirst s hs hb hlt).post_of_run hr
    exact h
  | case3 s hlt left hr => exact hfirst s hs hb hlt
  | case4 s hlt => exact hs

theorem ends_poll (timeout : Duration)
    (hclock : ∀ t clock, post false t → post false { t with clock := clock })
    (hattempt : ∀ d t, post false t → d.nanos ≤ timeout.nanos → Ends (attempt d) t post fault)
    {s : Session σ} (hs : post false s) : Ends (poll interval timeout attempt) s post
      (fun e t => fault e t ∨ Action.clockLimit ≤ s.clock.nanos + timeout.nanos ∧ t = s) := by
  unfold poll
  rw [ends_bind]
  apply (Action.ends_deadline timeout).mono
  · rintro deadline t ⟨rfl, rfl⟩
    rw [ends_mk]
    have h : Ended post fault (pollUntil interval ⟨t.clock.nanos + timeout.nanos⟩ attempt t) := by
      apply ended_pollUntil t.clock.nanos _ hclock _ hs (Nat.le_refl _)
      intro d u hu hb hd
      exact hattempt d u hu (by simp only at hd; omega)
    exact h.mono (fun _ _ h => h) (fun _ _ => .inl)
  · intro _ t h
    exact .inr h

end Ends

end WebTestbed.Probe
