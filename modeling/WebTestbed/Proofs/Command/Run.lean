import WebTestbed.Command.Run
import WebTestbed.Proofs.Action

/-! How the running of a command turns out: with a result, which tells also of what went wrong, or
with a fault, where the clock does not reach the moment when the time is up, or where the wait for
the command has no end. -/
namespace WebTestbed

variable {σ α : Type}

/-- Without a limit to the time there is always a deadline. -/
theorem Action.ends_mapM_deadline (timeout : Option Duration) (s : Session σ) :
    Ends (timeout.mapM deadline) s
      (fun d t => d = timeout.map (fun d => ⟨s.clock.nanos + d.nanos⟩) ∧ t = s ∧
        ¬ ∃ d, timeout = some d ∧ clockLimit ≤ s.clock.nanos + d.nanos)
      (fun e _ => e = .clockOverflow ∧
        ∃ d, timeout = some d ∧ clockLimit ≤ s.clock.nanos + d.nanos) := by
  cases timeout with
  | none => exact ⟨rfl, rfl, nofun⟩
  | some d =>
    simp only [Option.mapM_some, map_eq_pure_bind, Option.some.injEq, exists_eq_left', Option.map_some]
    rw [ends_bind]
    unfold Ends
    rw [run_deadline]
    split
    · next h => exact ⟨rfl, rfl, Nat.not_le_of_lt h⟩
    · next h => exact ⟨rfl, Nat.le_of_not_lt h⟩

namespace Command

section Wait

variable {ending : Option (Duration × Ending)} {deadline : Option Duration} {now : Duration}

/-- How a command ends by itself, if it does so by the deadline. -/
def endedBy (ending : Option (Duration × Ending)) (deadline : Option Duration) : Option Ending :=
  (ending.filter fun e => deadline.all (e.1.nanos ≤ ·.nanos)).map (·.2)

theorem endedBy_of_filter {d moment : Duration} {e : Ending} (hnow : now.nanos ≤ d.nanos)
    (h : ending.filter (·.1.nanos ≤ now.nanos) = some (moment, e)) :
    endedBy ending (some d) = some e := by
  obtain ⟨rfl, hmoment⟩ := Option.filter_eq_some_iff.mp h
  have hd : moment.nanos ≤ d.nanos := Nat.le_trans (of_decide_eq_true hmoment) hnow
  simp [endedBy, hd]

/-- The looks at a command see that it has ended exactly if it ends by the deadline, wherever the
moments of the looks lie. A last look that sees it run is at the deadline. -/
theorem waitUntil_cases (hnow : ∀ d, deadline = some d → now.nanos ≤ d.nanos) :
    (ending = none ∧ deadline = none ∧ waitUntil ending deadline now = none) ∨
      ∃ moment, waitUntil ending deadline now = some (moment, endedBy ending deadline) ∧
        (endedBy ending deadline = none → deadline = some moment) := by
  fun_induction waitUntil ending deadline now with
  | case1 => exact .inl ⟨rfl, rfl, rfl⟩
  | case2 now moment e => exact .inr ⟨now, rfl, nofun⟩
  | case3 now moment e hlater ih => exact ih nofun
  | case4 now ending d moment e hended =>
    rw [endedBy_of_filter (hnow d rfl) hended]
    exact .inr ⟨now, rfl, nofun⟩
  | case5 now ending d hrunning hd =>
    obtain rfl : now = d := congrArg Duration.mk (Nat.le_antisymm (hnow d rfl) hd)
    have hended : endedBy ending (some now) = none := by simp [endedBy, hrunning]
    exact .inr ⟨now, congrArg (fun e => some (now, e)) hended.symm, fun _ => rfl⟩
  | case6 now ending d hrunning hd ih =>
    apply ih
    rintro _ ⟨⟩
    calc now.nanos + waitInterval.nanos.min (d.nanos - now.nanos)
      _ ≤ now.nanos + (d.nanos - now.nanos) := Nat.add_le_add_left (Nat.min_le_right ..) _
      _ = d.nanos := by omega

end Wait

/-- The exit code of a command and what it leaves, if it ends or is stopped, and its pipes are closed
then. -/
def Child.comesTo (c : Child σ) (deadline : Option Duration) : Option (Int × Remains σ) :=
  match endedBy c.ending deadline with
  | some e => c.remains.map (e.code, ·)
  | none => deadline.bind fun d => (c.killed d).map (exitTimeout, ·)

/-- The result that shows what a command comes to. -/
def resultOf (args : List String) (x : Int × Remains σ) : Result :=
  ⟨args, x.1, x.2.output, x.2.errors, none, []⟩

theorem ends_collect (args : List String) (code : Int) (left : Option (Remains σ)) (s : Session σ) :
    Ends (collect args code left) s
      (fun r _ => ∃ x, left.map (code, ·) = some x ∧ r = resultOf args x)
      (fun e _ => e = .endless ∧ left.map (code, ·) = none) := by
  cases left with
  | none => exact ⟨rfl, rfl⟩
  | some m => exact ⟨(code, m), rfl, rfl⟩

theorem Child.ends_await (c : Child σ) (i : Invocation) (program : String)
    {deadline : Option Duration} {s : Session σ}
    (hnow : ∀ d, deadline = some d → s.clock.nanos ≤ d.nanos) :
    Ends (c.await i program deadline) s
      (fun r _ => ∃ x, c.comesTo deadline = some x ∧ r = resultOf i.args x)
      (fun e _ => e = .endless ∧ c.comesTo deadline = none) := by
  have hclock : Ends (Action.now : Action σ Duration) s (fun d t => d = s.clock ∧ t = s)
      (fun e _ => e = .endless ∧ c.comesTo deadline = none) := ⟨rfl, rfl⟩
  unfold await
  apply hclock.bind
  rintro _ _ ⟨rfl, rfl⟩
  obtain ⟨hending, rfl, hwait⟩ | ⟨moment, hwait, hlate⟩ := waitUntil_cases hnow
  · rw [hwait]
    exact ⟨rfl, by simp [comesTo, hending, endedBy]⟩
  rw [hwait]
  cases hended : endedBy c.ending deadline with
  | some e =>
    have hcomes : c.comesTo deadline = c.remains.map (e.code, ·) := by simp [comesTo, hended]
    rw [hcomes]
    cases e with
    | exited code => exact ends_collect ..
    | signal => exact ends_collect ..
    | lost reason => exact ends_collect ..
  | none =>
    obtain rfl := hlate hended
    have hcomes : c.comesTo (some moment) = (c.killed moment).map (exitTimeout, ·) := by
      simp [comesTo, hended]
    rw [hcomes]
    dsimp only
    cases c.killError moment with
    | none => exact ends_collect ..
    | some reason => exact ends_collect ..

section Run

variable (start : Starter σ) (i : Invocation) (s : Session σ)

/-- The moment when the time of a command is up that is run now. -/
def deadlineOf : Option Duration :=
  i.timeout.map fun d => ⟨s.clock.nanos + d.nanos⟩

/-- The command can be started, but the clock does not reach the moment when its time is up. -/
def Overlong : Prop :=
  i.args ≠ [] ∧ (∃ c, start i.args i.input s = .ok c) ∧
    ∃ d, i.timeout = some d ∧ Action.clockLimit ≤ s.clock.nanos + d.nanos

/-- The command can be started, but neither ends nor is stopped, or its pipes are never closed. -/
def Endless : Prop :=
  i.args ≠ [] ∧ ∃ c, start i.args i.input s = .ok c ∧ c.comesTo (deadlineOf i s) = none

/-- The result of a command tells of what went wrong by its exit code. -/
inductive Reported : Result → Prop where
  | nothingGiven : i.args = [] → Reported ⟨i.args, exitFailed, [], [], none, []⟩
  | notStarted {reason : String} : i.args ≠ [] → start i.args i.input s = .error reason →
      Reported ⟨i.args, exitFailed, [], Utf8.encode reason, none, []⟩
  | ended {c : Child σ} {x : Int × Remains σ} : i.args ≠ [] → start i.args i.input s = .ok c →
      c.comesTo (deadlineOf i s) = some x → Reported (resultOf i.args x)

variable {start i s}

theorem Reported.response_eq {r : Result} (h : Reported start i s r) : r.response = none := by
  cases h <;> rfl

section Started

variable {c : Child σ} (hargs : i.args ≠ []) (hc : start i.args i.input s = .ok c)
include hargs hc

theorem overlong_iff_of_start : Overlong start i s ↔
    ∃ d, i.timeout = some d ∧ Action.clockLimit ≤ s.clock.nanos + d.nanos :=
  ⟨fun h => h.2.2, fun h => ⟨hargs, ⟨c, hc⟩, h⟩⟩

theorem endless_iff_of_start : Endless start i s ↔ c.comesTo (deadlineOf i s) = none := by
  constructor
  · rintro ⟨-, c', hc', h⟩
    obtain rfl := Except.ok.inj (hc'.symm.trans hc)
    exact h
  · exact fun h => ⟨hargs, c, hc, h⟩

end Started

variable (start i s)

theorem ends_run : Ends (run start i) s
    (fun r _ => Reported start i s r ∧ ¬ Overlong start i s ∧ ¬ Endless start i s)
    (fun e _ => e = .clockOverflow ∧ Overlong start i s ∨
      e = .endless ∧ ¬ Overlong start i s ∧ Endless start i s) := by
  unfold run
  rw [ends_bind, ends_get, ends_bind, Action.ends_tell]
  split
  · next hnil => exact ⟨.nothingGiven hnil, fun h => h.1 hnil, fun h => h.1 hnil⟩
  next program args hargs =>
  have hsome : i.args ≠ [] := by
    rw [hargs]
    exact nofun
  split
  · next reason hstart =>
    have hnot : ∀ c, start i.args i.input s ≠ .ok c := by
      rw [hstart]
      exact nofun
    exact ⟨.notStarted hsome hstart, fun h => h.2.1.elim hnot, fun h => hnot _ h.2.choose_spec.1⟩
  · next c hstart =>
    rw [overlong_iff_of_start hsome hstart, endless_iff_of_start hsome hstart]
    apply ((Action.ends_mapM_deadline i.timeout _).mono (fun _ _ h => h)
      fun _ _ h => .inl h).bind
    rintro _ _ ⟨rfl, rfl, hover⟩
    apply (c.ends_await i program _).mono
    · rintro _ _ ⟨x, hx, rfl⟩
      refine ⟨.ended hsome hstart hx, hover, ?_⟩
      rw [show c.comesTo (deadlineOf i s) = some x from hx]
      exact nofun
    · exact fun _ _ h => .inr ⟨h.1, hover, h.2⟩
    · intro d hd
      obtain ⟨t, -, rfl⟩ := Option.map_eq_some_iff.mp hd
      exact Nat.le_add_right ..

/-- A command has a result, unless it is to be stopped at a moment that the clock does not reach, or
the wait for it has no end. -/
theorem run_cases :
    (¬ Overlong start i s ∧ ¬ Endless start i s ∧
        ∃ r t, (run start i).run.run s = (.ok r, t) ∧ Reported start i s r) ∨
      (Overlong start i s ∧ ∃ t, (run start i).run.run s = (.error .clockOverflow, t)) ∨
      ¬ Overlong start i s ∧ Endless start i s ∧
        ∃ t, (run start i).run.run s = (.error .endless, t) := by
  obtain ⟨r, t, hr, h, hover, hend⟩ | ⟨_, t, hr, ⟨rfl, hover⟩ | ⟨rfl, hover, hend⟩⟩ :=
    (ends_run start i s).exists_run_or
  · exact .inl ⟨hover, hend, r, t, hr, h⟩
  · exact .inr (.inl ⟨hover, t, hr⟩)
  · exact .inr (.inr ⟨hover, hend, t, hr⟩)

end Run

/-- The pipes of commands are closed at some moment after they have ended or their group was to be
killed. -/
structure Starter.Releases (start : Starter σ) : Prop where
  ended : ∀ {args input s c}, start args input s = .ok c → c.ending.isSome → c.remains.isSome
  killed : ∀ {args input s c}, start args input s = .ok c → ∀ moment, (c.killed moment).isSome

/-- The wait for a command with a time limit has an end. -/
theorem Starter.Releases.not_endless {start : Starter σ} (h : start.Releases) {i : Invocation}
    (hlimit : i.timeout.isSome) (s : Session σ) : ¬ Endless start i s := by
  rintro ⟨-, c, hc, hcomes⟩
  obtain ⟨d, hd⟩ := Option.isSome_iff_exists.mp hlimit
  unfold Child.comesTo at hcomes
  cases hended : endedBy c.ending (deadlineOf i s) with
  | some e =>
    have hending : c.ending.isSome := by
      cases hnone : c.ending with
      | some _ => rfl
      | none => simp [endedBy, hnone] at hended
    obtain ⟨m, hm⟩ := Option.isSome_iff_exists.mp (h.ended hc hending)
    rw [hended] at hcomes
    simp [hm] at hcomes
  | none =>
    obtain ⟨m, hm⟩ := Option.isSome_iff_exists.mp (h.killed hc ⟨s.clock.nanos + d.nanos⟩)
    rw [hended] at hcomes
    simp [deadlineOf, hd, hm] at hcomes

end Command

end WebTestbed
