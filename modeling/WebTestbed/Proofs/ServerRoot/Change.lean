import WebTestbed.ServerRoot.Basic

/-! Changes of files that are successful. -/
namespace WebTestbed.Change

variable {α β : Type} {t u v : FileTree} {a : α} {b : β}

/-- The change is successful: it gives the value, and makes one tree of the other. -/
def Leads (x : Change α) (t : FileTree) (a : α) (u : FileTree) : Prop :=
  x.run.run t = (.ok a, u)

theorem leads_of_run {x : Change Unit} (h : (x.run.run t).1 = .ok ()) :
    x.Leads t () (x.run.run t).2 :=
  Prod.ext h rfl

@[simp] theorem leads_pure {a' : α} : Leads (pure a' : Change α) t a u ↔ a = a' ∧ u = t := by
  change (Except.ok a', t) = (Except.ok a, u) ↔ _
  simp [eq_comm]

@[simp] theorem not_leads_throw {e : SetupError} : ¬ Leads (throw e : Change α) t a u := by
  intro h
  exact nomatch (Prod.mk.inj h).1

@[simp] theorem leads_get : Leads (get : Change FileTree) t u v ↔ u = t ∧ v = t := by
  change (Except.ok t, t) = (Except.ok u, v) ↔ _
  simp [eq_comm]

theorem run_bind_of_leads {a : α} {x : Change α} (h : x.Leads t a u) (k : α → Change β) :
    (x >>= k).run.run t = (k a).run.run u := by
  rw [ExceptT.run_bind, StateT.run_bind, h]
  rfl

@[simp] theorem leads_bind {x : Change α} {f : α → Change β} :
    (x >>= f).Leads t b v ↔ ∃ a u, x.Leads t a u ∧ (f a).Leads u b v := by
  unfold Leads
  rw [ExceptT.run_bind, StateT.run_bind]
  obtain ⟨e | a, u⟩ := x.run.run t
  · constructor
    · intro h
      exact nomatch (Prod.mk.inj h).1
    · rintro ⟨a, u, h, -⟩
      exact nomatch (Prod.mk.inj h).1
  · constructor
    · intro h
      exact ⟨a, u, rfl, h⟩
    · rintro ⟨a, u, h, h'⟩
      cases h
      exact h'

theorem leads_get_bind {f : FileTree → Change α} :
    (get >>= f).Leads t a u ↔ (f t).Leads t a u := by
  rw [leads_bind]
  constructor
  · rintro ⟨t', v, ht, h⟩
    obtain ⟨rfl, rfl⟩ := leads_get.mp ht
    exact h
  · intro h
    exact ⟨t, t, leads_get.mpr ⟨rfl, rfl⟩, h⟩

@[simp] theorem leads_ofFiles {f : FileTree → Except FileError FileTree} {r : Unit} :
    (ofFiles f).Leads t r u ↔ f t = .ok u := by
  have hset : ∀ v, Leads (set v : Change Unit) t r u ↔ v = u := by
    intro v
    change (Except.ok (), v) = (Except.ok (), u) ↔ _
    simp
  unfold ofFiles
  rw [leads_get_bind]
  cases f t <;> simp [hset]

@[simp] theorem leads_ofRead {f : FileTree → Except FileError α} :
    (ofRead f).Leads t a u ↔ f t = .ok a ∧ u = t := by
  unfold ofRead
  rw [leads_get_bind]
  cases f t <;> simp [eq_comm]

theorem leads_ite {c : Prop} [Decidable c] {x y : Change α} :
    (if c then x else y).Leads t a u ↔ if c then x.Leads t a u else y.Leads t a u := by
  split <;> rfl

@[simp] theorem leads_forM_nil {f : α → Change Unit} {r : Unit} :
    (([] : List α).forM f).Leads t r u ↔ u = t := by
  change Leads (pure ()) t r u ↔ _
  simp

@[simp] theorem leads_forM_cons {f : α → Change Unit} {l : List α} {r : Unit} :
    ((a :: l).forM f).Leads t r v ↔ ∃ u, (f a).Leads t () u ∧ (l.forM f).Leads u r v := by
  change Leads (f a >>= fun _ => l.forM f) t r v ↔ _
  rw [leads_bind]
  constructor
  · rintro ⟨_, u, ha, hl⟩
    exact ⟨u, ha, hl⟩
  · rintro ⟨u, ha, hl⟩
    exact ⟨(), u, ha, hl⟩

end WebTestbed.Change
