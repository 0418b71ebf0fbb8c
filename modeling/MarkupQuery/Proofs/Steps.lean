/-!
# Steps that may fail

What one step after the other comes to, where any of them may fail.
-/

namespace MarkupQuery

variable {α β ε σ : Type}

theorem bind_eq_ok_iff {x : Except ε α} {f : α → Except ε β} {b : β} :
    (x >>= f) = .ok b ↔ ∃ a, x = .ok a ∧ f a = .ok b := by
  cases x with
  | error e => simp [bind, Except.bind]
  | ok a => simp [bind, Except.bind]

theorem bind_eq_error_iff {x : Except ε α} {f : α → Except ε β} {e : ε} :
    (x >>= f) = .error e ↔ x = .error e ∨ ∃ a, x = .ok a ∧ f a = .error e := by
  cases x with
  | error e => simp [bind, Except.bind]
  | ok a => simp [bind, Except.bind]

theorem bind_ne_error {x : Except ε α} {f : α → Except ε β} {e : ε} (hx : x ≠ .error e)
    (hf : ∀ a, f a ≠ .error e) : x >>= f ≠ .error e := fun h =>
  (bind_eq_error_iff.mp h).elim hx fun ⟨a, _, ha⟩ => hf a ha

/-- That a step ends in a certain failure is decided without comparing what it might have come to. -/
instance decidableEqError [DecidableEq ε] (x : Except ε α) (e : ε) : Decidable (x = .error e) :=
  match x with
  | .ok _ => .isFalse fun h => by cases h
  | .error f => decidable_of_iff (f = e) ⟨congrArg Except.error, Except.error.inj⟩

/-- That a step comes to a certain answer is decided without comparing failures. -/
instance decidableEqOk [DecidableEq α] (x : Except ε α) (a : α) : Decidable (x = .ok a) :=
  match x with
  | .ok b => decidable_of_iff (b = a) ⟨congrArg Except.ok, Except.ok.inj⟩
  | .error _ => .isFalse fun h => by cases h

theorem map_eq_ok_iff {x : Except ε α} {f : α → β} {b : β} :
    x.map f = .ok b ↔ ∃ a, x = .ok a ∧ f a = b := by
  cases x with
  | error e => simp [Except.map]
  | ok a => simp [Except.map]

/-- What follows a step starts from the state that it leaves, and is skipped when it fails. -/
theorem run_bind (x : ExceptT ε (StateM σ) α) (f : α → ExceptT ε (StateM σ) β) (s : σ) :
    (x >>= f).run s = match x.run s with
      | (.ok a, t) => (f a).run t
      | (.error e, t) => (.error e, t) := by
  show ExceptT.bindCont f (x.run s).1 (x.run s).2 = _
  rcases x.run s with ⟨_ | _, _⟩ <;> rfl

section Runs

variable {x : ExceptT ε (StateM σ) α} {f : α → ExceptT ε (StateM σ) β} {s t : σ} {a : α} {e : ε}

theorem run_bind_of_ok (h : x.run s = (.ok a, t)) : (x >>= f).run s = (f a).run t := by
  rw [run_bind, h]

theorem run_bind_of_error (h : x.run s = (.error e, t)) : (x >>= f).run s = (.error e, t) := by
  rw [run_bind, h]

/-- Two steps succeed when both do. -/
theorem run_bind_eq_ok {b : β} (h : (x >>= f).run s = (.ok b, t)) :
    ∃ a u, x.run s = (.ok a, u) ∧ (f a).run u = (.ok b, t) := by
  rw [run_bind] at h
  rcases hx : x.run s with ⟨_ | a, u⟩
  · rw [hx] at h
    cases h
  · rw [hx] at h
    exact ⟨a, u, rfl, h⟩

/-- Two steps fail when the first does, or else the second does. -/
theorem run_bind_eq_error (h : ((x >>= f).run s).1 = .error e) :
    (x.run s).1 = .error e ∨ ∃ a t, x.run s = (.ok a, t) ∧ ((f a).run t).1 = .error e := by
  rw [run_bind] at h
  rcases hx : x.run s with ⟨_ | a, t⟩
  · rw [hx] at h
    exact Or.inl (congrArg Except.error (Except.error.inj h))
  · rw [hx] at h
    exact Or.inr ⟨a, t, rfl, h⟩

end Runs

/-- Steps none of which fails in a certain way do not fail so together. -/
theorem foldlM_ne_error {f : β → α → Except ε β} {e : ε} (step : ∀ b a, f b a ≠ .error e)
    {l : List α} {b : β} : l.foldlM f b ≠ .error e := by
  induction l generalizing b with
  | nil => exact nofun
  | cons a l ih =>
    rw [List.foldlM_cons]
    exact bind_ne_error (step b a) fun _ => ih

/-- Steps that go as others do where those go at all lead where the others lead. -/
theorem foldlM_eq_ok_of_step {f g : β → α → Except ε β}
    (step : ∀ b a c, f b a = .ok c → g b a = .ok c) {l : List α} {b c : β}
    (h : l.foldlM f b = .ok c) : l.foldlM g b = .ok c := by
  induction l generalizing b with
  | nil => exact h
  | cons a l ih =>
    rw [List.foldlM_cons] at h ⊢
    obtain ⟨mid, hmid, h⟩ := bind_eq_ok_iff.mp h
    rw [step b a mid hmid]
    exact ih h

end MarkupQuery
