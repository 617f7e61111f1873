import ObjectLookup.Session

/-! # Laws of actions

How an action runs on a given state: a sequence stops at the first failure, and the state that a
failure leaves stays.

Two notions are built up along the same shapes. An action keeps a property of states if it leads
from states with the property to such states again (`Act.Keeps`). Two actions, perhaps on different
kinds of state, are alike if from related states they lead to related states and to results that
agree (`Act.Alike`).
-/

namespace ObjectLookup

/-- Results agree if they are related values, or the same failure. -/
inductive Agree {α β : Type} (R : α → β → Prop) : Except Failure α → Except Failure β → Prop where
  | ok {x : α} {y : β} (h : R x y) : Agree R (.ok x) (.ok y)
  | error (e : Failure) : Agree R (.error e) (.error e)

theorem Agree.eq {α : Type} {x y : Except Failure α} (h : Agree Eq x y) : x = y := by
  cases h with
  | ok h => rw [h]
  | error e => rfl

theorem Agree.of_eq {α : Type} {x y : Except Failure α} (h : x = y) : Agree Eq x y := by
  subst h
  rcases x with e | x
  · exact .error e
  · exact .ok rfl

theorem Agree.cases {α β : Type} {R : α → β → Prop} {x : Except Failure α} {y : Except Failure β}
    (h : Agree R x y) :
    (∃ e, x = .error e ∧ y = .error e) ∨ ∃ a b, x = .ok a ∧ y = .ok b ∧ R a b := by
  cases h with
  | ok h => exact .inr ⟨_, _, rfl, rfl, h⟩
  | error e => exact .inl ⟨e, rfl, rfl⟩

theorem Agree.map {α β γ δ : Type} {R : α → β → Prop} {Q : γ → δ → Prop} {f : α → γ} {g : β → δ}
    (hfg : ∀ x y, R x y → Q (f x) (g y)) {x : Except Failure α} {y : Except Failure β}
    (h : Agree R x y) : Agree Q (x.map f) (y.map g) := by
  cases h with
  | ok h => exact .ok (hfg _ _ h)
  | error e => exact .error e

theorem optionRel_cases {α β : Type} {R : α → β → Prop} {x : Option α} {y : Option β}
    (h : Option.Rel R x y) :
    (x = none ∧ y = none) ∨ ∃ a b, x = some a ∧ y = some b ∧ R a b := by
  cases h with
  | some h => exact .inr ⟨_, _, rfl, rfl, h⟩
  | none => exact .inl ⟨rfl, rfl⟩

theorem optionRel_refl {α : Type} {R : α → α → Prop} (h : ∀ x, R x x) (o : Option α) :
    Option.Rel R o o := by
  cases o with
  | none => exact .none
  | some x => exact .some (h x)

namespace Act

variable {σ τ α β γ δ : Type}

/-! ## Runs -/

theorem bind_apply (a : Act σ α) (k : α → Act σ β) (o : σ) :
    (a >>= k) o = match a o with
      | (.ok x, o) => k x o
      | (.error e, o) => (.error e, o) := by
  change ExceptT.bind a k o = _
  rcases h : a o with ⟨e | x, o'⟩
  · simp only [ExceptT.bind, ExceptT.mk, bind, StateT.bind, h, ExceptT.bindCont]
    rfl
  · simp only [ExceptT.bind, ExceptT.mk, bind, StateT.bind, h, ExceptT.bindCont]

/-! ## Keeping a property of the state -/

/-- The action leads from states with the property to such states. -/
def Keeps (I : σ → Prop) (a : Act σ α) : Prop := ∀ o, I o → I (a o).2

namespace Keeps

variable {I : σ → Prop}

theorem bind {a : Act σ α} {k : α → Act σ β} (ha : Keeps I a) (hk : ∀ x, Keeps I (k x)) :
    Keeps I (a >>= k) := by
  intro o ho
  have ho' : I (a o).2 := ha o ho
  rw [bind_apply]
  rcases h : a o with ⟨e | x, o'⟩ <;> rw [h] at ho'
  · exact ho'
  · exact hk x o' ho'

theorem pure (x : α) : Keeps I (pure x : Act σ α) := fun _ ho ↦ ho

theorem throw (e : Failure) : Keeps I (throw e : Act σ α) := fun _ ho ↦ ho

theorem modify {f : σ → σ} (hf : ∀ o, I o → I (f o)) : Keeps I (modify f : Act σ PUnit) := hf

end Keeps

/-! ## Alike actions -/

/-- From related states the actions lead to related states, and to results that agree. -/
def Alike (S : σ → τ → Prop) (R : α → β → Prop) (a : Act σ α) (b : Act τ β) : Prop :=
  ∀ o p, S o p → Agree R (a o).1 (b p).1 ∧ S (a o).2 (b p).2

namespace Alike

variable {S : σ → τ → Prop} {R : α → β → Prop} {Q : γ → δ → Prop}

/-- From equal states an action leads to equal ones. -/
theorem refl {R : α → α → Prop} (h : ∀ x, R x x) (a : Act σ α) : Alike Eq R a a := by
  rintro o _ rfl
  refine ⟨?_, rfl⟩
  rcases (a o).1 with e | x
  · exact .error e
  · exact .ok (h x)

theorem bind {a : Act σ α} {b : Act τ β} {k : α → Act σ γ} {m : β → Act τ δ}
    (h : Alike S R a b) (hk : ∀ x y, R x y → Alike S Q (k x) (m y)) :
    Alike S Q (a >>= k) (b >>= m) := by
  intro o p hop
  obtain ⟨hagree, hstate⟩ := h o p hop
  rw [bind_apply, bind_apply]
  rcases ha : a o with ⟨x, o'⟩
  rcases hb : b p with ⟨y, p'⟩
  rw [ha, hb] at hagree hstate
  cases hagree with
  | ok hxy => exact hk _ _ hxy o' p' hstate
  | error e => exact ⟨.error e, hstate⟩

theorem pure {x : α} {y : β} (h : R x y) : Alike S R (pure x : Act σ α) (pure y : Act τ β) :=
  fun _ _ hop ↦ ⟨.ok h, hop⟩

theorem throw (e : Failure) : Alike S R (throw e : Act σ α) (throw e : Act τ β) :=
  fun _ _ hop ↦ ⟨.error e, hop⟩

/-- Programs that fail under the same condition and go on alike otherwise. -/
theorem guard {c : Prop} [Decidable c] {e : Failure} {k : PUnit → Act σ α} {m : PUnit → Act τ β}
    (h : ∀ u, Alike S R (k u) (m u)) :
    Alike S R (if c then MonadExcept.throw e >>= k else k ⟨⟩)
      (if c then MonadExcept.throw e >>= m else m ⟨⟩) := by
  by_cases hc : c
  · simp only [hc, if_true]
    exact (throw (R := Eq) e).bind fun u _ hu ↦ hu ▸ h u
  · simp only [hc, if_false]
    exact h ⟨⟩

theorem modify {f : σ → σ} {g : τ → τ} (h : ∀ o p, S o p → S (f o) (g p)) :
    Alike S Eq (modify f : Act σ PUnit) (modify g : Act τ PUnit) :=
  fun o p hop ↦ ⟨.ok rfl, h o p hop⟩

end Alike

end Act

end ObjectLookup
