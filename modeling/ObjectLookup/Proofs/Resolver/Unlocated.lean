import ObjectLookup.Proofs.Resolver.Course
import ObjectLookup.Proofs.Resolver.Transparency

/-! # Where no location is found

A question that turns to storage leaves the location that it turns there for (`resolved_ask_of_ok`),
and a location stays (`resolved_askAll`). So if resolvers end up without a location, none of the
questions to them has turned to storage: nothing was requested, and the client was not built
(`idle_askAll`).
-/

namespace ObjectLookup.Resolver

variable {σ ι : Type} [DecidableEq ι] {host : Host σ} {r : Resolver σ} {rs : ι → Resolver σ}
  {q : Question} {s : Session σ}

/-- A question that leaves no location has not turned to storage. -/
theorem sought?_eq_none_of_unresolved (h : (r.ask host q s).self.resolved = none) :
    r.sought? host q s = none := by
  rcases hs : r.sought? host q s with _ | ⟨l, t⟩
  · rfl
  · obtain ⟨hw, hl, _⟩ := sought?_eq_some.1 hs
    rw [resolved_ask_of_ok (.inr hw) hl] at h
    cases h

/-- A location that a resolver has found is there at the end of the run. -/
theorem resolved_askAll (host : Host σ) {i : ι} {l : Location} (hl : (rs i).resolved = some l)
    (s : Session σ) (calls : List (ι × Question)) :
    ((askAll host rs s calls).1 i).resolved = some l := by
  induction calls generalizing rs s with
  | nil => exact hl
  | cons call calls ih =>
      obtain ⟨j, q⟩ := call
      apply ih
      by_cases hj : i = j
      · subst hj
        rw [Function.update_self]
        exact resolved_ask hl q s
      · rw [Function.update_of_ne hj]
        exact hl

/-- Where no resolver has found a location, nothing was requested, and what there is of a client is
what there was. -/
theorem idle_askAll (host : Host σ) (rs : ι → Resolver σ) (s : Session σ)
    (calls : List (ι × Question)) (h : ∀ i, ((askAll host rs s calls).1 i).resolved = none) :
    (askAll host rs s calls).2.client = s.client ∧ (askAll host rs s calls).2.built = s.built ∧
      (askAll host rs s calls).2.requests = s.requests := by
  induction calls generalizing rs s with
  | nil => exact ⟨rfl, rfl, rfl⟩
  | cons call calls ih =>
      obtain ⟨i, q⟩ := call
      have hfirst : ((rs i).ask host q s).self.resolved = none := by
        rcases hl : ((rs i).ask host q s).self.resolved with _ | l
        · rfl
        · have hself : (Function.update rs i ((rs i).ask host q s).self i).resolved = some l := by
            rw [Function.update_self]
            exact hl
          cases (resolved_askAll host hself _ calls).symm.trans (h i)
      obtain ⟨hclient, hbuilt, hrequests⟩ :=
        idle_of_sought?_eq_none (sought?_eq_none_of_unresolved hfirst)
      obtain ⟨hclient', hbuilt', hrequests'⟩ := ih _ _ h
      exact ⟨hclient'.trans hclient, hbuilt'.trans hbuilt, hrequests'.trans hrequests⟩

end ObjectLookup.Resolver
