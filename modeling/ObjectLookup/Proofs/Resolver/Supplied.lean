import ObjectLookup.Application
import ObjectLookup.Proofs.Resolver.Memory
import ObjectLookup.Proofs.Session.Matching

/-! # A delegate that is supplied, and one that is loaded

An application loads the delegate before it makes a resolver, and supplies it. A resolver that is
made from settings alone loads the delegate when it first looks up. The two come to the same
(`Step.Mirrors`): they find the same, remember the same but for the delegate that was supplied, and
leave matching sessions behind.

Only the first lookup has to be compared by its steps. From then on a resolver has a location or a
failure in memory, and is never in need of a strategy again (`mirrors_location_of_settled`).
-/

namespace ObjectLookup

variable {σ α : Type}

/-- The steps come to the same, but for the delegate that was supplied. -/
structure Step.Mirrors (x y : Step (Resolver σ) σ α) : Prop where
  result : x.result = y.result
  self : ∃ d, x.self = { y.self with delegate := d }
  session : x.session.Matches y.session

theorem Step.Mirrors.refl (x : Step (Resolver σ) σ α) : x.Mirrors x :=
  ⟨rfl, ⟨_, rfl⟩, .refl _⟩

namespace Resolver

variable {host : Host σ} {q r : Resolver σ} {s t : Session σ}

/-! ## The first lookup -/

/-- A resolver with the delegate supplied selects the strategy that one without it selects. -/
theorem getStrategy_supplied (hs : Selector.ofSettings? r.settings = some .dynamic)
    (hst : r.strategy = none) (hd : r.delegate = none) {d : Delegate σ} {s' : Session σ}
    (hload : Delegate.load host.importer r.settings s = (d, s')) :
    ∃ st s₁ t₁, { r with delegate := some d }.getStrategy host s' = (.ok st, s₁) ∧
      r.getStrategy host s = (.ok st, t₁) ∧ s₁.Matches t₁ := by
  obtain ⟨d', s'', t', hs', ht', h⟩ := Delegate.isBlind_load host.importer r.settings s
    (s.record .selected) (Session.Matches.refl s).selected
  rw [hload] at hs'
  cases hs'
  refine ⟨.dynamic d r.settings.bucketName, s'.record .selected, t', ?_, ?_, ?_⟩
  · simp only [getStrategy, hst, Strategy.select, hs]
  · simp only [getStrategy, hst, hd, Strategy.select, hs, ht']
  · exact (h.symm.selected).symm

/-- Resolvers that select the same strategy in matching sessions find the same location. -/
theorem mirrors_resolve {d : Option (Delegate σ)} {st : Strategy σ} {s₁ t₁ : Session σ}
    (hq : { r with delegate := d }.getStrategy host s = (.ok st, s₁))
    (hr : r.getStrategy host t = (.ok st, t₁)) (h : s₁.Matches t₁) :
    ({ r with delegate := d }.resolve host s).Mirrors (r.resolve host t) := by
  obtain ⟨x, s₂, t₂, hs, ht, h'⟩ :=
    st.isBlind_resolve r.identifier r.context _ _ (h.record .consulted)
  rcases x with e | l <;> simp only [resolve, hq, hr, hs, ht]
  · exact ⟨rfl, ⟨d, rfl⟩, h'⟩
  · exact ⟨rfl, ⟨d, rfl⟩, h'.log _ _ _⟩

/-- The resolver that an application makes finds the location that one of the settings alone
finds. -/
theorem mirrors_location_resolverFor {settings : Settings} {identifier : Identifier}
    {context : Context} {a : Application σ} {s' : Session σ}
    (h : Application.resolverFor host.importer { settings } identifier context s = (q, a, s')) :
    (q.location host s').Mirrors
      (({ identifier, settings, context } : Resolver σ).location host s) := by
  rcases hs : Selector.ofSettings? settings with _ | _ | _
  · simp only [Application.resolverFor, hs] at h
    cases h
    exact .refl _
  · simp only [Application.resolverFor, hs] at h
    cases h
    exact .refl _
  · rcases hload : Delegate.load host.importer settings s with ⟨d, s'⟩
    simp only [Application.resolverFor, Application.getDelegate, hs, hload] at h
    cases h
    let direct : Resolver σ := { identifier, settings, context }
    obtain ⟨st, s₁, t₁, hq, hr, hst⟩ := getStrategy_supplied (r := direct) hs rfl rfl hload
    rw [location_of_unresolved rfl rfl, location_of_unresolved rfl rfl]
    exact mirrors_resolve (r := direct) hq hr hst

/-! ## Afterwards -/

/-- The resolver has a location or a failure in memory. -/
def IsSettled (r : Resolver σ) : Prop := r.failure.isSome ∨ r.resolved.isSome

theorem isSettled_fetch (host : Host σ) (r : Resolver σ) (s : Session σ) :
    (r.fetch host s).self.IsSettled := by
  rcases h : (r.fetch host s).result with e | k
  · exact .inl (by rw [failure_fetch, h]; rfl)
  · obtain ⟨l, _, hl⟩ := resolved_fetch h
    exact .inr (by rw [hl]; rfl)

/-- A resolver that has found its location or has failed does not go by its delegate any more. -/
theorem mirrors_location_of_settled (host : Host σ) (hr : r.IsSettled) (h : s.Matches t)
    (d : Option (Delegate σ)) :
    ({ r with delegate := d }.location host s).Mirrors (r.location host t) := by
  rcases location_cases host r t with ⟨e, hf, hx⟩ | ⟨l, hf, hl, hx⟩ | ⟨hf, hl, _⟩
  · rw [hx, location_of_failure (r := { r with delegate := d }) hf]
    exact ⟨rfl, ⟨d, rfl⟩, h⟩
  · rw [hx, location_of_resolved (r := { r with delegate := d }) hf hl]
    exact ⟨rfl, ⟨d, rfl⟩, h⟩
  · simp [IsSettled, hf, hl] at hr

theorem mirrors_fetch (h : (q.location host s).Mirrors (r.location host t)) :
    (q.fetch host s).Mirrors (r.fetch host t) := by
  obtain ⟨hresult, ⟨d, hself⟩, hsession⟩ := h
  rcases hl : (r.location host t).result with e | l
  · simp only [fetch, hresult, hl]
    exact ⟨rfl, ⟨d, hself⟩, hsession⟩
  · obtain ⟨x, s₁, t₁, hs, ht, h'⟩ := isBlind_request host l _ _ hsession
    rcases x with e | k <;> simp only [fetch, hresult, hl, hs, ht, hself]
    · exact ⟨rfl, ⟨d, rfl⟩, h'⟩
    · exact ⟨rfl, ⟨d, rfl⟩, h'⟩

theorem mirrors_checkAccess (h : (q.fetch host s).Mirrors (r.fetch host t)) :
    (q.checkAccess host s).Mirrors (r.checkAccess host t) := by
  obtain ⟨hresult, hself, hsession⟩ := h
  rcases hk : (r.fetch host t).result with e | k
  · simp only [checkAccess, hresult, hk]
    exact ⟨rfl, hself, hsession⟩
  · obtain ⟨x, s₁, t₁, hs, ht, h'⟩ := IsBlind.perform k.close _ _ hsession
    simp only [checkAccess, hresult, hk, hs, ht]
    exact ⟨rfl, hself, h'⟩

theorem mirrors_formatOfHandle (host : Host σ) (hr : r.IsSettled) (h : s.Matches t)
    (d : Option (Delegate σ)) (k : Handle σ) :
    ({ r with delegate := d }.formatOfHandle host k s).Mirrors (r.formatOfHandle host k t) := by
  obtain ⟨x, s₁, t₁, hs₁, ht₁, h₁⟩ := isBlind_takeContentType k s t h
  rcases x with e | contentType
  · simp only [formatOfHandle, hs₁, ht₁]
    exact ⟨rfl, ⟨d, rfl⟩, h₁⟩
  · obtain ⟨f, s₂, t₂, hs₂, ht₂, h₂⟩ := isBlind_formatOfType r.identifier contentType s₁ t₁ h₁
    obtain ⟨hresult, hself, hsession⟩ := mirrors_location_of_settled host hr h₂ d
    simp only [formatOfHandle, hs₁, ht₁, hs₂, ht₂]
    split
    · exact ⟨rfl, ⟨d, rfl⟩, h₂⟩
    · split
      · exact ⟨rfl, ⟨d, rfl⟩, h₂⟩
      · exact ⟨by rw [hresult], hself, hsession⟩

theorem mirrors_resolveFormat (hq : q.recognised = none) (hr : r.recognised = none)
    (h : (q.fetch host s).Mirrors (r.fetch host t)) :
    (q.resolveFormat host s).Mirrors (r.resolveFormat host t) := by
  obtain ⟨hresult, ⟨d, hself⟩, hsession⟩ := h
  rcases hk : (r.fetch host t).result with e | k
  · simp only [resolveFormat, hq, hr, hresult, hk]
    exact ⟨rfl, ⟨d, hself⟩, hsession⟩
  · obtain ⟨hresult', ⟨d', hself'⟩, hsession'⟩ :=
      mirrors_formatOfHandle host (isSettled_fetch host r t) hsession d k
    simp only [resolveFormat, hq, hr, hresult, hk, hself]
    rcases hf : ((r.fetch host t).self.formatOfHandle host k (r.fetch host t).session).result
      with e | f <;> simp only [hresult', hf]
    · exact ⟨rfl, ⟨d', hself'⟩, hsession'⟩
    · exact ⟨rfl, ⟨d', by rw [hself']⟩, hsession'⟩

end Resolver

end ObjectLookup
