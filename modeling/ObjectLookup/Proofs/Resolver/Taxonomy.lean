import ObjectLookup.Proofs.Resolver.Failure

/-! # Failures of a resolver that selects its strategy

A failure is of the taxonomy if its fault is one of the six classes, under the name of that class: a
fault of another name may still be caught as one of them. A strategy from outside may fail with any
fault. The strategies that settings select fail with genuine faults alone, whatever their delegate
does: each is of the taxonomy or is caught as nothing of it, such as the one of an integer that
cannot be written. A resolver reports the latter by a fault of the taxonomy. So one that selects its
strategy fails with faults of the taxonomy, except for what its handle fails with
(`isOfTaxonomy_checkAccess`, `isOfTaxonomy_resolveFormat`).
-/

namespace ObjectLookup

variable {σ : Type}

/-- The fault is of one of the six classes. -/
def Failure.IsOfTaxonomy (e : Failure) : Prop := ∃ k text, e.fault = .ofKind k text

/-- If the fault is caught as one of the six classes, it is of that class. -/
def Failure.IsGenuine (e : Failure) : Prop := e.kind? = none ∨ e.IsOfTaxonomy

/-! ## Strategies that settings select -/

namespace Strategy

/-- The settings select no strategy, or the direct one, or the dynamic one. -/
theorem select_cases (importer : Importer σ) (settings : Settings)
    (delegate : Option (Delegate σ)) (s : Session σ) :
    (Selector.ofSettings? settings = none ∧
      (select importer settings delegate s).1 = .error (unknownSelector settings)) ∨
    (Selector.ofSettings? settings = some .direct ∧
      (select importer settings delegate s).1 = .ok (.direct settings.bucketName)) ∨
    (Selector.ofSettings? settings = some .dynamic ∧
      ∃ d, (select importer settings delegate s).1 = .ok (.dynamic d settings.bucketName)) := by
  rcases hs : Selector.ofSettings? settings with _ | _ | _ <;> simp only [select, hs]
  · exact .inl ⟨trivial, trivial⟩
  · exact .inr (.inl ⟨trivial, trivial⟩)
  · exact .inr (.inr ⟨trivial, _, rfl⟩)

theorem isOfTaxonomy_inBucket {bucket : Option String} {key : String} {e : Failure}
    (h : inBucket bucket key = .error e) : e.IsOfTaxonomy := by
  rcases hb : given? bucket with _ | b <;> simp only [inBucket, hb] at h <;> cases h
  exact ⟨_, _, rfl⟩

theorem isOfTaxonomy_ofAnswer {bucket : Option String} {identifier : String} {a : Answer}
    {e : Failure} (h : ofAnswer bucket identifier a = .error e) : e.IsOfTaxonomy := by
  cases a with
  | absent =>
      cases h
      exact ⟨_, _, rfl⟩
  | key k => exact isOfTaxonomy_inBucket h
  | location l => cases h

/-- Whatever a delegate fails with, and whatever is wrong with its answer, asking it fails with a
genuine fault. -/
theorem isGenuine_ask {d : Delegate σ} {identifier : String} {context : Context} {s : Session σ}
    {e : Failure} (h : (ask d identifier context s).1 = .error e) : e.IsGenuine := by
  rcases hc : d.call identifier context (s.log .debug .strategies
    ("Invoking " ++ getObjectKey ++ " for " ++ identifier)) with ⟨e' | v, s'⟩
  · simp only [ask, hc] at h
    cases h
    exact .inr ⟨_, _, rfl⟩
  · rcases hv : Answer.ofValue v with p | a <;> simp only [ask, hc, Answer.read, hv] at h <;>
      cases h
    cases p with
    | overlong => exact .inl rfl
    | emptyKey | unusable | unsupported => exact .inr ⟨_, _, rfl⟩

theorem isGenuine_dynamic {d : Delegate σ} {bucket : Option String} {identifier : Identifier}
    {context : Context} {s : Session σ} {e : Failure}
    (h : ((Strategy.dynamic d bucket).resolve identifier context s).1 = .error e) :
    e.IsGenuine := by
  rw [resolve_dynamic] at h
  rcases ha : (ask d identifier.value context s).1 with e' | a <;> simp only [ha] at h
  · cases h
    exact isGenuine_ask ha
  · exact .inr (isOfTaxonomy_ofAnswer h)

theorem isOfTaxonomy_select {importer : Importer σ} {settings : Settings}
    {delegate : Option (Delegate σ)} {s : Session σ} {e : Failure}
    (h : (select importer settings delegate s).1 = .error e) : e.IsOfTaxonomy := by
  rcases select_cases importer settings delegate s with ⟨_, hs⟩ | ⟨_, hs⟩ | ⟨_, d, hs⟩ <;>
    rw [hs] at h <;> cases h
  exact ⟨_, _, rfl⟩

theorem isGenuine_of_select {importer : Importer σ} {settings : Settings}
    {delegate : Option (Delegate σ)} {s s' : Session σ} {st : Strategy σ} {identifier : Identifier}
    {context : Context} {e : Failure} (hst : (select importer settings delegate s).1 = .ok st)
    (h : (st.resolve identifier context s').1 = .error e) : e.IsGenuine := by
  rcases select_cases importer settings delegate s with ⟨_, hs⟩ | ⟨_, hs⟩ | ⟨_, d, hs⟩ <;>
    rw [hs] at hst <;> cases hst
  · exact .inr (isOfTaxonomy_inBucket h)
  · exact isGenuine_dynamic h

end Strategy

/-! ## Resolvers -/

namespace Resolver

variable {host : Host σ} {r : Resolver σ} {s : Session σ} {e : Failure}

theorem lookupFailure_of_isOfTaxonomy (h : e.IsOfTaxonomy) (identifier : Identifier) :
    lookupFailure identifier e = e := by
  obtain ⟨k, text, he⟩ := h
  have hk : e.kind? = some k := by
    rw [Failure.kind?, he]
    rfl
  simp only [lookupFailure, hk]

/-- A failure of the taxonomy is reported as it is, and every other one by one of the taxonomy. -/
theorem isOfTaxonomy_lookupFailure (identifier : Identifier) (h : e.IsGenuine) :
    (lookupFailure identifier e).IsOfTaxonomy := by
  rcases h with hk | h
  · simp only [lookupFailure, hk]
    exact ⟨_, _, rfl⟩
  · rwa [lookupFailure_of_isOfTaxonomy h]

theorem isOfTaxonomy_resolve (hr : r.strategy = none)
    (h : (r.resolve host s).result = .error e) : e.IsOfTaxonomy := by
  have hget : r.getStrategy host s = Strategy.select host.importer r.settings r.delegate s := by
    simp only [getStrategy, hr]
  rcases resolve_cases host r s with ⟨e', s₁, hst, hx⟩ | ⟨st, s₁, e', s₂, hst, hres, hx⟩ |
    ⟨st, s₁, l, s₂, _, _, hx⟩ <;> rw [hx] at h <;> cases h
  · apply isOfTaxonomy_lookupFailure
    exact .inr <| Strategy.isOfTaxonomy_select (congrArg Prod.fst (hget.symm.trans hst))
  · apply isOfTaxonomy_lookupFailure
    exact Strategy.isGenuine_of_select (congrArg Prod.fst (hget.symm.trans hst))
      (congrArg Prod.fst hres)

/-- The resolver has not failed, and has no strategy yet. -/
structure IsFresh (r : Resolver σ) : Prop where
  strategy : r.strategy = none
  failure : r.failure = none

theorem isOfTaxonomy_fetch (hr : r.IsFresh) (h : (r.fetch host s).result = .error e) :
    e.IsOfTaxonomy := by
  rcases fetch_cases host r s with ⟨e', hl, hx⟩ | ⟨l, e', s₁, _, _, hx⟩ | ⟨l, k, s₁, _, _, hx⟩ <;>
    rw [hx] at h <;> cases h
  · rcases location_cases host r s with ⟨e', hf, _⟩ | ⟨l, _, _, hx⟩ | ⟨_, _, hx⟩
    · rw [hr.failure] at hf
      cases hf
    · rw [hx] at hl
      cases hl
    · rw [hx] at hl
      exact isOfTaxonomy_resolve hr.strategy hl
  · exact ⟨_, _, rfl⟩

theorem isOfTaxonomy_checkAccess (hr : r.IsFresh) (hm : r.mishap? host .checkAccess s = none)
    (h : (r.checkAccess host s).result = .error e) : e.IsOfTaxonomy := by
  rcases hk : (r.fetch host s).result with e' | k <;> simp only [checkAccess, hk] at h
  · cases h
    exact isOfTaxonomy_fetch hr hk
  · simp only [mishap?, hk, h] at hm
    cases hm

theorem isOfTaxonomy_resolveFormat (hr : r.IsFresh)
    (hm : r.mishap? host .resolveFormat s = none)
    (h : (r.resolveFormat host s).result = .error e) : e.IsOfTaxonomy := by
  rcases hf : r.recognised with _ | f
  · rcases resolveFormat_cases host hf s with ⟨e', hk, hx⟩ | ⟨k, e', s₁, hk, ht, hx⟩ |
      ⟨k, t, s₁, l, _, _, _, hx⟩ <;> rw [hx] at h <;> cases h
    · exact isOfTaxonomy_fetch hr hk
    · simp only [mishap?, hk, hf, ht, if_true] at hm
      cases hm
  · rw [resolveFormat_of_recognised hf] at h
    cases h

end Resolver

end ObjectLookup
