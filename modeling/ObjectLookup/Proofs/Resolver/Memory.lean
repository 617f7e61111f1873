import ObjectLookup.Proofs.Resolver.Run

/-! # What a question does to the memory of a resolver

A resolver remembers a strategy, a location, a format and a failure. The case lemmas of this module
say everything that a lookup, a fetch and the determination of a format can do to them and to the
session; everything else about memory is read off them.

Two facts carry the rest. A lookup or a fetch leaves a failure behind if and only if it ends in that
failure (`failure_location`, `failure_fetch`), and one that succeeds leaves the location behind
(`resolved_location`, `resolved_fetch`). So the location that is asked for once more after a
successful fetch is remembered, and the format is a function of the content type, the identifier and
the key (`Format.infer`).
-/

namespace ObjectLookup

/-- The format by content type, else by the extension of the identifier, else by that of the key. -/
def Format.infer (contentType : Option String) (identifier key : String) : Format :=
  let byType := ((given? contentType).bind MediaType.parse?).elim .unknown .ofMediaType
  if byType ≠ .unknown then byType
  else if ofFileName identifier ≠ .unknown then ofFileName identifier
  else ofFileName key

namespace Resolver

variable {σ : Type} {host : Host σ} {r : Resolver σ} {s : Session σ}

/-! ## Looking up -/

/-- A lookup fails for want of a strategy, or because the strategy fails, or it succeeds. -/
theorem resolve_cases (host : Host σ) (r : Resolver σ) (s : Session σ) :
    (∃ e s₁, r.getStrategy host s = (.error e, s₁) ∧
      r.resolve host s = ⟨.error (lookupFailure r.identifier e),
        { r with failure := some (lookupFailure r.identifier e) }, s₁⟩) ∨
    (∃ st s₁ e s₂, r.getStrategy host s = (.ok st, s₁) ∧
      st.resolve r.identifier r.context (s₁.record .consulted) = (.error e, s₂) ∧
      r.resolve host s = ⟨.error (lookupFailure r.identifier e),
        { r with strategy := some st, failure := some (lookupFailure r.identifier e) }, s₂⟩) ∨
    (∃ st s₁ l s₂, r.getStrategy host s = (.ok st, s₁) ∧
      st.resolve r.identifier r.context (s₁.record .consulted) = (.ok l, s₂) ∧
      r.resolve host s = ⟨.ok l, { r with strategy := some st, resolved := some l },
        s₂.log .debug .resolver ("Resolved " ++ r.identifier.value ++ " to " ++ l.uri)⟩) := by
  rcases h₁ : r.getStrategy host s with ⟨e | st, s₁⟩
  · exact .inl ⟨e, s₁, rfl, by simp only [resolve, h₁]⟩
  · rcases h₂ : st.resolve r.identifier r.context (s₁.record .consulted) with ⟨e | l, s₂⟩
    · exact .inr (.inl ⟨st, s₁, e, s₂, rfl, h₂, by simp only [resolve, h₁, h₂]⟩)
    · exact .inr (.inr ⟨st, s₁, l, s₂, rfl, h₂, by simp only [resolve, h₁, h₂]⟩)

theorem location_of_unresolved (hf : r.failure = none) (hl : r.resolved = none)
    (s : Session σ) : r.location host s = r.resolve host s := by
  simp [location, hf, hl]

/-- The location is asked for of a resolver that has failed, or has it already, or has to look. -/
theorem location_cases (host : Host σ) (r : Resolver σ) (s : Session σ) :
    (∃ e, r.failure = some e ∧ r.location host s = ⟨.error e, r, s⟩) ∨
    (∃ l, r.failure = none ∧ r.resolved = some l ∧ r.location host s = ⟨.ok l, r, s⟩) ∨
    (r.failure = none ∧ r.resolved = none ∧ r.location host s = r.resolve host s) := by
  rcases hf : r.failure with _ | e
  · rcases hl : r.resolved with _ | l
    · exact .inr (.inr ⟨rfl, rfl, location_of_unresolved hf hl s⟩)
    · exact .inr (.inl ⟨l, rfl, rfl, location_of_resolved hf hl s⟩)
  · exact .inl ⟨e, rfl, location_of_failure hf s⟩

theorem isSome_kind?_lookupFailure (identifier : Identifier) (e : Failure) :
    (lookupFailure identifier e).kind?.isSome := by
  rcases h : e.kind? with _ | k
  · simp only [lookupFailure, h]
    rfl
  · simp only [lookupFailure, h]
    rfl

/-- What is in memory after a lookup: what was there before, or besides a failure of the taxonomy,
or besides a location. -/
theorem self_location_cases (host : Host σ) (r : Resolver σ) (s : Session σ) :
    (∃ e, r.failure = some e ∧ r.location host s = ⟨.error e, r, s⟩) ∨
    (∃ l, r.failure = none ∧ r.resolved = some l ∧ r.location host s = ⟨.ok l, r, s⟩) ∨
    (∃ st e, r.failure = none ∧ e.kind?.isSome ∧ (r.location host s).result = .error e ∧
      (r.location host s).self = { r with strategy := st, failure := some e }) ∨
    (∃ st l, r.failure = none ∧ (r.location host s).result = .ok l ∧
      (r.location host s).self = { r with strategy := st, resolved := some l }) := by
  rcases location_cases host r s with h | h | ⟨hf, _, h⟩
  · exact .inl h
  · exact .inr (.inl h)
  · rw [h]
    rcases resolve_cases host r s with ⟨e, s₁, _, h⟩ | ⟨st, s₁, e, s₂, _, _, h⟩ |
      ⟨st, s₁, l, s₂, _, _, h⟩ <;> rw [h]
    · have hk := isSome_kind?_lookupFailure r.identifier e
      exact .inr (.inr (.inl ⟨r.strategy, _, hf, hk, rfl, rfl⟩))
    · have hk := isSome_kind?_lookupFailure r.identifier e
      exact .inr (.inr (.inl ⟨some st, _, hf, hk, rfl, rfl⟩))
    · exact .inr (.inr (.inr ⟨some st, l, hf, rfl, rfl⟩))

/-- Being asked for the location leaves the failure that it ends in, and none if it succeeds. -/
theorem failure_location (host : Host σ) (r : Resolver σ) (s : Session σ) :
    (r.location host s).self.failure = Failure.ofResult? (r.location host s).result := by
  rcases self_location_cases host r s with ⟨e, hf, h⟩ | ⟨l, hf, _, h⟩ | ⟨st, e, _, _, hx, h⟩ |
    ⟨st, l, hf, hx, h⟩
  · rw [h]
    exact hf
  · rw [h]
    exact hf
  · rw [h, hx]
    rfl
  · rw [h, hx]
    exact hf

/-- A location in memory was there before, or is the one that was looked up. -/
theorem eq_or_of_resolved_location {l : Location}
    (hl : (r.location host s).self.resolved = some l) :
    r.resolved = some l ∨ (r.location host s).result = .ok l := by
  rcases self_location_cases host r s with ⟨e, _, h⟩ | ⟨l', _, _, h⟩ | ⟨st, e, _, _, _, h⟩ |
    ⟨st, l', _, hx, h⟩ <;> rw [h] at hl
  · exact .inl hl
  · exact .inl hl
  · exact .inl hl
  · cases hl
    exact .inr hx

/-- A lookup that succeeds leaves its location. -/
theorem resolved_location {l : Location} (hl : (r.location host s).result = .ok l) :
    (r.location host s).self.resolved = some l := by
  rcases self_location_cases host r s with ⟨e, _, h⟩ | ⟨l', _, hr, h⟩ | ⟨st, e, _, _, hx, _⟩ |
    ⟨st, l', _, hx, h⟩
  · rw [h] at hl
    cases hl
  · rw [h] at hl ⊢
    cases hl
    exact hr
  · rw [hx] at hl
    cases hl
  · rw [hx] at hl
    cases hl
    rw [h]

@[simp] theorem identifier_location (host : Host σ) (r : Resolver σ) (s : Session σ) :
    (r.location host s).self.identifier = r.identifier := by
  rcases self_location_cases host r s with ⟨e, _, h⟩ | ⟨l, _, _, h⟩ | ⟨st, e, _, _, _, h⟩ |
    ⟨st, l, _, _, h⟩ <;> rw [h]

@[simp] theorem recognised_location (host : Host σ) (r : Resolver σ) (s : Session σ) :
    (r.location host s).self.recognised = r.recognised := by
  rcases self_location_cases host r s with ⟨e, _, h⟩ | ⟨l, _, _, h⟩ | ⟨st, e, _, _, _, h⟩ |
    ⟨st, l, _, _, h⟩ <;> rw [h]

/-! ## Fetching -/

/-- A fetch fails for want of a location, or because the request fails, or it succeeds. -/
theorem fetch_cases (host : Host σ) (r : Resolver σ) (s : Session σ) :
    (∃ e, (r.location host s).result = .error e ∧
      r.fetch host s = ⟨.error e, (r.location host s).self, (r.location host s).session⟩) ∨
    (∃ l e s₁, (r.location host s).result = .ok l ∧
      request host l (r.location host s).session = (.error e, s₁) ∧
      r.fetch host s = ⟨.error (fetchFailure l e),
        { (r.location host s).self with failure := some (fetchFailure l e) }, s₁⟩) ∨
    (∃ l h s₁, (r.location host s).result = .ok l ∧
      request host l (r.location host s).session = (.ok h, s₁) ∧
      r.fetch host s = ⟨.ok h, (r.location host s).self, s₁⟩) := by
  rcases hl : (r.location host s).result with e | l
  · exact .inl ⟨e, rfl, by simp only [fetch, hl]⟩
  · rcases hr : request host l (r.location host s).session with ⟨e | h, s₁⟩
    · exact .inr (.inl ⟨l, e, s₁, rfl, hr, by simp only [fetch, hl, hr]⟩)
    · exact .inr (.inr ⟨l, h, s₁, rfl, hr, by simp only [fetch, hl, hr]⟩)

/-- A fetch leaves the failure that it ends in, and none if it succeeds. -/
theorem failure_fetch (host : Host σ) (r : Resolver σ) (s : Session σ) :
    (r.fetch host s).self.failure = Failure.ofResult? (r.fetch host s).result := by
  rcases fetch_cases host r s with ⟨e, hl, h⟩ | ⟨l, e, s₁, hl, _, h⟩ | ⟨l, k, s₁, hl, _, h⟩ <;>
    rw [h]
  · rw [failure_location, hl]; rfl
  · rfl
  · rw [failure_location, hl]; rfl

/-- A fetch leaves in memory what the lookup has left, but for a failure. -/
theorem self_fetch (host : Host σ) (r : Resolver σ) (s : Session σ) :
    ∃ e, (r.fetch host s).self = { (r.location host s).self with failure := e } := by
  rcases fetch_cases host r s with ⟨e, _, h⟩ | ⟨l, e, s₁, _, _, h⟩ | ⟨l, k, s₁, _, _, h⟩ <;>
    rw [h] <;> exact ⟨_, rfl⟩

/-- A fetch that succeeds leaves a location, which is the one that was looked up. -/
theorem resolved_fetch {k : Handle σ} (h : (r.fetch host s).result = .ok k) :
    ∃ l, (r.location host s).result = .ok l ∧ (r.fetch host s).self.resolved = some l := by
  rcases fetch_cases host r s with ⟨e, _, h'⟩ | ⟨l, e, s₁, _, _, h'⟩ | ⟨l, k', s₁, hl, _, h'⟩
  · rw [h'] at h; cases h
  · rw [h'] at h; cases h
  · exact ⟨l, hl, by rw [h']; exact resolved_location hl⟩

@[simp] theorem identifier_fetch (host : Host σ) (r : Resolver σ) (s : Session σ) :
    (r.fetch host s).self.identifier = r.identifier := by
  obtain ⟨e, h⟩ := self_fetch host r s
  rw [h]
  exact identifier_location host r s

@[simp] theorem recognised_fetch (host : Host σ) (r : Resolver σ) (s : Session σ) :
    (r.fetch host s).self.recognised = r.recognised := by
  obtain ⟨e, h⟩ := self_fetch host r s
  rw [h]
  exact recognised_location host r s

/-! ## Determining the format -/

theorem fst_formatOfType (identifier : Identifier) (contentType : Option String)
    (s : Session σ) : (formatOfType identifier contentType s).1 =
      ((given? contentType).bind MediaType.parse?).elim .unknown .ofMediaType := by
  rcases h : given? contentType with _ | t
  · simp only [formatOfType, h]; rfl
  · rcases hm : MediaType.parse? t with _ | m <;> simp [formatOfType, h, hm]

/-- With the location in memory, the format of a handle is inferred without looking anything up. -/
theorem formatOfHandle_of_resolved (host : Host σ) {l : Location} (hf : r.failure = none)
    (hl : r.resolved = some l) {h : Handle σ} {t : Option String} {s₁ : Session σ}
    (ht : takeContentType h s = (.ok t, s₁)) :
    r.formatOfHandle host h s = ⟨.ok (.infer t r.identifier.value l.key), r,
      (formatOfType r.identifier t s₁).2⟩ := by
  have hloc (s₂ : Session σ) : r.location host s₂ = ⟨.ok l, r, s₂⟩ := location_of_resolved hf hl s₂
  simp only [formatOfHandle, ht, fst_formatOfType, hloc, Format.infer]
  split
  · rfl
  · split <;> rfl

/-- Where no format is remembered, determining it fails for want of a handle, or because the handle
fails while its content type is taken, or it succeeds and is remembered. -/
theorem resolveFormat_cases (host : Host σ) (hr : r.recognised = none) (s : Session σ) :
    (∃ e, (r.fetch host s).result = .error e ∧
      r.resolveFormat host s = ⟨.error e, (r.fetch host s).self, (r.fetch host s).session⟩) ∨
    (∃ h e s₁, (r.fetch host s).result = .ok h ∧
      takeContentType h (r.fetch host s).session = (.error e, s₁) ∧
      r.resolveFormat host s = ⟨.error e, (r.fetch host s).self, s₁⟩) ∨
    (∃ h t s₁ l, (r.fetch host s).result = .ok h ∧
      takeContentType h (r.fetch host s).session = (.ok t, s₁) ∧
      (r.location host s).result = .ok l ∧
      r.resolveFormat host s = ⟨.ok (.infer t r.identifier.value l.key),
        { (r.fetch host s).self with recognised := some (.infer t r.identifier.value l.key) },
        (formatOfType r.identifier t s₁).2⟩) := by
  rcases hh : (r.fetch host s).result with e | h
  · exact .inl ⟨e, rfl, by simp only [resolveFormat, hr, hh]⟩
  · rcases ht : takeContentType h (r.fetch host s).session with ⟨e | t, s₁⟩
    · exact .inr (.inl ⟨h, e, s₁, rfl, ht, by simp only [resolveFormat, hr, hh, formatOfHandle, ht]⟩)
    · have hf : (r.fetch host s).self.failure = none := by rw [failure_fetch, hh]; rfl
      obtain ⟨l, hl, hl'⟩ := resolved_fetch hh
      have hfmt := formatOfHandle_of_resolved host hf hl' ht
      rw [identifier_fetch] at hfmt
      exact .inr (.inr ⟨h, t, s₁, l, rfl, ht, hl, by simp only [resolveFormat, hr, hh, hfmt]⟩)

/-! ## Asking -/

@[simp] theorem self_checkAccess (host : Host σ) (r : Resolver σ) (s : Session σ) :
    (r.checkAccess host s).self = (r.fetch host s).self := by
  rcases h : (r.fetch host s).result with e | k <;> simp only [checkAccess, h]

@[simp] theorem self_openStream (host : Host σ) (r : Resolver σ) (s : Session σ) :
    (r.openStream host s).self = (r.fetch host s).self := rfl

/-- A question looks up, or fetches and perhaps puts a format into memory, or does nothing, where
the format is in memory. -/
theorem self_ask_cases (host : Host σ) (r : Resolver σ) (q : Question) (s : Session σ) :
    (q = .location ∧ (r.ask host q s).self = (r.location host s).self) ∨
    (q ≠ .location ∧
      ∃ f, (r.ask host q s).self = { (r.fetch host s).self with recognised := f }) ∨
    (q = .resolveFormat ∧ (r.ask host q s).self = r) := by
  cases q with
  | location => exact .inl ⟨rfl, rfl⟩
  | checkAccess => exact .inr (.inl ⟨nofun, _, self_checkAccess host r s⟩)
  | openStream => exact .inr (.inl ⟨nofun, _, rfl⟩)
  | resolveFormat =>
      rcases hr : r.recognised with _ | f
      · refine .inr (.inl ⟨nofun, ?_⟩)
        simp only [ask, Step.self_map]
        rcases resolveFormat_cases host hr s with ⟨e, _, h⟩ | ⟨k, e, s₁, _, _, h⟩ |
          ⟨k, t, s₁, l, _, _, _, h⟩ <;> rw [h] <;> exact ⟨_, rfl⟩
      · refine .inr (.inr ⟨rfl, ?_⟩)
        rw [ask, resolveFormat_of_recognised hr]
        rfl

/-- A resolver that remembers a format answers with it, and never forgets it. -/
theorem ask_of_recognised {f : Format} (hr : r.recognised = some f) (q : Question)
    (s : Session σ) : (r.ask host q s).self.recognised = some f ∧
      (q = .resolveFormat → r.ask host q s = ⟨.ok (.recognised f), r, s⟩) := by
  have hfmt : r.ask host .resolveFormat s = ⟨.ok (.recognised f), r, s⟩ := by
    rw [ask, resolveFormat_of_recognised hr]
    rfl
  refine ⟨?_, by rintro rfl; exact hfmt⟩
  cases q with
  | location => simpa only [ask, Step.self_map, recognised_location] using hr
  | checkAccess => simpa only [ask, Step.self_map, self_checkAccess, recognised_fetch] using hr
  | openStream => simpa only [ask, Step.self_map, self_openStream, recognised_fetch] using hr
  | resolveFormat => rw [hfmt]; exact hr

/-- The format that a resolver comes to remember is the one that it answers with. -/
theorem recognised_ask_iff (hr : r.recognised = none) (q : Question) (s : Session σ)
    (f : Format) :
    (r.ask host q s).self.recognised = some f ↔
      (r.ask host q s).result = .ok (.recognised f) := by
  cases q with
  | location =>
      simp only [ask, Step.self_map, recognised_location, hr, Step.result_map]
      rcases (r.location host s).result with e | l <;> simp [Except.map]
  | checkAccess =>
      simp only [ask, Step.self_map, self_checkAccess, recognised_fetch, hr, Step.result_map]
      rcases (r.checkAccess host s).result with e | ⟨⟩ <;> simp [Except.map]
  | openStream =>
      simp only [ask, Step.self_map, self_openStream, recognised_fetch, hr, Step.result_map]
      rcases (r.openStream host s).result with e | c <;> simp [Except.map]
  | resolveFormat =>
      simp only [ask, Step.self_map, Step.result_map]
      rcases resolveFormat_cases host hr s with ⟨e, _, h⟩ | ⟨k, e, s₁, _, _, h⟩ |
        ⟨k, t, s₁, l, _, _, _, h⟩ <;> rw [h]
      · simp [Except.map, hr]
      · simp [Except.map, hr]
      · simp [Except.map]

/-- Only the question for the format is answered with a format. -/
theorem eq_resolveFormat_of_ok {q : Question} {s : Session σ} {f : Format}
    (h : (r.ask host q s).result = .ok (.recognised f)) : q = .resolveFormat := by
  cases q with
  | location =>
      obtain ⟨l, _, h⟩ := Step.exists_of_map_eq_ok h
      cases h
  | checkAccess =>
      obtain ⟨⟨⟩, _, h⟩ := Step.exists_of_map_eq_ok h
      cases h
  | openStream =>
      obtain ⟨c, _, h⟩ := Step.exists_of_map_eq_ok h
      cases h
  | resolveFormat => rfl

/-- A question that is answered with a format leaves it in memory. -/
theorem recognised_ask_of_ok {q : Question} {s : Session σ} {f : Format}
    (h : (r.ask host q s).result = .ok (.recognised f)) :
    (r.ask host q s).self.recognised = some f := by
  rcases hr : r.recognised with _ | f'
  · exact (recognised_ask_iff hr q s f).2 h
  · obtain ⟨hkept, hfmt⟩ := ask_of_recognised (r := r) hr q s
    rw [hfmt (eq_resolveFormat_of_ok h)] at h
    cases h
    exact hkept

end Resolver

end ObjectLookup
