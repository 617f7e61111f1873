import ObjectLookup.Proofs.Resolver.Outcome
import ObjectLookup.Proofs.Strategy.Alike

/-! # Resolvers that answer alike

Resolvers are alike if they remember the same and look up alike; their settings may differ in
their credentials (`Resolver.Alike`). Over alike hosts and in alike sessions, they answer every
question alike and are alike afterwards (`Alike.ask`), so that the outcomes are equal
(`Step.Alike.outcome_eq`).

-/

namespace ObjectLookup

variable {σ τ α β : Type} {S : σ → τ → Prop} {R : α → β → Prop}

/-- Hosts that import and build alike. -/
structure Host.Alike (S : σ → τ → Prop) (host : Host σ) (host' : Host τ) : Prop where
  importer : Importer.Alike S host.importer host'.importer
  factory : host.factory.Alike S host'.factory

/-- Resolvers that remember the same and look up alike, from settings that may differ in their
credentials. -/
structure Resolver.Alike (S : σ → τ → Prop) (r : Resolver σ) (q : Resolver τ) : Prop where
  identifier : r.identifier = q.identifier
  settings : r.settings.SameButCredentials q.settings
  strategy : Option.Rel (Strategy.Alike S) r.strategy q.strategy
  delegate : Option.Rel (Delegate.Alike S) r.delegate q.delegate
  context : r.context = q.context
  resolved : r.resolved = q.resolved
  recognised : r.recognised = q.recognised
  failure : r.failure = q.failure

/-- Steps that come to related results and leave alike resolvers and sessions. -/
structure Step.Alike (S : σ → τ → Prop) (R : α → β → Prop) (x : Step (Resolver σ) σ α)
    (y : Step (Resolver τ) τ β) : Prop where
  result : Agree R x.result y.result
  self : x.self.Alike S y.self
  session : x.session.Alike S y.session

theorem Step.Alike.map {γ δ : Type} {Q : γ → δ → Prop} {f : α → γ} {g : β → δ}
    {x : Step (Resolver σ) σ α} {y : Step (Resolver τ) τ β} (h : x.Alike S R y)
    (hfg : ∀ a b, R a b → Q (f a) (g b)) : (x.map f).Alike S Q (y.map g) where
  result := h.result.map hfg
  self := h.self
  session := h.session

/-- Replies that are equal, but for content that is opened, which is alike. -/
inductive Reply.Alike (S : σ → τ → Prop) : Reply σ → Reply τ → Prop where
  | located (l : Location) : Reply.Alike S (.located l) (.located l)
  | accessible : Reply.Alike S .accessible .accessible
  | recognised (f : Format) : Reply.Alike S (.recognised f) (.recognised f)
  | opened {c : ContentSource σ} {d : ContentSource τ} (h : c.Alike S d) :
      Reply.Alike S (.opened c) (.opened d)

/-- The caller sees alike replies as equal. -/
theorem Step.Alike.outcome_eq {x : Step (Resolver σ) σ (Reply σ)}
    {y : Step (Resolver τ) τ (Reply τ)} (h : x.Alike S (Reply.Alike S) y) :
    x.outcome = y.outcome := by
  rcases x with ⟨x, r, s⟩
  rcases y with ⟨y, q, t⟩
  obtain ⟨hresult, _, hsession⟩ := h
  rcases hresult with hreply | e
  · cases hreply with
    | located l => rfl
    | accessible => rfl
    | recognised f => rfl
    | opened hcd =>
        refine congrArg (fun seen ↦ Except.ok (View.opened seen)) ?_
        funext us
        exact hcd.readings_eq hsession.outside us
  · rfl

namespace Resolver

variable {host : Host σ} {host' : Host τ} {r : Resolver σ} {q : Resolver τ} {s : Session σ}
  {t : Session τ}

/-! ## Programs of a lookup and of a fetch -/

theorem runAlike_request (hhost : host.Alike S host') (l : Location) :
    RunAlike S (Agree (Handle.Alike S)) (request host l) (request host' l) := by
  intro s t hst
  obtain ⟨_, _, s', t', hs, ht, hcd | e, h'⟩ := RunAlike.getClient hhost.factory s t hst
  · simp only [request, hs, ht]
    exact RunAlike.perform (hcd l) _ _ ((h'.log _ _ _).record _)
  · simp only [request, hs, ht]
    exact ⟨_, _, _, _, rfl, rfl, .error e, h'⟩

theorem runAlike_takeContentType {h : Handle σ} {k : Handle τ} (hk : h.Alike S k) :
    RunAlike S (Agree Eq) (takeContentType h) (takeContentType k) := by
  intro s t hst
  obtain ⟨_, _, s₁, t₁, hs₁, ht₁, hx, h₁⟩ := RunAlike.perform hk.contentType s t hst
  obtain ⟨_, _, s₂, t₂, hs₂, ht₂, hy | e, h₂⟩ := RunAlike.perform hk.close s₁ t₁ h₁
  · simp only [takeContentType, hs₁, ht₁, hs₂, ht₂]
    exact ⟨_, _, _, _, rfl, rfl, hx, h₂⟩
  · simp only [takeContentType, hs₁, ht₁, hs₂, ht₂]
    exact ⟨_, _, _, _, rfl, rfl, .error e, h₂⟩

theorem runAlike_formatOfType (identifier : Identifier) (contentType : Option String) :
    RunAlike S Eq (formatOfType identifier contentType) (formatOfType identifier contentType) := by
  intro s t hst
  rcases hc : given? contentType with _ | text
  · simp only [formatOfType, hc]
    exact ⟨_, _, _, _, rfl, rfl, rfl, hst⟩
  · rcases hm : MediaType.parse? text with _ | m <;> simp only [formatOfType, hc, hm]
    · exact ⟨_, _, _, _, rfl, rfl, rfl, hst.log _ _ _⟩
    · exact ⟨_, _, _, _, rfl, rfl, rfl, hst⟩

namespace Alike

variable (hhost : host.Alike S host')
include hhost

theorem getStrategy (h : r.Alike S q) :
    RunAlike S (Agree (Strategy.Alike S)) (r.getStrategy host) (q.getStrategy host') := by
  intro s t hst
  rcases optionRel_cases h.strategy with ⟨hr, hq⟩ | ⟨x, y, hr, hq, hxy⟩ <;>
    simp only [Resolver.getStrategy, hr, hq]
  · exact Strategy.runAlike_select hhost.importer h.settings h.delegate s t hst
  · exact ⟨_, _, _, _, rfl, rfl, .ok hxy, hst⟩

theorem resolve (h : r.Alike S q) (hst : s.Alike S t) :
    (r.resolve host s).Alike S Eq (q.resolve host' t) := by
  obtain ⟨_, _, s₁, t₁, hs₁, ht₁, @⟨x, y, hxy⟩ | e, h₁⟩ := h.getStrategy hhost s t hst
  · obtain ⟨_, _, s₂, t₂, hs₂, ht₂, @⟨l, _, rfl⟩ | e, h₂⟩ :=
      Strategy.runAlike_resolve hxy q.identifier q.context _ _ (h₁.record .consulted)
    · simp only [Resolver.resolve, hs₁, ht₁, h.identifier, h.context, hs₂, ht₂]
      refine ⟨.ok rfl, ?_, h₂.log _ _ _⟩
      exact ⟨rfl, h.settings, .some hxy, h.delegate, rfl, rfl, h.recognised, h.failure⟩
    · simp only [Resolver.resolve, hs₁, ht₁, h.identifier, h.context, hs₂, ht₂]
      refine ⟨.error _, ?_, h₂⟩
      exact ⟨rfl, h.settings, .some hxy, h.delegate, rfl, h.resolved, h.recognised, rfl⟩
  · simp only [Resolver.resolve, hs₁, ht₁, h.identifier]
    refine ⟨.error _, ?_, h₁⟩
    exact ⟨rfl, h.settings, h.strategy, h.delegate, h.context, h.resolved, h.recognised, rfl⟩

theorem location (h : r.Alike S q) (hst : s.Alike S t) :
    (r.location host s).Alike S Eq (q.location host' t) := by
  rcases location_cases host' q t with ⟨e, hf, hx⟩ | ⟨l, hf, hl, hx⟩ | ⟨hf, hl, hx⟩
  · rw [hx, location_of_failure (h.failure.trans hf)]
    exact ⟨.error e, h, hst⟩
  · rw [hx, location_of_resolved (h.failure.trans hf) (h.resolved.trans hl)]
    exact ⟨.ok rfl, h, hst⟩
  · rw [hx, location_of_unresolved (h.failure.trans hf) (h.resolved.trans hl)]
    exact h.resolve hhost hst

theorem fetch (h : r.Alike S q) (hst : s.Alike S t) :
    (r.fetch host s).Alike S (Handle.Alike S) (q.fetch host' t) := by
  obtain ⟨hresult, hself, hsession⟩ := h.location hhost hst
  rcases hresult.cases with ⟨e, hx, hy⟩ | ⟨l, _, hx, hy, rfl⟩
  · simp only [Resolver.fetch, hx, hy]
    exact ⟨.error e, hself, hsession⟩
  · obtain ⟨_, _, s', t', hs, ht, hk | e, h'⟩ := runAlike_request hhost l _ _ hsession
    · simp only [Resolver.fetch, hx, hy, hs, ht]
      exact ⟨.ok hk, hself, h'⟩
    · simp only [Resolver.fetch, hx, hy, hs, ht]
      exact ⟨.error _, { hself with failure := rfl }, h'⟩

theorem checkAccess (h : r.Alike S q) (hst : s.Alike S t) :
    (r.checkAccess host s).Alike S Eq (q.checkAccess host' t) := by
  obtain ⟨hresult, hself, hsession⟩ := h.fetch hhost hst
  rcases hresult.cases with ⟨e, hx, hy⟩ | ⟨k, k', hx, hy, hk⟩
  · simp only [Resolver.checkAccess, hx, hy]
    exact ⟨.error e, hself, hsession⟩
  · obtain ⟨_, _, s', t', hs, ht, hclosed, h'⟩ := RunAlike.perform hk.close _ _ hsession
    simp only [Resolver.checkAccess, hx, hy, hs, ht]
    exact ⟨hclosed, hself, h'⟩

theorem openStream (h : r.Alike S q) (hst : s.Alike S t) :
    (r.openStream host s).Alike S (ContentSource.Alike S) (q.openStream host' t) := by
  obtain ⟨hresult, hself, hsession⟩ := h.fetch hhost hst
  refine ⟨hresult.map ?_, hself, hsession⟩
  intro k k' hk
  exact ⟨hk, .none, rfl⟩

theorem formatOfHandle {k : Handle σ} {k' : Handle τ} (h : r.Alike S q) (hk : k.Alike S k')
    (hst : s.Alike S t) :
    (r.formatOfHandle host k s).Alike S Eq (q.formatOfHandle host' k' t) := by
  obtain ⟨_, _, s₁, t₁, hs₁, ht₁, @⟨contentType, _, rfl⟩ | e, h₁⟩ :=
    runAlike_takeContentType hk s t hst
  · obtain ⟨f, _, s₂, t₂, hs₂, ht₂, rfl, h₂⟩ :=
      runAlike_formatOfType q.identifier contentType s₁ t₁ h₁
    simp only [Resolver.formatOfHandle, hs₁, ht₁, h.identifier, hs₂, ht₂]
    split
    · exact ⟨.ok rfl, h, h₂⟩
    · split
      · exact ⟨.ok rfl, h, h₂⟩
      · obtain ⟨hresult, hself, hsession⟩ := h.location hhost h₂
        exact ⟨.of_eq (by rw [hresult.eq]), hself, hsession⟩
  · simp only [Resolver.formatOfHandle, hs₁, ht₁]
    exact ⟨.error e, h, h₁⟩

theorem resolveFormat (h : r.Alike S q) (hst : s.Alike S t) :
    (r.resolveFormat host s).Alike S Eq (q.resolveFormat host' t) := by
  rcases hf : q.recognised with _ | f
  · obtain ⟨hresult, hself, hsession⟩ := h.fetch hhost hst
    rcases hresult.cases with ⟨e, hx, hy⟩ | ⟨k, k', hx, hy, hk⟩
    · simp only [Resolver.resolveFormat, h.recognised, hf, hx, hy]
      exact ⟨.error e, hself, hsession⟩
    · obtain ⟨hresult', hself', hsession'⟩ := hself.formatOfHandle hhost hk hsession
      rcases hresult'.cases with ⟨e, hx', hy'⟩ | ⟨f, _, hx', hy', rfl⟩
      · simp only [Resolver.resolveFormat, h.recognised, hf, hx, hy, hx', hy']
        exact ⟨.error e, hself', hsession'⟩
      · simp only [Resolver.resolveFormat, h.recognised, hf, hx, hy, hx', hy']
        exact ⟨.ok rfl, { hself' with recognised := rfl }, hsession'⟩
  · rw [resolveFormat_of_recognised hf, resolveFormat_of_recognised (h.recognised.trans hf)]
    exact ⟨.ok rfl, h, hst⟩

/-- Alike resolvers answer every question alike. -/
theorem ask (h : r.Alike S q) (hst : s.Alike S t) (question : Question) :
    (r.ask host question s).Alike S (Reply.Alike S) (q.ask host' question t) := by
  cases question with
  | location => exact (h.location hhost hst).map fun l _ hl ↦ hl ▸ .located l
  | checkAccess => exact (h.checkAccess hhost hst).map fun _ _ _ ↦ .accessible
  | resolveFormat => exact (h.resolveFormat hhost hst).map fun f _ hf ↦ hf ▸ .recognised f
  | openStream => exact (h.openStream hhost hst).map fun _ _ hcd ↦ .opened hcd

end Alike

end Resolver

end ObjectLookup
