import ObjectLookup.Proofs.Resolver.Memory

/-! # Resolvers that have no use for a delegate

A resolver whose settings select the direct strategy neither loads a delegate nor asks the one that
it was given. So it makes no difference to it what its settings say about delegates, and what could
be imported: every question comes to the same, and so does every run (`transcript_withoutDelegate`).
-/

namespace ObjectLookup

variable {σ α β : Type}

namespace Resolver

/-- The resolver, with no delegate given to it and none in its settings. -/
def withoutDelegate (r : Resolver σ) : Resolver σ :=
  { r with
    settings := { r.settings with delegateEnabled := false, delegateTarget := none }
    delegate := none }

@[simp] theorem identifier_withoutDelegate (r : Resolver σ) :
    r.withoutDelegate.identifier = r.identifier := rfl
@[simp] theorem recognised_withoutDelegate (r : Resolver σ) :
    r.withoutDelegate.recognised = r.recognised := rfl

end Resolver

/-- The step that a resolver takes, as one of the resolver without its delegate. -/
def Step.withoutDelegate (step : Step (Resolver σ) σ α) : Step (Resolver σ) σ α :=
  { step with self := step.self.withoutDelegate }

/-- What can be seen of an exchange from outside of the resolver. -/
def Exchange.shown (x : Exchange σ) :
    Question × Session σ × Except Failure (Reply σ) × Session σ :=
  (x.question, x.session, x.step.result, x.step.session)

namespace Resolver

variable {host : Host σ} {r : Resolver σ} {s : Session σ}

/-- The settings of the resolver select the direct strategy. -/
def SelectsDirect (r : Resolver σ) : Prop := Selector.ofSettings? r.settings = some .direct

theorem getStrategy_of_selectsDirect (h : r.SelectsDirect) (hst : r.strategy = none)
    (host : Host σ) (s : Session σ) :
    r.getStrategy host s = (.ok (.direct r.settings.bucketName), s.record .selected) := by
  simp only [SelectsDirect] at h
  simp only [getStrategy, hst, Strategy.select, h]

/-! ## The settings stay -/

@[simp] theorem settings_location (host : Host σ) (r : Resolver σ) (s : Session σ) :
    (r.location host s).self.settings = r.settings := by
  rcases self_location_cases host r s with ⟨e, _, h⟩ | ⟨l, _, _, h⟩ | ⟨st, e, _, _, _, h⟩ |
    ⟨st, l, _, _, h⟩ <;> rw [h]

@[simp] theorem settings_fetch (host : Host σ) (r : Resolver σ) (s : Session σ) :
    (r.fetch host s).self.settings = r.settings := by
  obtain ⟨e, h⟩ := self_fetch host r s
  rw [h]
  exact settings_location host r s

@[simp] theorem settings_ask (host : Host σ) (r : Resolver σ) (q : Question) (s : Session σ) :
    (r.ask host q s).self.settings = r.settings := by
  rcases self_ask_cases host r q s with ⟨_, h⟩ | ⟨_, f, h⟩ | ⟨_, h⟩ <;> rw [h]
  · exact settings_location host r s
  · exact settings_fetch host r s

/-! ## The same without a delegate -/

section Same

variable (importer : Importer σ)

theorem getStrategy_withoutDelegate (h : r.SelectsDirect) (host : Host σ) (s : Session σ) :
    r.withoutDelegate.getStrategy { host with importer } s = r.getStrategy host s := by
  rcases hst : r.strategy with _ | st
  · have hr := getStrategy_of_selectsDirect h hst host s
    rw [hr]
    exact getStrategy_of_selectsDirect (r := r.withoutDelegate) h hst _ s
  · have hst' : r.withoutDelegate.strategy = some st := hst
    simp only [getStrategy, hst, hst']

theorem resolve_withoutDelegate (h : r.SelectsDirect) (host : Host σ) (s : Session σ) :
    r.withoutDelegate.resolve { host with importer } s = (r.resolve host s).withoutDelegate := by
  have hget := getStrategy_withoutDelegate importer h host s
  rcases hx : r.getStrategy host s with ⟨e | st, s₁⟩ <;> rw [hx] at hget
  · simp only [resolve, hget, hx]
    rfl
  · rcases hy : st.resolve r.identifier r.context (s₁.record .consulted) with ⟨e | l, s₂⟩
    · have hy' : st.resolve r.withoutDelegate.identifier r.withoutDelegate.context
          (s₁.record .consulted) = (.error e, s₂) := hy
      simp only [resolve, hget, hx, hy, hy']
      rfl
    · have hy' : st.resolve r.withoutDelegate.identifier r.withoutDelegate.context
          (s₁.record .consulted) = (.ok l, s₂) := hy
      simp only [resolve, hget, hx, hy, hy']
      rfl

theorem location_withoutDelegate (h : r.SelectsDirect) (host : Host σ) (s : Session σ) :
    r.withoutDelegate.location { host with importer } s =
      (r.location host s).withoutDelegate := by
  rcases location_cases host r s with ⟨e, hf, hx⟩ | ⟨l, hf, hl, hx⟩ | ⟨hf, hl, hx⟩ <;> rw [hx]
  · exact location_of_failure (r := r.withoutDelegate) hf s
  · exact location_of_resolved (r := r.withoutDelegate) hf hl s
  · rw [location_of_unresolved (r := r.withoutDelegate) hf hl]
    exact resolve_withoutDelegate importer h host s

theorem fetch_withoutDelegate (h : r.SelectsDirect) (host : Host σ) (s : Session σ) :
    r.withoutDelegate.fetch { host with importer } s = (r.fetch host s).withoutDelegate := by
  have hlocation := location_withoutDelegate importer h host s
  rcases hl : (r.location host s).result with e | l
  · simp only [fetch, hlocation, Step.withoutDelegate, hl]
  · rcases hr : request host l (r.location host s).session with ⟨e | k, s₁⟩
    · have hr' : request { host with importer } l (r.location host s).session = (.error e, s₁) := hr
      simp only [fetch, hlocation, Step.withoutDelegate, hl, hr, hr']
      rfl
    · have hr' : request { host with importer } l (r.location host s).session = (.ok k, s₁) := hr
      simp only [fetch, hlocation, Step.withoutDelegate, hl, hr, hr']

theorem checkAccess_withoutDelegate (h : r.SelectsDirect) (host : Host σ) (s : Session σ) :
    r.withoutDelegate.checkAccess { host with importer } s =
      (r.checkAccess host s).withoutDelegate := by
  have hfetch := fetch_withoutDelegate importer h host s
  rcases hk : (r.fetch host s).result with e | k <;>
    simp only [checkAccess, hfetch, Step.withoutDelegate, hk]

theorem formatOfHandle_withoutDelegate (h : r.SelectsDirect) (host : Host σ) (k : Handle σ)
    (s : Session σ) :
    r.withoutDelegate.formatOfHandle { host with importer } k s =
      (r.formatOfHandle host k s).withoutDelegate := by
  rcases ht : takeContentType k s with ⟨e | contentType, s₁⟩
  · simp only [formatOfHandle, ht]
    rfl
  · have hlocation := location_withoutDelegate importer h host
    simp only [formatOfHandle, ht, identifier_withoutDelegate, hlocation]
    split
    · rfl
    · split <;> rfl

theorem resolveFormat_withoutDelegate (h : r.SelectsDirect) (host : Host σ) (s : Session σ) :
    r.withoutDelegate.resolveFormat { host with importer } s =
      (r.resolveFormat host s).withoutDelegate := by
  rcases hr : r.recognised with _ | f
  · have hfetch := fetch_withoutDelegate importer h host s
    rcases hk : (r.fetch host s).result with e | k
    · simp only [resolveFormat, recognised_withoutDelegate, hr, hfetch, Step.withoutDelegate, hk]
    · have hself : (r.fetch host s).self.SelectsDirect := by
        rw [SelectsDirect, settings_fetch]
        exact h
      have hformat := formatOfHandle_withoutDelegate importer hself host k (r.fetch host s).session
      rcases hf : ((r.fetch host s).self.formatOfHandle host k (r.fetch host s).session).result
        with e | f <;>
        simp only [resolveFormat, recognised_withoutDelegate, hr, hfetch, Step.withoutDelegate, hk,
          hformat, hf]
      rfl
  · rw [resolveFormat_of_recognised hr, resolveFormat_of_recognised (r := r.withoutDelegate) hr]
    rfl

/-- Every question comes to the same without the delegate. -/
theorem ask_withoutDelegate (h : r.SelectsDirect) (host : Host σ) (q : Question) (s : Session σ) :
    r.withoutDelegate.ask { host with importer } q s = (r.ask host q s).withoutDelegate := by
  cases q with
  | location =>
      simp only [ask, location_withoutDelegate importer h]
      rfl
  | checkAccess =>
      simp only [ask, checkAccess_withoutDelegate importer h]
      rfl
  | resolveFormat =>
      simp only [ask, resolveFormat_withoutDelegate importer h]
      rfl
  | openStream =>
      simp only [ask, openStream, fetch_withoutDelegate importer h]
      rfl

/-- A run goes the same way without the delegate, whatever can be imported. -/
theorem transcript_withoutDelegate (h : r.SelectsDirect) (host : Host σ) (s : Session σ)
    (ts : List (Turn σ)) :
    (r.withoutDelegate.transcript { host with importer } s ts).map Exchange.shown =
      (r.transcript host s ts).map Exchange.shown := by
  induction ts generalizing r s with
  | nil => rfl
  | cons t ts ih =>
      have hask := ask_withoutDelegate importer h host t.question (t.meanwhile s)
      have hself : (r.ask host t.question (t.meanwhile s)).self.SelectsDirect := by
        rw [SelectsDirect, settings_ask]
        exact h
      simp only [transcript, exchange, List.map_cons, hask]
      exact congrArg (_ :: ·) (ih hself _)

end Same

end Resolver

end ObjectLookup
