import ObjectLookup.Proofs.Resolver.Activity

/-! # What a resolver remembers stays, and hangs together

Nothing that a resolver remembers is ever changed (`IsKeptIn`). It remembers a format only with the
location that it was found at, and a location only with the strategy that found it (`IsCoherent`).
Both are kept by looking up, by fetching, and so by every question, and hold all through a run.

The location is in memory after every fetch that succeeds (`location_of_fetched`). So once the handle
has told its content type and is closed, nothing can keep a resolver from its format any more
(`resolveFormat_of_told`).
-/

namespace ObjectLookup

variable {σ : Type}

/-- The handle fails to tell its content type, or to be closed after that. -/
def Handle.FailsToTell (h : Handle σ) (s : Session σ) : Prop :=
  (∃ e, (s.perform h.contentType).1 = .error e) ∨
    ∃ e, ((s.perform h.contentType).2.perform h.close).1 = .error e

namespace Resolver

variable {host : Host σ} {r r₁ r₂ r₃ : Resolver σ} {s : Session σ}

/-! ## Memory that is kept -/

/-- All that the one resolver remembers the other remembers as well. -/
structure IsKeptIn (r r₁ : Resolver σ) : Prop where
  strategy : ∀ st, r.strategy = some st → r₁.strategy = some st
  resolved : ∀ l, r.resolved = some l → r₁.resolved = some l
  recognised : ∀ f, r.recognised = some f → r₁.recognised = some f
  failure : ∀ e, r.failure = some e → r₁.failure = some e

theorem IsKeptIn.refl (r : Resolver σ) : r.IsKeptIn r :=
  ⟨fun _ h ↦ h, fun _ h ↦ h, fun _ h ↦ h, fun _ h ↦ h⟩

theorem IsKeptIn.trans (h : r₁.IsKeptIn r₂) (h' : r₂.IsKeptIn r₃) : r₁.IsKeptIn r₃ where
  strategy st hst := h'.strategy st (h.strategy st hst)
  resolved l hl := h'.resolved l (h.resolved l hl)
  recognised f hf := h'.recognised f (h.recognised f hf)
  failure e he := h'.failure e (h.failure e he)

/-- A strategy that is there is not selected again. -/
theorem strategy_resolve {st : Strategy σ} (h : r.strategy = some st) (s : Session σ) :
    (r.resolve host s).self.strategy = some st := by
  have hget : r.getStrategy host s = (.ok st, s) := by simp only [getStrategy, h]
  rcases resolve_cases host r s with ⟨e, s₁, hst, hr⟩ | ⟨st', s₁, e, s₂, hst, _, hr⟩ |
    ⟨st', s₁, l, s₂, hst, _, hr⟩ <;> rw [hget] at hst <;> cases hst <;> rw [hr]

theorem strategy_location {st : Strategy σ} (h : r.strategy = some st) (s : Session σ) :
    (r.location host s).self.strategy = some st := by
  rcases location_cases host r s with ⟨e, _, hr⟩ | ⟨l, _, _, hr⟩ | ⟨_, _, hr⟩ <;> rw [hr]
  · exact h
  · exact h
  · exact strategy_resolve h s

theorem strategy_fetch {st : Strategy σ} (h : r.strategy = some st) (s : Session σ) :
    (r.fetch host s).self.strategy = some st := by
  obtain ⟨e, hr⟩ := self_fetch host r s
  rw [hr]
  exact strategy_location h s

/-- No question changes what is in memory. -/
theorem isKeptIn_ask (host : Host σ) (r : Resolver σ) (q : Question) (s : Session σ) :
    r.IsKeptIn (r.ask host q s).self where
  strategy st hst := by
    rcases self_ask_cases host r q s with ⟨_, hr⟩ | ⟨_, f, hr⟩ | ⟨_, hr⟩ <;> rw [hr]
    · exact strategy_location hst s
    · exact strategy_fetch hst s
    · exact hst
  resolved l hl := resolved_ask hl q s
  recognised f hf := (ask_of_recognised hf q s).1
  failure e he := failure_ask_of_failure r q s he

/-- No run changes what was in memory before it. -/
theorem isKeptIn_run (host : Host σ) (r : Resolver σ) (s : Session σ) (ts : List (Turn σ)) :
    r.IsKeptIn (r.run host s ts).1 :=
  run_keeps (P := r.IsKeptIn) (fun r' q s h ↦ h.trans (isKeptIn_ask host r' q s)) (.refl r) s ts

/-! ## Memory that hangs together -/

/-- A format is remembered with a location only, and a location with a strategy only. -/
structure IsCoherent (r : Resolver σ) : Prop where
  located : r.recognised.isSome → r.resolved.isSome
  chosen : r.resolved.isSome → r.strategy.isSome

theorem isCoherent_forget (r : Resolver σ) : r.forget.IsCoherent := ⟨nofun, nofun⟩

theorem isCoherent_location (h : r.IsCoherent) (s : Session σ) :
    (r.location host s).self.IsCoherent := by
  rcases location_cases host r s with ⟨e, _, hr⟩ | ⟨l, _, _, hr⟩ | ⟨_, hnone, hr⟩ <;> rw [hr]
  · exact h
  · exact h
  · -- There is no location yet, and so no format.
    have hl : ¬ r.resolved.isSome := by simp [hnone]
    have hf : ¬ r.recognised.isSome := mt h.located hl
    rcases resolve_cases host r s with ⟨e, s₁, _, hr⟩ | ⟨st, s₁, e, s₂, _, _, hr⟩ |
      ⟨st, s₁, l, s₂, _, _, hr⟩ <;> rw [hr]
    · exact ⟨h.located, h.chosen⟩
    · exact ⟨h.located, fun _ ↦ rfl⟩
    · exact ⟨fun _ ↦ rfl, fun _ ↦ rfl⟩

theorem isCoherent_fetch (h : r.IsCoherent) (s : Session σ) :
    (r.fetch host s).self.IsCoherent := by
  have hl : (r.location host s).self.IsCoherent := isCoherent_location h s
  obtain ⟨e, hr⟩ := self_fetch host r s
  rw [hr]
  exact ⟨hl.located, hl.chosen⟩

/-- After a fetch that succeeds the location is in memory: it is given at once, whatever has become
of the session. -/
theorem location_of_fetched {k : Handle σ} (h : (r.fetch host s).result = .ok k) :
    ∃ l, (r.location host s).result = .ok l ∧
      ∀ t, (r.fetch host s).self.location host t = ⟨.ok l, (r.fetch host s).self, t⟩ := by
  have hf : (r.fetch host s).self.failure = none := by
    rw [failure_fetch, h]
    rfl
  obtain ⟨l, hl, hresolved⟩ := resolved_fetch h
  exact ⟨l, hl, location_of_resolved hf hresolved⟩

theorem isCoherent_ask (r : Resolver σ) (q : Question) (s : Session σ) (h : r.IsCoherent) :
    (r.ask host q s).self.IsCoherent := by
  cases q with
  | location => exact isCoherent_location h s
  | openStream => exact isCoherent_fetch h s
  | checkAccess =>
      rw [ask, Step.self_map, self_checkAccess]
      exact isCoherent_fetch h s
  | resolveFormat =>
      have hfetch : (r.fetch host s).self.IsCoherent := isCoherent_fetch h s
      rcases hr : r.recognised with _ | f
      · rw [ask, Step.self_map]
        rcases resolveFormat_cases host hr s with ⟨e, _, hself⟩ | ⟨k, e, s₁, _, _, hself⟩ |
          ⟨k, t, s₁, l, hk, _, _, hself⟩ <;> rw [hself]
        · exact hfetch
        · exact hfetch
        · obtain ⟨l', _, hresolved⟩ := resolved_fetch hk
          exact ⟨fun _ ↦ Option.isSome_iff_exists.2 ⟨l', hresolved⟩, hfetch.chosen⟩
      · rw [(ask_of_recognised hr .resolveFormat s).2 rfl]
        exact h

/-! ## Formats that are left unset -/

/-- A question that fails leaves the format in memory as it was, and none if there was none. -/
theorem recognised_ask_of_error {q : Question} {e : Failure}
    (h : (r.ask host q s).result = .error e) :
    (r.ask host q s).self.recognised = r.recognised := by
  rcases hr : r.recognised with _ | f
  · rcases hask : (r.ask host q s).self.recognised with _ | f
    · rfl
    · rw [(recognised_ask_iff hr q s f).1 hask] at h
      cases h
  · exact (ask_of_recognised hr q s).1

theorem takeContentType_eq_error_iff {h : Handle σ} :
    (∃ e, (takeContentType h s).1 = .error e) ↔ h.FailsToTell s := by
  rcases hclose : (s.perform h.contentType).2.perform h.close with ⟨e | ⟨⟩, s₁⟩ <;>
    simp only [takeContentType, Handle.FailsToTell, hclose]
  · exact iff_of_true ⟨e, rfl⟩ (.inr ⟨e, rfl⟩)
  · simp

/-- A handle that fails to tell its content type, or to be closed, ends the question for the format
and leaves what the fetch has left. -/
theorem resolveFormat_of_failsToTell {k : Handle σ} (hr : r.recognised = none)
    (hk : (r.fetch host s).result = .ok k) (h : k.FailsToTell (r.fetch host s).session) :
    (∃ e, (r.resolveFormat host s).result = .error e) ∧
      (r.resolveFormat host s).self = (r.fetch host s).self := by
  obtain ⟨e, he⟩ := takeContentType_eq_error_iff.2 h
  rcases resolveFormat_cases host hr s with ⟨e', hk', _⟩ | ⟨k', e', s₁, _, _, hstep⟩ |
    ⟨k', t, s₁, l, hk', htake, _⟩
  · rw [hk] at hk'
    cases hk'
  · rw [hstep]
    exact ⟨⟨e', rfl⟩, rfl⟩
  · rw [hk] at hk'
    cases hk'
    rw [htake] at he
    cases he

/-- With any other handle the question succeeds. -/
theorem resolveFormat_of_told {k : Handle σ} (hr : r.recognised = none)
    (hk : (r.fetch host s).result = .ok k) (h : ¬ k.FailsToTell (r.fetch host s).session) :
    ∃ f, (r.resolveFormat host s).result = .ok f ∧
      (r.resolveFormat host s).self = { (r.fetch host s).self with recognised := some f } := by
  rcases resolveFormat_cases host hr s with ⟨e, hk', _⟩ | ⟨k', e, s₁, hk', htake, _⟩ |
    ⟨k', t, s₁, l, _, _, _, hstep⟩
  · rw [hk] at hk'
    cases hk'
  · rw [hk] at hk'
    cases hk'
    exact absurd (takeContentType_eq_error_iff.1 ⟨e, by rw [htake]⟩) h
  · rw [hstep]
    exact ⟨_, rfl, rfl⟩

/-! ## Whole runs -/

/-- After every run of a new resolver a format in memory comes with a location, and a location with
a strategy, and nothing that is in memory is changed by any further run. A question that fails
leaves the format as it was. Where the format is not known yet and the object is fetched, the
location is in memory from then on, so that it is given at once and nothing is asked for it; the
question for the format then fails if and only if the handle fails to tell its content type or to be
closed, and a format comes into memory if and only if it does not fail. -/
theorem memory_only_grows (host : Host σ) (r : Resolver σ) (s : Session σ) (ts : List (Turn σ)) :
    let r' := (r.forget.run host s ts).1
    r'.IsCoherent ∧
    (∀ t ts', r'.IsKeptIn (r'.run host t ts').1) ∧
    (∀ q t e, (r'.ask host q t).result = .error e →
      (r'.ask host q t).self.recognised = r'.recognised) ∧
    ∀ t k, r'.recognised = none → (r'.fetch host t).result = .ok k →
      let fetched := (r'.fetch host t).self
      let step := r'.resolveFormat host t
      (∃ l, (r'.location host t).result = .ok l ∧
        ∀ u, fetched.location host u = ⟨.ok l, fetched, u⟩) ∧
      (k.FailsToTell (r'.fetch host t).session →
        (∃ e, step.result = .error e) ∧ step.self = fetched ∧ step.self.recognised = none) ∧
      (¬ k.FailsToTell (r'.fetch host t).session →
        ∃ f, step.result = .ok f ∧ step.self = { fetched with recognised := some f }) := by
  intro r'
  refine ⟨?_, isKeptIn_run host r', fun q t e ↦ recognised_ask_of_error, ?_⟩
  · exact run_keeps (P := IsCoherent) isCoherent_ask (isCoherent_forget r) s ts
  · intro t k hr hk fetched step
    refine ⟨location_of_fetched hk, fun h ↦ ?_, resolveFormat_of_told hr hk⟩
    obtain ⟨herror, hself⟩ := resolveFormat_of_failsToTell hr hk h
    refine ⟨herror, hself, ?_⟩
    rw [hself]
    exact (recognised_fetch host r' t).trans hr

/-- A resolver that has been asked for access to an object which cannot tell its content type. -/
def admitted : Resolver Scripted.Stage :=
  ((Scripted.direct "c.jpg").forget.run Scripted.host (Scripted.session [unreadable])
    [{ question := .checkAccess }]).1

/-- It has the location of the object for good, and no format. Once the object tells its content
type again, it has the format as well. -/
theorem memory_only_grows_unreadable :
    let store := Scripted.session [unreadable]
    let mended := Scripted.session
      [{ unreadable with reply := .object { data := some [], contentType := some "image/png" } }]
    admitted.resolved = some ⟨"images", "c.jpg"⟩ ∧ admitted.strategy.isSome ∧
      (∀ t ts, (admitted.run Scripted.host t ts).1.resolved = some ⟨"images", "c.jpg"⟩) ∧
      (∃ e, (admitted.resolveFormat Scripted.host store).result = .error e) ∧
      (admitted.resolveFormat Scripted.host store).self.recognised = none ∧
      (admitted.resolveFormat Scripted.host mended).self.recognised.isSome := by
  intro store mended
  have hl : admitted.resolved = some ⟨"images", "c.jpg"⟩ := rfl
  have hr : admitted.recognised = none := rfl
  have hk : (admitted.fetch Scripted.host store).result = .ok (Scripted.handle 0) := rfl
  have htold : (Scripted.handle 0).FailsToTell (admitted.fetch Scripted.host store).session :=
    .inl ⟨.ofKind .storageFailure "sio", rfl⟩
  have hk' : (admitted.fetch Scripted.host mended).result = .ok (Scripted.handle 0) := rfl
  have htold' : ¬ (Scripted.handle 0).FailsToTell
      (admitted.fetch Scripted.host mended).session := by
    rintro (⟨e, he⟩ | ⟨e, he⟩) <;> cases he
  have hadmitted : ((Scripted.direct "c.jpg").forget.run Scripted.host store
      [{ question := .checkAccess }]).1 = admitted := rfl
  have hrun := memory_only_grows Scripted.host (Scripted.direct "c.jpg") store
    [{ question := .checkAccess }]
  simp only [hadmitted] at hrun
  obtain ⟨hcoherent, hkept, -, hfetched⟩ := hrun
  obtain ⟨-, hfails, -⟩ := hfetched store (Scripted.handle 0) hr hk
  obtain ⟨herror, -, hnone⟩ := hfails htold
  obtain ⟨-, -, htells⟩ := hfetched mended (Scripted.handle 0) hr hk'
  obtain ⟨f, -, hself⟩ := htells htold'
  refine ⟨hl, hcoherent.chosen (Option.isSome_of_eq_some hl),
    fun t ts ↦ (hkept t ts).resolved _ hl, herror, hnone, ?_⟩
  rw [hself]
  rfl

end Resolver

end ObjectLookup
