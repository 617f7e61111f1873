import ObjectLookup.Proofs.Resolver.Failure
import ObjectLookup.Proofs.Resolver.Outcome
import ObjectLookup.Proofs.Scripted.Store
import Mathlib.Logic.Function.Basic

/-! # The memory of a resolver does not show

In steady surroundings a resolver answers from memory what it would answer without it. The invariant
is `Recalls`: each thing in memory is what a resolver that was just made would find. Every question
keeps it (`Recalls.ask`), and under it the outcomes are those of a new resolver
(`Recalls.outcome_eq`), except that a location is refused after a failed fetch
(`Recalls.outcome_location`).

Resolvers that share a session do not interfere: the invariant of each of them is kept while the
others are asked (`recalls_askAll`), in any number and in any order.
-/

namespace ObjectLookup

namespace Resolver

variable {σ : Type} {host : Host σ} {c : Client σ} {I : σ → Prop} {made r : Resolver σ}
  {s t : Session σ} {fetched : Prop}

/-- A resolver that remembers what `made` would find in the session `t`, if it had just been made.
A failure is one to look up, or one to fetch, and then something was `fetched`. -/
structure Recalls (host : Host σ) (I : σ → Prop) (r made : Resolver σ) (t : Session σ)
    (fetched : Prop) : Prop extends LooksUpAs host I r made.forget t where
  resolved : ∀ l, r.resolved = some l → (made.forget.location host t).result = .ok l
  recognised : ∀ f, r.recognised = some f →
    (made.forget.ask host .resolveFormat t).outcome = .ok (.recognised f)
  failure : ∀ e, r.failure = some e → (made.forget.location host t).result = .error e ∨
    fetched ∧ (made.forget.fetch host t).result = .error e

theorem isPredictable_forget : made.forget.IsPredictable I ↔ made.IsPredictable I := Iff.rfl

/-- What was just made remembers nothing. -/
theorem recalls_forget (hmade : made.IsPredictable I) (ht : t.IsServedBy c I) :
    made.forget.Recalls host I made t False where
  toLooksUpAs := (isPredictable_forget.2 hmade).looksUpAs host ht
  resolved := nofun
  recognised := nofun
  failure := nofun

theorem fetch_of_location_error {e : Failure} (h : (r.location host s).result = .error e) :
    (r.fetch host s).result = .error e := by
  simp only [fetch, h]

theorem seen_eq_error {step : Step (Resolver σ) σ (Handle σ)} {e : Failure} :
    step.seen = .error e ↔ step.result = .error e := by
  rcases step with ⟨e' | h, self, session⟩ <;> simp [Step.seen, Except.map]

theorem outcome_eq_recognised {step : Step (Resolver σ) σ (Reply σ)} {f : Format} :
    step.outcome = .ok (.recognised f) ↔ step.result = .ok (.recognised f) := by
  rcases step with ⟨e | x, self, session⟩
  · simp [Step.outcome, Except.map]
  · cases x <;> simp [Step.outcome, Except.map, Reply.view]

namespace Recalls

/-! ## Answers from memory -/

/-- A resolver that has not failed finds the location that a new one would find. -/
theorem location_eq (h : r.Recalls host I made t fetched) (hmade : made.IsPredictable I)
    (ht : t.IsServedBy c I) (hs : s.IsServedBy c I) (hf : r.failure = none) :
    (r.location host s).result = (made.forget.location host t).result := by
  rcases location_cases host r s with ⟨e, he, _⟩ | ⟨l, _, hl, h'⟩ | ⟨_, _, h'⟩
  · rw [hf] at he
    cases he
  · rw [h', h.resolved l hl]
  · rw [h', location_of_unresolved rfl rfl]
    exact (h.toLooksUpAs.resolve hs ht hmade).1

/-- A resolver has failed only if a new one would fail to fetch. -/
theorem fetch_error (h : r.Recalls host I made t fetched) {e : Failure}
    (he : r.failure = some e) : (made.forget.fetch host t).result = .error e := by
  rcases h.failure e he with hl | ⟨_, hf⟩
  · exact fetch_of_location_error hl
  · exact hf

section Answers

variable (hc : c.IsSteady I) (hmade : made.IsPredictable I) (ht : t.IsServedBy c I)
include hc hmade ht

/-- What is seen of the object is what would be seen of it by way of a new resolver. -/
theorem seen_eq (h : r.Recalls host I made t fetched) (hs : s.IsServedBy c I) :
    (r.fetch host s).seen = (made.forget.fetch host t).seen := by
  rcases hf : r.failure with _ | e
  · have hmade' := (isPredictable_forget.2 hmade).looksUpAs host ht
    rw [(h.toLooksUpAs.fetch hc hs ht hmade).1, (hmade'.fetch hc ht ht hmade).1,
      h.location_eq hmade ht hs hf]
  · rw [fetch_of_failure hf, seen_eq_error.2 (h.fetch_error hf)]
    rfl

/-- All questions but the one for the location end as those to a new resolver. -/
theorem outcome_eq (h : r.Recalls host I made t fetched) (hs : s.IsServedBy c I) {q : Question}
    (hq : q ≠ .location) :
    (r.ask host q s).outcome = (made.forget.ask host q t).outcome := by
  cases q with
  | location => exact absurd rfl hq
  | checkAccess => rw [outcome_checkAccess, outcome_checkAccess, h.seen_eq hc hmade ht hs]
  | openStream => rw [outcome_openStream, outcome_openStream, h.seen_eq hc hmade ht hs]
  | resolveFormat =>
      rcases hr : r.recognised with _ | f
      · rw [outcome_resolveFormat host hr, outcome_resolveFormat host rfl,
          h.seen_eq hc hmade ht hs]
        rcases hf : r.failure with _ | e
        · rw [h.location_eq hmade ht hs hf, h.identifier]
        · rw [seen_eq_error.2 (h.fetch_error hf)]
          rfl
      · rw [h.recognised f hr, (ask_of_recognised hr .resolveFormat s).2 rfl]
        rfl

end Answers

/-- The location is answered as by a new resolver, unless a fetch has failed for which a new
resolver would find a location: then the resolver repeats that failure. -/
theorem outcome_location (h : r.Recalls host I made t fetched) (hmade : made.IsPredictable I)
    (ht : t.IsServedBy c I) (hs : s.IsServedBy c I) :
    (r.ask host .location s).outcome = (made.forget.ask host .location t).outcome ∨
    fetched ∧ ∃ e, r.failure = some e ∧ (r.ask host .location s).outcome = .error e ∧
      (made.forget.fetch host t).result = .error e := by
  simp only [Resolver.ask, Step.outcome, Step.map]
  rcases hf : r.failure with _ | e
  · refine .inl ?_
    rw [h.location_eq hmade ht hs hf]
    rcases (made.forget.location host t).result with e | l <;> rfl
  · rw [location_of_failure hf]
    rcases h.failure e hf with hl | ⟨hfetched, he⟩
    · refine .inl ?_
      rw [hl]
      rfl
    · exact .inr ⟨hfetched, e, rfl, rfl, he⟩

/-! ## Every question keeps it -/

/-- A question puts nothing into memory but what a new resolver would find. -/
theorem ask (h : r.Recalls host I made t fetched) (hc : c.IsSteady I)
    (hmade : made.IsPredictable I) (ht : t.IsServedBy c I) (hs : s.IsServedBy c I)
    (q : Question) :
    (r.ask host q s).self.Recalls host I made t (fetched ∨ q ≠ .location) where
  toLooksUpAs := (h.toLooksUpAs.ask hc hs ht hmade q).2
  resolved l hl := by
    have hlookup (hl : (r.location host s).self.resolved = some l) :
        (made.forget.location host t).result = .ok l := by
      rcases eq_or_of_resolved_location hl with hl | hl
      · exact h.resolved l hl
      · rcases hf : r.failure with _ | e
        · rw [← h.location_eq hmade ht hs hf, hl]
        · rw [location_of_failure hf] at hl
          cases hl
    rcases self_ask_cases host r q s with ⟨_, h'⟩ | ⟨_, f, h'⟩ | ⟨_, h'⟩ <;> rw [h'] at hl
    · exact hlookup hl
    · obtain ⟨e, h''⟩ := self_fetch host r s
      rw [h''] at hl
      exact hlookup hl
    · exact h.resolved l hl
  recognised f hf := by
    rcases hr : r.recognised with _ | f'
    · rw [recognised_ask_iff hr] at hf
      cases eq_resolveFormat_of_ok hf
      have hq : Question.resolveFormat ≠ .location := by decide
      rwa [← h.outcome_eq hc hmade ht hs hq, outcome_eq_recognised]
    · rw [(ask_of_recognised hr q s).1] at hf
      cases hf
      exact h.recognised f hr
  failure e he := by
    rcases hf : r.failure with _ | e'
    · rcases self_ask_cases host r q s with ⟨_, h'⟩ | ⟨hq, f, h'⟩ | ⟨_, h'⟩ <;> rw [h'] at he
      · rw [failure_location, Failure.ofResult?_eq_some, h.location_eq hmade ht hs hf] at he
        exact .inl he
      · change (r.fetch host s).self.failure = some e at he
        rw [failure_fetch, Failure.ofResult?_eq_some, ← seen_eq_error, h.seen_eq hc hmade ht hs,
          seen_eq_error] at he
        exact .inr ⟨.inr hq, he⟩
      · rw [hf] at he
        cases he
    · rw [failure_ask_of_failure r q s hf] at he
      cases he
      rcases h.failure e hf with hl | ⟨hfetched, hfetch⟩
      · exact .inl hl
      · exact .inr ⟨.inl hfetched, hfetch⟩

theorem mono {fetched' : Prop} (h : r.Recalls host I made t fetched) (himp : fetched → fetched') :
    r.Recalls host I made t fetched' where
  toLooksUpAs := h.toLooksUpAs
  resolved := h.resolved
  recognised := h.recognised
  failure e he := (h.failure e he).imp_right fun ⟨hf, hfetch⟩ ↦ ⟨himp hf, hfetch⟩

end Recalls

/-! ## Resolvers that share a session -/

section Many

variable {ι : Type} [DecidableEq ι]

/-- Asks the resolvers of a family, one question after the other; returns what they leave. -/
def askAll (host : Host σ) (rs : ι → Resolver σ) (s : Session σ) :
    List (ι × Question) → (ι → Resolver σ) × Session σ
  | [] => (rs, s)
  | (i, q) :: calls =>
    let step := (rs i).ask host q s
    askAll host (Function.update rs i step.self) step.session calls

/-- Whichever resolvers are asked, each of them goes on remembering what a new one would find. -/
theorem recalls_askAll (host : Host σ) (hc : c.IsSteady I) {made : ι → Resolver σ}
    (hmade : ∀ i, (made i).IsPredictable I) (ht : t.IsServedBy c I) {rs : ι → Resolver σ}
    {fetched : ι → Prop} (h : ∀ i, (rs i).Recalls host I (made i) t (fetched i))
    (hs : s.IsServedBy c I) (calls : List (ι × Question)) :
    (askAll host rs s calls).2.IsServedBy c I ∧
      ∀ i, ((askAll host rs s calls).1 i).Recalls host I (made i) t
        (fetched i ∨ ∃ q, (i, q) ∈ calls ∧ q ≠ .location) := by
  induction calls generalizing rs s fetched with
  | nil => exact ⟨hs, fun i ↦ (h i).mono .inl⟩
  | cons call calls ih =>
      obtain ⟨i, q⟩ := call
      let step := (rs i).ask host q s
      have hs' : step.session.IsServedBy c I :=
        ((h i).toLooksUpAs.ask hc hs ht (hmade i) q).1
      -- Only the resolver that is asked changes, and it keeps the invariant.
      have h' : ∀ j, (Function.update rs i step.self j).Recalls host I (made j) t
          (fetched j ∨ (j = i ∧ q ≠ .location)) := by
        intro j
        by_cases hj : j = i
        · subst hj
          rw [Function.update_self]
          exact ((h j).ask hc (hmade j) ht hs q).mono (Or.imp_right fun hq ↦ ⟨rfl, hq⟩)
        · rw [Function.update_of_ne hj]
          exact (h j).mono .inl
      obtain ⟨hserved, hrecalls⟩ := ih h' hs'
      refine ⟨hserved, ?_⟩
      intro j
      apply (hrecalls j).mono
      rintro ((hf | ⟨rfl, hq⟩) | ⟨q', hmem, hq'⟩)
      · exact .inl hf
      · exact .inr ⟨q, List.mem_cons_self, hq⟩
      · exact .inr ⟨q', List.mem_cons_of_mem _ hmem, hq'⟩

/-- Memory does not show, and resolvers do not interfere. In steady surroundings, after any calls on
any number of resolvers with predictable strategies, each question for the access, the format or the
content ends as it does for the resolver as it was made, asked in any other session over the same
store. So does the one for the location, unless the resolver has failed to fetch what it found: then
it repeats that failure. -/
theorem outcome_askAll_eq_forget (host : Host σ) (hc : c.IsSteady I) {made : ι → Resolver σ}
    (hmade : ∀ i, (made i).IsPredictable I) (hs : s.IsServedBy c I) (ht : t.IsServedBy c I)
    (calls : List (ι × Question)) (i : ι) :
    let (rs, s') := askAll host (fun i ↦ (made i).forget) s calls
    s'.IsServedBy c I ∧
      (∀ q ≠ .location,
        ((rs i).ask host q s').outcome = ((made i).forget.ask host q t).outcome) ∧
      (((rs i).ask host .location s').outcome = ((made i).forget.ask host .location t).outcome ∨
        (∃ q, (i, q) ∈ calls ∧ q ≠ .location) ∧
          ∃ e, (rs i).failure = some e ∧ ((rs i).ask host .location s').outcome = .error e ∧
            ((made i).forget.fetch host t).result = .error e) := by
  obtain ⟨hs', hrecalls⟩ := recalls_askAll host hc hmade ht
    (fun i ↦ recalls_forget (hmade i) ht) hs calls
  have h := (hrecalls i).mono fun hi ↦ hi.resolve_left not_false
  refine ⟨hs', ?_, h.outcome_location (hmade i) ht hs'⟩
  intro q hq
  exact h.outcome_eq hc (hmade i) ht hs' hq

end Many

/-- A store of two images, one of which fails to close. -/
def album : List Scripted.Entry :=
  [⟨⟨"images", "a.gif"⟩, .object { data := some [0x61], contentType := some "image/gif" }⟩,
    ⟨⟨"images", "b.png"⟩, .object { data := some [0x62]
                                    faults := { close := some (.invalidValue "busy") } }⟩]

/-- Three resolvers of one identifier: by its own text, by a delegate, and without a delegate. -/
def trio : Fin 3 → Resolver Scripted.Stage
  | 0 => {
      identifier := ⟨"a.gif"⟩
      settings := { lookupStrategy := some "Direct", bucketName := some "images" } }
  | 1 => {
      identifier := ⟨"a.gif"⟩
      settings := { lookupStrategy := some "Dynamic", bucketName := some "images" }
      delegate := some (Scripted.delegate 0 (.const (.text "b.png"))) }
  | 2 => {
      identifier := ⟨"a.gif"⟩
      settings := { lookupStrategy := some "Dynamic", bucketName := some "images" } }

theorem isPredictable_trio : ∀ i, (trio i).IsPredictable (Scripted.HasEntries album)
  | 0 => by
      have h : Selector.ofSettings? (trio 0).settings = some .direct := by decide +kernel
      simp only [IsPredictable, h]
      trivial
  | 1 => by
      have h : Selector.ofSettings? (trio 1).settings = some .dynamic := by decide +kernel
      simp only [IsPredictable, h]
      exact Scripted.isPredictable_delegate 0 album nofun
  | 2 => by
      have h : Selector.ofSettings? (trio 2).settings = some .dynamic := by decide +kernel
      simp only [IsPredictable, h]
      rfl

/-- However the others were asked, the second of the three still fails to close its image, as it
does on its own. -/
theorem outcome_askAll_eq_forget_trio :
    let (rs, s) := askAll Scripted.host (fun i ↦ (trio i).forget) (Scripted.session album)
      [(0, .resolveFormat), (1, .location), (2, .checkAccess), (0, .openStream), (1, .checkAccess)]
    ((rs 1).ask Scripted.host .checkAccess s).outcome =
        ((trio 1).forget.ask Scripted.host .checkAccess (Scripted.session album)).outcome ∧
      ((rs 1).ask Scripted.host .checkAccess s).outcome = .error (.invalidValue "busy") := by
  have h := (outcome_askAll_eq_forget Scripted.host (Scripted.isSteady_client 0 album)
    isPredictable_trio (Scripted.isServedBy_session album) (Scripted.isServedBy_session album)
    [(0, .resolveFormat), (1, .location), (2, .checkAccess), (0, .openStream), (1, .checkAccess)]
    1).2.1 .checkAccess nofun
  exact ⟨h, h.trans rfl⟩

end Resolver

end ObjectLookup
