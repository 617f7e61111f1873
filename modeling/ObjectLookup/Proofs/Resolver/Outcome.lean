import ObjectLookup.Proofs.Resolver.Memory
import ObjectLookup.Proofs.Storage.Steady

/-! # What the outcome of a question depends on

The outcome of a question is its reply as the caller sees it, or its failure. All but the one for
the location are functions of two things: what is seen of the object that the resolver fetches
(`Step.seen`), and the location that it finds (`outcome_checkAccess`, `outcome_resolveFormat`,
`outcome_openStream`). And what is seen of the object is a function of the location and of the
client's answer (`LooksUpAs.fetch`).
-/

namespace ObjectLookup

variable {σ : Type}

/-- A reply as the caller sees it. -/
inductive View where
  | located (l : Location)
  | accessible
  | recognised (f : Format)
  | opened (seen : List Use → List Reading)

def Reply.view (s : Session σ) : Reply σ → View
  | .located l => .located l
  | .accessible => .accessible
  | .recognised f => .recognised f
  | .opened source => .opened (source.readings s)

/-- What the caller sees of an answered question. -/
def Step.outcome (step : Step (Resolver σ) σ (Reply σ)) : Except Failure View :=
  step.result.map (Reply.view step.session)

/-- What can be seen of the object of a fetch. -/
def Step.seen (step : Step (Resolver σ) σ (Handle σ)) : Except Failure (List Use → List Reading) :=
  step.result.map fun h ↦ h.seen step.session

/-- What closing a handle came to, as its only use. -/
def Reading.closing : List Reading → Except Failure Unit
  | [.closed x] => x
  | _ => .ok ()

/-- The content type of a handle that was closed after it was asked for it. -/
def Reading.taking : List Reading → Except Failure (Option String)
  | [.contentType x, .closed (.ok ())] => x
  | [_, .closed (.error e)] => .error e
  | _ => .ok none

namespace Resolver

variable {host : Host σ} {r : Resolver σ} {s : Session σ}

theorem outcome_openStream (host : Host σ) (r : Resolver σ) (s : Session σ) :
    (r.ask host .openStream s).outcome = (r.fetch host s).seen.map .opened := by
  simp only [ask, openStream, Step.outcome, Step.seen, Step.map]
  rcases (r.fetch host s).result with e | h <;> rfl

theorem outcome_checkAccess (host : Host σ) (r : Resolver σ) (s : Session σ) :
    (r.ask host .checkAccess s).outcome =
      ((r.fetch host s).seen.bind fun seen ↦ Reading.closing (seen [.close])).map
        fun () ↦ .accessible := by
  rcases hh : (r.fetch host s).result with e | h
  · simp only [ask, checkAccess, Step.outcome, Step.seen, Step.map, hh]
    rfl
  · have hclose : h.seen (r.fetch host s).session [.close] =
        [.closed ((r.fetch host s).session.perform h.close).1] := rfl
    simp only [ask, checkAccess, Step.outcome, Step.seen, Step.map, hh, Except.map, Except.bind,
      hclose, Reading.closing]
    rcases ((r.fetch host s).session.perform h.close).1 with e | ⟨⟩ <;> rfl

/-- Taking the content type of a handle shows in two uses. -/
theorem taking_seen (h : Handle σ) (s : Session σ) :
    Reading.taking (h.seen s [.contentType, .close]) = (takeContentType h s).1 := by
  have hseen : h.seen s [.contentType, .close] =
      [.contentType (s.perform h.contentType).1,
        .closed ((s.perform h.contentType).2.perform h.close).1] := rfl
  rw [hseen]
  rcases hc : (s.perform h.contentType).2.perform h.close with ⟨e | ⟨⟩, s'⟩
  · simp only [takeContentType, hc, Reading.taking]
  · simp only [takeContentType, hc, Reading.taking]

theorem outcome_resolveFormat (host : Host σ) (hr : r.recognised = none) (s : Session σ) :
    (r.ask host .resolveFormat s).outcome =
      ((r.fetch host s).seen.bind fun seen ↦
        (Reading.taking (seen [.contentType, .close])).bind fun t ↦
          (r.location host s).result.map fun l ↦
            .recognised (.infer t r.identifier.value l.key)) := by
  simp only [ask, Step.outcome, Step.map]
  rcases resolveFormat_cases host hr s with ⟨e, hh, h⟩ | ⟨k, e, s₁, hh, ht, h⟩ |
    ⟨k, t, s₁, l, hh, ht, hl, h⟩ <;>
    simp only [h, Step.seen, hh, Except.map, Except.bind, taking_seen]
  · simp only [ht]
  · simp only [ht, hl]
    rfl

/-! ## In steady surroundings -/

section Steady

variable {c : Client σ} {I : σ → Prop} {t : Session σ}

/-- The resolver looks up by a strategy whose answers depend on its arguments alone: one that it was
given, the direct one, or the dynamic one with such a delegate, or with delegates disabled. -/
def IsPredictable (I : σ → Prop) (r : Resolver σ) : Prop :=
  match r.strategy, Selector.ofSettings? r.settings, r.delegate with
  | some st, _, _ => st.IsPredictable I
  | none, some .dynamic, some d => d.IsPredictable I
  | none, some .dynamic, none => Delegate.wanted? r.settings = none
  | none, _, _ => True

/-- A predictable resolver selects the same strategy in every session. -/
theorem IsPredictable.getStrategy (h : r.IsPredictable I) (hs : s.IsServedBy c I) (t : Session σ) :
    (r.getStrategy host s).1 = (r.getStrategy host t).1 ∧
      (r.getStrategy host s).2.IsServedBy c I ∧
      ∀ st, (r.getStrategy host s).1 = .ok st → st.IsPredictable I := by
  unfold IsPredictable at h
  rcases hst : r.strategy with _ | st
  · rcases hsel : Selector.ofSettings? r.settings with _ | _ | _
    · simp only [Resolver.getStrategy, hst, Strategy.select, hsel]
      exact ⟨trivial, hs.record _, nofun⟩
    · simp only [Resolver.getStrategy, hst, Strategy.select, hsel]
      refine ⟨trivial, hs.record _, ?_⟩
      rintro _ ⟨⟩
      trivial
    · rcases hd : r.delegate with _ | d <;> simp only [hst, hsel, hd] at h
      · simp only [Resolver.getStrategy, hst, Strategy.select, hsel, hd, Delegate.load, h]
        refine ⟨trivial, (hs.record _).log _ _ _, ?_⟩
        rintro _ ⟨⟩
        trivial
      · simp only [Resolver.getStrategy, hst, Strategy.select, hsel, hd]
        refine ⟨trivial, hs.record _, ?_⟩
        rintro _ ⟨⟩
        exact h
  · simp only [Resolver.getStrategy, hst]
    refine ⟨trivial, hs, ?_⟩
    rintro _ ⟨⟩
    simpa only [hst] using h

/-- A resolver that looks up as `fresh` does in the session `t`. -/
structure LooksUpAs (host : Host σ) (I : σ → Prop) (r fresh : Resolver σ) (t : Session σ) :
    Prop where
  identifier : r.identifier = fresh.identifier
  context : r.context = fresh.context
  predictable : r.IsPredictable I
  strategy : ∀ s, (r.getStrategy host s).1 = (fresh.getStrategy host t).1

theorem IsPredictable.looksUpAs (host : Host σ) (h : r.IsPredictable I) (ht : t.IsServedBy c I) :
    r.LooksUpAs host I r t := ⟨rfl, rfl, h, fun s ↦ ((h.getStrategy ht s).1).symm⟩

namespace LooksUpAs

variable {fresh : Resolver σ}

/-- What is remembered of the answers has no part in how a resolver looks up. -/
theorem remembering (h : r.LooksUpAs host I fresh t) (l : Option Location) (f : Option Format)
    (e : Option Failure) :
    { r with resolved := l, recognised := f, failure := e }.LooksUpAs host I fresh t :=
  ⟨h.identifier, h.context, h.predictable, h.strategy⟩

/-- The strategy that was selected is the one to be selected, so that knowing it changes nothing. -/
theorem known {st : Strategy σ} {s₁ : Session σ} (h : r.LooksUpAs host I fresh t)
    (hs : s.IsServedBy c I) (hst : r.getStrategy host s = (.ok st, s₁)) :
    { r with strategy := some st }.LooksUpAs host I fresh t where
  identifier := h.identifier
  context := h.context
  predictable := (h.predictable.getStrategy hs s).2.2 st (congrArg Prod.fst hst)
  strategy _ := (congrArg Prod.fst hst).symm.trans (h.strategy s)

/-- Both lookups end alike, and the resolver goes on looking up as before. -/
theorem resolve (h : r.LooksUpAs host I fresh t) (hs : s.IsServedBy c I) (ht : t.IsServedBy c I)
    (hfresh : fresh.IsPredictable I) :
    (r.resolve host s).result = (fresh.resolve host t).result ∧
      (r.resolve host s).session.IsServedBy c I ∧
      (r.resolve host s).self.LooksUpAs host I fresh t := by
  have hsame : (r.getStrategy host s).1 = (fresh.getStrategy host t).1 := h.strategy s
  obtain ⟨_, hs₁, hst⟩ := h.predictable.getStrategy hs s
  obtain ⟨_, ht₁, _⟩ := hfresh.getStrategy ht t
  rcases hx : r.getStrategy host s with ⟨x, s₁⟩
  rcases hy : fresh.getStrategy host t with ⟨y, t₁⟩
  rw [hx, hy] at hsame
  rw [hx] at hs₁ hst
  rw [hy] at ht₁
  cases hsame
  rcases x with e | st
  · simp only [Resolver.resolve, hx, hy, ← h.identifier]
    exact ⟨trivial, hs₁, h.remembering _ _ _⟩
  · have hknown : { r with strategy := some st }.LooksUpAs host I fresh t := h.known hs hx
    obtain ⟨hsame, hs₂⟩ := (hst st rfl).resolve (hs₁.record .consulted) (ht₁.record .consulted)
      r.identifier r.context
    simp only [Resolver.resolve, hx, hy, ← h.identifier, ← h.context]
    rcases hx' : st.resolve r.identifier r.context (s₁.record .consulted) with ⟨x', s₂⟩
    rcases hy' : st.resolve r.identifier r.context (t₁.record .consulted) with ⟨y', t₂⟩
    rw [hx', hy'] at hsame
    rw [hx'] at hs₂
    cases hsame
    rcases x' with e | l
    · exact ⟨rfl, hs₂, hknown.remembering _ _ _⟩
    · exact ⟨rfl, hs₂.log _ _ _, hknown.remembering _ _ _⟩

theorem location (h : r.LooksUpAs host I fresh t) (hs : s.IsServedBy c I)
    (ht : t.IsServedBy c I) (hfresh : fresh.IsPredictable I) :
    (r.location host s).session.IsServedBy c I ∧
      (r.location host s).self.LooksUpAs host I fresh t := by
  rcases location_cases host r s with ⟨e, _, h'⟩ | ⟨l, _, _, h'⟩ | ⟨_, _, h'⟩ <;> rw [h']
  · exact ⟨hs, h⟩
  · exact ⟨hs, h⟩
  · exact (h.resolve hs ht hfresh).2

end LooksUpAs

/-- A handle of a steady client leaves the session as it has to be. -/
theorem takeContentType_of_served (hc : c.IsSteady I) (hs : s.IsServedBy c I) {k : Handle σ}
    (hk : ∃ l o, (c.fetch l o).1 = .ok k) : (takeContentType k s).2.IsServedBy c I := by
  obtain ⟨l, o, ho⟩ := hk
  have hclosed : ((s.perform k.contentType).2.perform k.close).2.IsServedBy c I :=
    (hs.perform (hc.keeps_contentType l o k ho)).perform (hc.keeps_close l o k ho)
  rcases hx : (s.perform k.contentType).2.perform k.close with ⟨e | ⟨⟩, s'⟩ <;> rw [hx] at hclosed
  · simp only [takeContentType, hx]
    exact hclosed
  · simp only [takeContentType, hx]
    exact hclosed

theorem formatOfType_of_served (hs : s.IsServedBy c I) (identifier : Identifier)
    (contentType : Option String) : (formatOfType identifier contentType s).2.IsServedBy c I := by
  rcases ht : given? contentType with _ | t
  · simp only [formatOfType, ht]
    exact hs
  · rcases hm : MediaType.parse? t with _ | m <;> simp only [formatOfType, ht, hm]
    · exact hs.log _ _ _
    · exact hs

/-- A request shows what the client answers, and what it brings is of the client. -/
theorem request_of_served (host : Host σ) (hc : c.IsSteady I) (hs : s.IsServedBy c I)
    (ht : t.IsServedBy c I) (l : Location) :
    (request host l s).1.map (fun h ↦ h.seen (request host l s).2) = c.answer l t ∧
      (request host l s).2.IsServedBy c I ∧
      ∀ h, (request host l s).1 = .ok h → ∃ o, (c.fetch l o).1 = .ok h := by
  let note := "Requesting " ++ l.key ++ " from bucket " ++ l.bucket
  have hs' : ((s.log .info .resolver note).record (.requested l)).IsServedBy c I :=
    (hs.log .info .resolver note).record (.requested l)
  simp only [request, Session.getClient_of_some hs.client]
  exact ⟨hc.answer_eq l _ t hs'.outside ht.outside, hs'.perform (hc.keeps_fetch l),
    fun h hh ↦ ⟨s.outside, hh⟩⟩

namespace LooksUpAs

variable {fresh : Resolver σ}

/-- A fetch goes by the location that is found and by the client's answer for it. What it brings is
of the client, and the resolver goes on looking up as before. -/
theorem fetch (h : r.LooksUpAs host I fresh t) (hc : c.IsSteady I) (hs : s.IsServedBy c I)
    (ht : t.IsServedBy c I) (hfresh : fresh.IsPredictable I) :
    (r.fetch host s).seen =
        ((r.location host s).result.bind fun l ↦ (c.answer l t).mapError (fetchFailure l)) ∧
      (r.fetch host s).session.IsServedBy c I ∧
      (∀ k, (r.fetch host s).result = .ok k → ∃ l o, (c.fetch l o).1 = .ok k) ∧
      (r.fetch host s).self.LooksUpAs host I fresh t := by
  obtain ⟨hs', hself⟩ := h.location hs ht hfresh
  rcases fetch_cases host r s with ⟨e, hl, h'⟩ | ⟨l, e, s₁, hl, hreq, h'⟩ |
    ⟨l, k, s₁, hl, hreq, h'⟩ <;> rw [h', hl]
  · exact ⟨rfl, hs', nofun, hself⟩
  · obtain ⟨hans, hs₁, _⟩ := request_of_served host hc hs' ht l
    rw [hreq] at hans hs₁
    refine ⟨?_, hs₁, nofun, hself.remembering _ _ _⟩
    change _ = (c.answer l t).mapError (fetchFailure l)
    rw [← hans]
    rfl
  · obtain ⟨hans, hs₁, hk⟩ := request_of_served host hc hs' ht l
    rw [hreq] at hans hs₁ hk
    refine ⟨?_, hs₁, ?_, hself⟩
    · change _ = (c.answer l t).mapError (fetchFailure l)
      rw [← hans]
      rfl
    · rintro _ ⟨⟩
      exact ⟨l, hk k rfl⟩

/-- Whatever is asked, the session stays as it has to be, and the resolver goes on looking up as
before. -/
theorem ask (h : r.LooksUpAs host I fresh t) (hc : c.IsSteady I) (hs : s.IsServedBy c I)
    (ht : t.IsServedBy c I) (hfresh : fresh.IsPredictable I) (q : Question) :
    (r.ask host q s).session.IsServedBy c I ∧
      (r.ask host q s).self.LooksUpAs host I fresh t := by
  obtain ⟨_, hs', hk, hself⟩ := h.fetch hc hs ht hfresh
  refine ⟨?_, ?_⟩
  · cases q with
    | location => exact (h.location hs ht hfresh).1
    | openStream => exact hs'
    | checkAccess =>
        simp only [Resolver.ask, checkAccess, Step.session_map]
        rcases hh : (r.fetch host s).result with e | k
        · exact hs'
        · obtain ⟨l, o, ho⟩ := hk k hh
          exact hs'.perform (hc.keeps_close l o k ho)
    | resolveFormat =>
        simp only [Resolver.ask, Step.session_map]
        rcases hr : r.recognised with _ | f
        · rcases resolveFormat_cases host hr s with ⟨e, _, h'⟩ | ⟨k, e, s₁, hh, hty, h'⟩ |
            ⟨k, y, s₁, l, hh, hty, _, h'⟩ <;> rw [h']
          · exact hs'
          · have hs₁ := takeContentType_of_served hc hs' (hk k hh)
            rw [hty] at hs₁
            exact hs₁
          · have hs₁ := takeContentType_of_served hc hs' (hk k hh)
            rw [hty] at hs₁
            exact formatOfType_of_served hs₁ r.identifier y
        · rw [resolveFormat_of_recognised hr]
          exact hs
  · rcases self_ask_cases host r q s with ⟨_, h'⟩ | ⟨_, f, h'⟩ | ⟨_, h'⟩ <;> rw [h']
    · exact (h.location hs ht hfresh).2
    · exact hself.remembering _ _ _
    · exact h

end LooksUpAs

end Steady

end Resolver

end ObjectLookup
