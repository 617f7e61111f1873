import ObjectLookup.Proofs.Resolver.Activity
import ObjectLookup.Proofs.Session.Client

/-! # How far a question gets

A question turns to storage if it wants an object and a location is found for it (`sought?`). It
gets the shared client then, asks it for the object, and obtains a handle, or fails on the way
(`obtained?`).

A question that does not turn to storage leaves the client as it was and requests nothing
(`idle_of_sought?_eq_none`). If one does turn to storage, what becomes of the client is for the
factory alone to say (`client_of_sought?`). With the handle that it obtains it does what is in
`Handle.after`, and nothing else (`outside_of_obtained?`).
-/

namespace ObjectLookup

variable {σ : Type}

/-- What a question makes of the outside once it has obtained a handle. -/
def Handle.after (h : Handle σ) : Question → σ → σ
  | .checkAccess, o => (h.close o).2
  | .resolveFormat, o => (h.close (h.contentType o).2).2
  | .location, o | .openStream, o => o

namespace Resolver

variable {host : Host σ} {r : Resolver σ} {q : Question} {s t : Session σ} {l : Location}
  {h : Handle σ}

/-! ## Turning to storage -/

theorem client_getStrategy (host : Host σ) (r : Resolver σ) (s : Session σ) :
    (r.getStrategy host s).2.client = s.client := by
  rcases h : r.strategy with _ | st <;> simp only [getStrategy, h]
  exact Strategy.client_select host.importer r.settings r.delegate s

theorem client_resolve (host : Host σ) (r : Resolver σ) (s : Session σ) :
    (r.resolve host s).session.client = s.client := by
  have hget := client_getStrategy host r s
  rcases resolve_cases host r s with ⟨e, s₁, hx, h⟩ | ⟨st, s₁, e, s₂, hx, hy, h⟩ |
    ⟨st, s₁, l, s₂, hx, hy, h⟩ <;> rw [hx] at hget <;> rw [h]
  · exact hget
  · have hst := st.client_resolve r.identifier r.context (s₁.record .consulted)
    rw [hy] at hst
    exact hst.trans hget
  · have hst := st.client_resolve r.identifier r.context (s₁.record .consulted)
    rw [hy] at hst
    exact hst.trans hget

@[simp] theorem client_location (host : Host σ) (r : Resolver σ) (s : Session σ) :
    (r.location host s).session.client = s.client := by
  rcases location_cases host r s with ⟨e, _, h⟩ | ⟨l, _, _, h⟩ | ⟨_, _, h⟩ <;> rw [h]
  exact client_resolve host r s

/-- The location for which a question turns to storage, and the session in which it does: none if
it does not want an object, or if no location is found. -/
def sought? (host : Host σ) (r : Resolver σ) (q : Question) (s : Session σ) :
    Option (Location × Session σ) :=
  match r.wantsObject q, (r.location host s).result with
  | true, .ok l => some (l, (r.location host s).session)
  | _, _ => none

theorem sought?_eq_some : r.sought? host q s = some (l, t) ↔
    r.wantsObject q = true ∧ (r.location host s).result = .ok l ∧
      (r.location host s).session = t := by
  rcases hw : r.wantsObject q with _ | _ <;> rcases hl : (r.location host s).result with e | l' <;>
    simp [sought?, hw, hl]

theorem fetch_of_unlocated {e : Failure} (h : (r.location host s).result = .error e) :
    r.fetch host s = ⟨.error e, (r.location host s).self, (r.location host s).session⟩ := by
  simp only [fetch, h]

/-- A question whose fetch fails leaves the session that the fetch has left. -/
theorem session_ask_of_fetch_error (hw : r.wantsObject q = true) {e : Failure}
    (he : (r.fetch host s).result = .error e) :
    (r.ask host q s).session = (r.fetch host s).session := by
  cases q with
  | location => simp [wantsObject] at hw
  | openStream => rfl
  | checkAccess => simp only [ask, checkAccess, he, Step.session_map]
  | resolveFormat =>
      have hr : r.recognised = none := by simp_all [wantsObject]
      simp only [ask, resolveFormat, hr, he, Step.session_map]

/-- A question that does not turn to storage does no more than to look up the location. -/
theorem session_ask_of_sought?_eq_none (h : r.sought? host q s = none) :
    (r.ask host q s).session = (r.location host s).session ∨ (r.ask host q s).session = s := by
  by_cases hq : q = .location
  · subst hq
    exact .inl rfl
  · rcases hw : r.wantsObject q with _ | _
    · exact .inr (ask_of_not_wantsObject hq hw host s).2
    · rcases hl : (r.location host s).result with e | l
      · have hfetch := fetch_of_unlocated hl
        refine .inl ?_
        rw [session_ask_of_fetch_error hw (e := e) (by rw [hfetch]), hfetch]
      · simp [sought?, hw, hl] at h

/-- A question that does not turn to storage neither builds the client nor requests anything. -/
theorem idle_of_sought?_eq_none (h : r.sought? host q s = none) :
    (r.ask host q s).session.client = s.client ∧ (r.ask host q s).session.built = s.built ∧
      (r.ask host q s).session.requests = s.requests := by
  rcases session_ask_of_sought?_eq_none h with h' | h' <;> rw [h']
  · have hlookup := extends_location host r s
    exact ⟨client_location host r s, hlookup.built, by simpa using hlookup.requests_eq⟩
  · exact ⟨rfl, rfl, rfl⟩

/-- A question turns to storage in a session that has the client of the one before. -/
theorem built_of_sought? (h : r.sought? host q s = some (l, t)) :
    t.client = s.client ∧ t.built = s.built := by
  obtain ⟨_, _, rfl⟩ := sought?_eq_some.1 h
  exact ⟨client_location host r s, (extends_location host r s).built⟩

/-! ## Getting the client -/

theorem fetch_of_sought? (h : r.sought? host q s = some (l, t)) :
    (r.fetch host s).session = (request host l t).2 ∧
      (r.fetch host s).result = (request host l t).1.mapError (fetchFailure l) := by
  obtain ⟨_, hl, rfl⟩ := sought?_eq_some.1 h
  rcases hr : request host l (r.location host s).session with ⟨e | k, s₁⟩ <;>
    simp only [fetch, hl, hr] <;> exact ⟨trivial, rfl⟩

/-- A request leaves the client as getting it does. -/
theorem client_request (host : Host σ) (l : Location) (t : Session σ) :
    (request host l t).2.client = (t.getClient host.factory).2.client ∧
      (request host l t).2.built = (t.getClient host.factory).2.built := by
  rcases hc : t.getClient host.factory with ⟨e | c, u⟩ <;> simp only [request, hc]
  · exact ⟨trivial, trivial⟩
  · exact ⟨rfl, rfl⟩

/-- What becomes of the client in answer to a question is what getting it comes to. -/
theorem client_of_sought? (h : r.sought? host q s = some (l, t)) :
    (r.ask host q s).session.client = (t.getClient host.factory).2.client ∧
      (r.ask host q s).session.built = (t.getClient host.factory).2.built := by
  obtain ⟨hw, _, _⟩ := sought?_eq_some.1 h
  obtain ⟨hrest, hclient, _⟩ := ask_of_wantsObject hw host s
  obtain ⟨hsession, _⟩ := fetch_of_sought? h
  rw [hsession] at hrest hclient
  obtain ⟨hclient', hbuilt⟩ := client_request host l t
  exact ⟨hclient.trans hclient', hrest.built.trans hbuilt⟩

/-- A question that cannot get the client ends in the failure of the factory, and the resolver keeps
that. -/
theorem ask_of_getClient_error (h : r.sought? host q s = some (l, t)) {e : Failure}
    (he : (t.getClient host.factory).1 = .error e) :
    (r.ask host q s).result = .error (fetchFailure l e) ∧
      (r.ask host q s).self.failure = some (fetchFailure l e) := by
  have hrequest : (request host l t).1 = .error e := by
    rcases hc : t.getClient host.factory with ⟨e' | c, u⟩ <;> rw [hc] at he <;> cases he
    simp only [request, hc]
  obtain ⟨_, hresult⟩ := fetch_of_sought? h
  rw [hrequest] at hresult
  exact ask_of_fetch_error (sought?_eq_some.1 h).1 hresult

/-! ## Obtaining a handle -/

/-- The handle that a question obtains, and the session in which it obtains it. -/
def obtained? (host : Host σ) (r : Resolver σ) (q : Question) (s : Session σ) :
    Option (Handle σ × Session σ) :=
  match r.sought? host q s with
  | none => none
  | some (l, t) =>
    match request host l t with
    | (.ok h, t) => some (h, t)
    | (.error _, _) => none

theorem obtained?_eq_some : r.obtained? host q s = some (h, t) ↔
    r.wantsObject q = true ∧ (r.fetch host s).result = .ok h ∧ (r.fetch host s).session = t := by
  rcases hs : r.sought? host q s with _ | ⟨l, u⟩
  · simp only [obtained?, hs]
    refine iff_of_false nofun ?_
    rintro ⟨hw, hfetch, _⟩
    obtain ⟨l, hl, _⟩ := resolved_fetch hfetch
    simp [sought?, hw, hl] at hs
  · obtain ⟨hw, _, _⟩ := sought?_eq_some.1 hs
    obtain ⟨hsession, hresult⟩ := fetch_of_sought? hs
    rw [hsession, hresult]
    rcases hr : request host l u with ⟨e | k, u'⟩
    · have hfails : Except.mapError (fetchFailure l) (.error e : Except Failure (Handle σ)) =
          .error (fetchFailure l e) := rfl
      simp [obtained?, hs, hr, hfails]
    · have hsucceeds : Except.mapError (fetchFailure l) (.ok k) = .ok k := rfl
      simp [obtained?, hs, hr, hw, hsucceeds]

theorem outside_takeContentType (h : Handle σ) (s : Session σ) :
    (takeContentType h s).2.outside = h.after .resolveFormat s.outside := by
  have hclosed : ((s.perform h.contentType).2.perform h.close).2.outside =
      h.after .resolveFormat s.outside := rfl
  rcases hc : (s.perform h.contentType).2.perform h.close with ⟨e | ⟨⟩, s₁⟩ <;>
    rw [hc] at hclosed <;> simp only [takeContentType, hc] <;> exact hclosed

theorem outside_formatOfType (identifier : Identifier) (contentType : Option String)
    (s : Session σ) : (formatOfType identifier contentType s).2.outside = s.outside := by
  rcases ht : given? contentType with _ | t
  · simp only [formatOfType, ht]
  · rcases hm : MediaType.parse? t with _ | m <;>
      simp only [formatOfType, ht, hm, Session.outside_log]

/-- Once it has obtained a handle, a question changes the outside by closing the handle, after it
has asked it for its content type if that is what it needs, or it leaves the handle alone. -/
theorem outside_of_obtained? (hobtained : r.obtained? host q s = some (h, t)) :
    (r.ask host q s).session.outside = h.after q t.outside := by
  obtain ⟨hw, hh, rfl⟩ := obtained?_eq_some.1 hobtained
  cases q with
  | location => simp [wantsObject] at hw
  | openStream => rfl
  | checkAccess =>
      simp only [ask, checkAccess, hh, Step.session_map]
      rfl
  | resolveFormat =>
      have hr : r.recognised = none := by simp_all [wantsObject]
      have htake := outside_takeContentType h (r.fetch host s).session
      rcases resolveFormat_cases host hr s with ⟨e, hk, _⟩ | ⟨k, e, s₁, hk, hx, h'⟩ |
        ⟨k, y, s₁, l, hk, hx, _, h'⟩ <;> rw [hh] at hk <;> cases hk <;>
        simp only [ask, h', Step.session_map] <;> rw [hx] at htake
      · exact htake
      · exact (outside_formatOfType r.identifier y s₁).trans htake

end Resolver

end ObjectLookup
