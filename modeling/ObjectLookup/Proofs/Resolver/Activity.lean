import ObjectLookup.Proofs.Resolver.Failure
import ObjectLookup.Proofs.Session.Journal

/-! # What a resolver does outside

However often a resolver is asked, it looks up its location once: the errands of a whole run are on
the course of a single lookup (`errandsLeft`), and none is left once it has a location or a failure.
It turns to storage only where a question wants an object (`wantsObject`), and asks for its own
location each time (`Reach`). Both are facts about one question (`extends_ask`), which add up over a
run (`amounts_transcript`).
-/

namespace ObjectLookup

/-- How far a fetch gets by the location that was found and the client that is there afterwards:
what it asks for, and how often the factory was run for it. -/
inductive Reach {σ : Type} (location : Except Failure Location) (client : Option (Client σ)) :
    List Location → Nat → Prop where
  | unlocated {e : Failure} (h : location = .error e) : Reach location client [] 0
  | unbuilt {l : Location} (h : location = .ok l) (hc : client = none) : Reach location client [] 1
  | asked {l : Location} {n : Nat} (h : location = .ok l) (hc : client.isSome) :
      Reach location client [l] n

namespace Resolver

variable {σ : Type} {host : Host σ} {r : Resolver σ} {s : Session σ}

/-- The errands that the resolver may still go on: those of a lookup, with its own identifier and
context, or none if it has a failure or a location. -/
def errandsLeft (r : Resolver σ) : List Errand :=
  match r.failure, r.resolved with
  | none, none => [.select, .load, .consult, .call r.identifier.value r.context]
  | _, _ => []

theorem errandsLeft_of_failure {e : Failure} (h : r.failure = some e) : r.errandsLeft = [] := by
  simp [errandsLeft, h]

theorem errandsLeft_of_resolved {l : Location} (h : r.resolved = some l) :
    r.errandsLeft = [] := by
  rcases hf : r.failure with _ | e <;> simp [errandsLeft, hf, h]

/-- Whether a question is answered by an object, and not from memory. -/
def wantsObject (r : Resolver σ) (q : Question) : Bool :=
  r.failure.isNone && match q with
    | .location => false
    | .checkAccess | .openStream => true
    | .resolveFormat => r.recognised.isNone

/-! ## One question -/

theorem extends_getStrategy (host : Host σ) (r : Resolver σ) (s : Session σ) :
    s.Extends (r.getStrategy host s).2 [.select, .load] [] 0 := by
  rcases h : r.strategy with _ | st <;> simp only [getStrategy, h]
  · exact Session.extends_select host.importer r.settings r.delegate s
  · exact (Session.Extends.refl s).of_sublist (List.nil_sublist _)

theorem extends_lookup (host : Host σ) (r : Resolver σ) (s : Session σ) :
    s.Extends (r.resolve host s).session
      [.select, .load, .consult, .call r.identifier.value r.context] [] 0 := by
  have hget := extends_getStrategy host r s
  have hconsult (s₁ : Session σ) (h : s.Extends s₁ [.select, .load] [] 0) (st : Strategy σ) :
      s.Extends (st.resolve r.identifier r.context (s₁.record .consulted)).2
        [.select, .load, .consult, .call r.identifier.value r.context] [] 0 := by
    have h₁ : s.Extends (s₁.record .consulted) [.select, .load, .consult] [] 0 :=
      h.record (.of_errand rfl)
    exact h₁.trans (Session.extends_resolve st r.identifier r.context _)
  rcases resolve_cases host r s with ⟨e, s₁, hx, h⟩ | ⟨st, s₁, e, s₂, hx, hy, h⟩ |
    ⟨st, s₁, l, s₂, hx, hy, h⟩ <;> rw [hx] at hget <;> rw [h]
  · exact hget.of_sublist (List.sublist_append_left [Errand.select, .load] _)
  · have h₂ := hconsult s₁ hget st
    rw [hy] at h₂
    exact h₂
  · have h₂ := hconsult s₁ hget st
    rw [hy] at h₂
    exact h₂.log nofun (by simp)

/-- A lookup goes on no errand but those that are left, and asks storage for nothing. -/
theorem extends_location (host : Host σ) (r : Resolver σ) (s : Session σ) :
    s.Extends (r.location host s).session r.errandsLeft [] 0 := by
  rcases location_cases host r s with ⟨e, _, h⟩ | ⟨l, _, _, h⟩ | ⟨hf, hl, h⟩ <;> rw [h]
  · exact (Session.Extends.refl s).of_sublist (List.nil_sublist _)
  · exact (Session.Extends.refl s).of_sublist (List.nil_sublist _)
  · have hleft : r.errandsLeft = [.select, .load, .consult,
        .call r.identifier.value r.context] := by simp [errandsLeft, hf, hl]
    rw [hleft]
    exact extends_lookup host r s

/-- A request fails because there is no client, or it is announced and made. -/
theorem extends_request (hq : host.factory.IsQuiet) (l : Location) (s : Session σ) :
    (∃ e, (request host l s).1 = .error e ∧ (request host l s).2.client = none ∧
      s.Extends (request host l s).2 [] [] 1) ∨
    (∃ n, (request host l s).2.client.isSome ∧ s.Extends (request host l s).2 [] [l] n) := by
  rcases Session.extends_getClient hq s with ⟨e, hx, hc, hs⟩ | ⟨c, n, hx, hc, hs⟩ <;>
    rcases hg : s.getClient host.factory with ⟨x, s₁⟩ <;> rw [hg] at hx hc hs <;> cases hx <;>
    simp only [request, hg]
  · exact .inl ⟨e, rfl, hc, hs⟩
  · refine .inr ⟨n, Option.isSome_iff_exists.2 ⟨c, hc⟩, ?_⟩
    have hasked : Amounts [.logged (announcement l), .requested l] [] [l] 0 :=
      ⟨.refl _, rfl, rfl, rfl⟩
    have h := hs.trans (u := (s₁.record (.logged (announcement l))).record (.requested l))
      ⟨_, by simp, hasked⟩
    exact h.perform

/-- A fetch goes on no errand but those that are left, and asks storage for the location that was
found, if one was and there is a client to ask. -/
theorem extends_fetch (hq : host.factory.IsQuiet) (r : Resolver σ) (s : Session σ) :
    ∃ ls n, s.Extends (r.fetch host s).session r.errandsLeft ls n ∧
      Reach (r.location host s).result (r.fetch host s).session.client ls n := by
  have hlookup := extends_location host r s
  rcases hl : (r.location host s).result with e | l
  · have h : r.fetch host s =
        ⟨.error e, (r.location host s).self, (r.location host s).session⟩ := by
      simp only [fetch, hl]
    rw [h]
    exact ⟨[], 0, hlookup, .unlocated rfl⟩
  · have h : (r.fetch host s).session = (request host l (r.location host s).session).2 := by
      rcases hr : request host l (r.location host s).session with ⟨e | k, s₁⟩ <;>
        simp only [fetch, hl, hr]
    rw [h]
    rcases extends_request hq l (r.location host s).session with ⟨e, _, hc, hs⟩ | ⟨n, hc, hs⟩
    · exact ⟨[], 1, by simpa using hlookup.trans hs, .unbuilt rfl hc⟩
    · exact ⟨[l], n, by simpa using hlookup.trans hs, .asked rfl hc⟩

/-- What is left of the answer once the object is fetched adds nothing to the figures. -/
theorem extends_formatOfType (identifier : Identifier) (contentType : Option String)
    (s : Session σ) :
    s.Extends (formatOfType identifier contentType s).2 [] [] 0 ∧
      (formatOfType identifier contentType s).2.client = s.client := by
  rcases ht : given? contentType with _ | t
  · simp only [formatOfType, ht, and_true]
    exact .refl s
  · rcases hm : MediaType.parse? t with _ | m <;>
      simp only [formatOfType, ht, hm, Session.client_log, and_true]
    · exact (Session.Extends.refl s).log (by simp) (by simp)
    · exact .refl s

theorem extends_takeContentType (h : Handle σ) (s : Session σ) :
    s.Extends (takeContentType h s).2 [] [] 0 ∧ (takeContentType h s).2.client = s.client := by
  have hclosed : s.Extends ((s.perform h.contentType).2.perform h.close).2 [] [] 0 :=
    (Session.Extends.refl s).perform.perform
  have hclient : ((s.perform h.contentType).2.perform h.close).2.client = s.client := rfl
  rcases hc : (s.perform h.contentType).2.perform h.close with ⟨e | ⟨⟩, s₁⟩ <;>
    rw [hc] at hclosed hclient <;> simp only [takeContentType, hc] <;> exact ⟨hclosed, hclient⟩

/-- A question that wants an object fetches it. What comes after that adds nothing to the figures,
leaves the client, and puts at most a format into memory. -/
theorem ask_of_wantsObject {q : Question} (h : r.wantsObject q = true) (host : Host σ)
    (s : Session σ) :
    (r.fetch host s).session.Extends (r.ask host q s).session [] [] 0 ∧
      (r.ask host q s).session.client = (r.fetch host s).session.client ∧
      ∃ f, (r.ask host q s).self = { (r.fetch host s).self with recognised := f } := by
  cases q with
  | location => simp [wantsObject] at h
  | openStream => exact ⟨.refl _, rfl, _, rfl⟩
  | checkAccess =>
      refine ⟨?_, ?_, _, self_checkAccess host r s⟩ <;>
        rcases hh : (r.fetch host s).result with e | k <;>
          simp only [ask, checkAccess, hh, Step.session_map]
      · exact .refl _
      · exact (Session.Extends.refl _).perform
      · rfl
  | resolveFormat =>
      have hr : r.recognised = none := by simp_all [wantsObject]
      rcases resolveFormat_cases host hr s with ⟨e, _, h'⟩ | ⟨k, e, s₁, _, ht, h'⟩ |
        ⟨k, t, s₁, l, _, ht, _, h'⟩ <;> simp only [ask, h', Step.session_map, Step.self_map]
      · exact ⟨.refl _, trivial, _, rfl⟩
      · obtain ⟨htake, hclient⟩ := extends_takeContentType k (r.fetch host s).session
        rw [ht] at htake hclient
        exact ⟨htake, hclient, _, rfl⟩
      · obtain ⟨htake, hclient⟩ := extends_takeContentType k (r.fetch host s).session
        rw [ht] at htake hclient
        obtain ⟨hformat, hclient'⟩ := extends_formatOfType r.identifier t s₁
        exact ⟨htake.trans hformat, hclient'.trans hclient, _, rfl⟩

/-- It ends in the failure of the fetch, if that fails, and leaves it. -/
theorem ask_of_fetch_error {q : Question} (h : r.wantsObject q = true) {e : Failure}
    (he : (r.fetch host s).result = .error e) :
    (r.ask host q s).result = .error e ∧ (r.ask host q s).self.failure = some e := by
  constructor
  · cases q with
    | location => simp [wantsObject] at h
    | checkAccess =>
        simp only [ask, checkAccess, he]
        rfl
    | openStream =>
        simp only [ask, openStream, he]
        rfl
    | resolveFormat =>
        have hr : r.recognised = none := by simp_all [wantsObject]
        simp only [ask, resolveFormat, hr, he]
        rfl
  · obtain ⟨_, _, f, hself⟩ := ask_of_wantsObject h host s
    have hf := failure_fetch host r s
    rw [he] at hf
    rw [hself]
    exact hf

/-- Any other question but the one for the location is answered from memory. -/
theorem ask_of_not_wantsObject {q : Question} (hq : q ≠ .location)
    (h : r.wantsObject q = false) (host : Host σ) (s : Session σ) :
    (r.ask host q s).self = r ∧ (r.ask host q s).session = s := by
  rcases hf : r.failure with _ | e
  · cases q with
    | location => exact absurd rfl hq
    | checkAccess => simp [wantsObject, hf] at h
    | openStream => simp [wantsObject, hf] at h
    | resolveFormat =>
        simp only [wantsObject, hf, Option.isNone_none, Bool.true_and] at h
        obtain ⟨f, hr⟩ := Option.isSome_iff_exists.1 (Option.isNone_eq_false_iff.1 h)
        rw [(ask_of_recognised hr .resolveFormat s).2 rfl]
        exact ⟨rfl, rfl⟩
  · rcases ask_of_failure host hf q s with h' | ⟨_, f, _, h'⟩ <;> rw [h'] <;> exact ⟨rfl, rfl⟩

/-- A question goes on no errand but those that are left. It asks storage for nothing if it does not
want an object, and goes as far as its fetch otherwise. -/
theorem extends_ask (hquiet : host.factory.IsQuiet) (r : Resolver σ) (q : Question)
    (s : Session σ) :
    ∃ ls n, s.Extends (r.ask host q s).session r.errandsLeft ls n ∧
      (r.wantsObject q = false ∧ ls = [] ∧ n = 0 ∨
        r.wantsObject q = true ∧
          Reach (r.location host s).result (r.ask host q s).session.client ls n) := by
  rcases hw : r.wantsObject q with _ | _
  · by_cases hq : q = .location
    · subst hq
      exact ⟨[], 0, extends_location host r s, .inl ⟨rfl, rfl, rfl⟩⟩
    · rw [(ask_of_not_wantsObject hq hw host s).2]
      exact ⟨[], 0, (Session.Extends.refl s).of_sublist (List.nil_sublist _), .inl ⟨rfl, rfl, rfl⟩⟩
  · obtain ⟨ls, n, hfetch, hreach⟩ := extends_fetch hquiet r s
    obtain ⟨hrest, hclient, _⟩ := ask_of_wantsObject hw host s
    refine ⟨ls, n, by simpa using hfetch.trans hrest, .inr ⟨rfl, ?_⟩⟩
    rw [hclient]
    exact hreach

/-- A question that is not answered from memory leaves a failure or a location, and so no errand. -/
theorem errandsLeft_ask (host : Host σ) (r : Resolver σ) (q : Question) (s : Session σ) :
    (r.ask host q s).self.errandsLeft = [] ∨
      (r.ask host q s).self = r ∧ (r.ask host q s).session = s := by
  have hlocation : (r.location host s).self.errandsLeft = [] := by
    have hf := failure_location host r s
    rcases hl : (r.location host s).result with e | l
    · rw [hl] at hf
      exact errandsLeft_of_failure hf
    · exact errandsLeft_of_resolved (resolved_location hl)
  have hfetch : (r.fetch host s).self.errandsLeft = [] := by
    have hf := failure_fetch host r s
    rcases hh : (r.fetch host s).result with e | k
    · rw [hh] at hf
      exact errandsLeft_of_failure hf
    · obtain ⟨l, _, hl⟩ := resolved_fetch hh
      exact errandsLeft_of_resolved hl
  by_cases hq : q = .location
  · subst hq
    exact .inl hlocation
  · rcases hw : r.wantsObject q with _ | _
    · exact .inr (ask_of_not_wantsObject hq hw host s)
    · obtain ⟨_, _, f, h⟩ := ask_of_wantsObject hw host s
      rw [h]
      exact .inl hfetch

/-- A location that was found is kept. -/
theorem resolved_ask {l : Location} (hl : r.resolved = some l) (q : Question) (s : Session σ) :
    (r.ask host q s).self.resolved = some l := by
  have hkept : (r.location host s).self.resolved = some l := by
    rcases location_cases host r s with ⟨e, _, h⟩ | ⟨l', _, _, h⟩ | ⟨_, hl', _⟩
    · rw [h]
      exact hl
    · rw [h]
      exact hl
    · rw [hl] at hl'
      cases hl'
  rcases self_ask_cases host r q s with ⟨_, h⟩ | ⟨_, f, h⟩ | ⟨_, h⟩ <;> rw [h]
  · exact hkept
  · obtain ⟨e, h'⟩ := self_fetch host r s
    rw [h']
    exact hkept
  · exact hl

/-- A question that finds a location leaves it. -/
theorem resolved_ask_of_ok {q : Question} (hq : q = .location ∨ r.wantsObject q = true)
    {l : Location} (hl : (r.location host s).result = .ok l) :
    (r.ask host q s).self.resolved = some l := by
  rcases hq with rfl | hw
  · exact resolved_location hl
  · obtain ⟨_, _, f, h⟩ := ask_of_wantsObject hw host s
    obtain ⟨e, h'⟩ := self_fetch host r s
    rw [h, h']
    exact resolved_location hl

/-- A question for which no location is found, of a resolver that had not failed, leaves a failure
and no location. -/
theorem failed_ask_of_error {q : Question} (hf : r.failure = none)
    (hq : q = .location ∨ r.wantsObject q = true) {e : Failure}
    (he : (r.location host s).result = .error e) :
    (r.ask host q s).self.failure = some e ∧ (r.ask host q s).self.resolved = none := by
  have hfailure : (r.location host s).self.failure = some e := by rw [failure_location, he]; rfl
  have hresolved : (r.location host s).self.resolved = none := by
    rcases hl : (r.location host s).self.resolved with _ | l
    · rfl
    · rcases eq_or_of_resolved_location hl with hl | hl
      · rw [location_of_resolved hf hl] at he
        cases he
      · rw [hl] at he
        cases he
  rcases hq with rfl | hw
  · exact ⟨hfailure, hresolved⟩
  · obtain ⟨_, _, f, h⟩ := ask_of_wantsObject hw host s
    have hfetch : (r.fetch host s).self = (r.location host s).self := by simp only [fetch, he]
    rw [h, hfetch]
    exact ⟨hfailure, hresolved⟩

end Resolver

/-! ## Whole runs -/

namespace Exchange

variable {σ : Type}

/-- The events of an exchange: what it has added to the journal. -/
def events (x : Exchange σ) : List Event := x.step.session.events.drop x.session.events.length

/-- The locations that a client was asked for. -/
def requests (x : Exchange σ) : List Location := x.events.filterMap Event.location?

/-- Whether the question was one for an object, and not answered from memory. -/
def wantsObject (x : Exchange σ) : Bool := x.resolver.wantsObject x.question

/-- Whether the factory was run for the exchange and gave no client. -/
def failsToBuild (x : Exchange σ) : Bool :=
  x.events.any Event.isBuilt && x.step.session.client.isNone

/-- Whether a location was needed for the exchange and could not be found. -/
def failsToLocate (host : Host σ) (x : Exchange σ) : Prop :=
  x.resolver.failure = none ∧ (x.question = .location ∨ x.wantsObject = true) ∧
    ∃ e, (x.resolver.location host x.session).result = .error e

theorem events_eq {x : Exchange σ} {es : List Event}
    (h : x.step.session.events = x.session.events ++ es) : x.events = es := by
  rw [events, h, List.drop_left]

end Exchange

namespace Resolver

variable {σ : Type} {host : Host σ} {r : Resolver σ} {s : Session σ} {ts : List (Turn σ)}
  {x : Exchange σ}

/-- An exchange adds to the journal what its question amounts to. -/
theorem amounts_of_mem_transcript (hquiet : host.factory.IsQuiet)
    (hx : x ∈ r.transcript host s ts) :
    x.step.session.events = x.session.events ++ x.events ∧
      ∃ n, Amounts x.events x.resolver.errandsLeft x.requests n ∧
        (x.wantsObject = false ∧ x.requests = [] ∧ n = 0 ∨
          x.wantsObject = true ∧
            Reach (x.resolver.location host x.session).result x.step.session.client x.requests
              n) := by
  obtain ⟨ls, n, ⟨es, hevents, hes⟩, h⟩ := extends_ask hquiet x.resolver x.question x.session
  rw [← step_of_mem_transcript hx] at hevents h
  have hx' : x.events = es := Exchange.events_eq hevents
  have hls : x.requests = ls := by rw [Exchange.requests, hx', hes.requests]
  rw [hx', hls]
  exact ⟨hevents, n, hes, h⟩

/-- The exchanges of a run add up to a single lookup, and to requests that are all announced. -/
theorem amounts_transcript (hquiet : host.factory.IsQuiet) (r : Resolver σ) (s : Session σ)
    (ts : List (Turn σ)) :
    ∃ n, Amounts ((r.transcript host s ts).flatMap Exchange.events) r.errandsLeft
      ((r.transcript host s ts).flatMap Exchange.requests) n := by
  induction ts generalizing r s with
  | nil => exact ⟨0, Amounts.nil.of_sublist (List.nil_sublist _)⟩
  | cons t ts ih =>
      let x := r.exchange host s t
      have hmem : x ∈ r.transcript host s (t :: ts) := List.mem_cons_self
      obtain ⟨_, n, hx, _⟩ := amounts_of_mem_transcript hquiet hmem
      obtain ⟨n', hrest⟩ := ih x.step.self x.step.session
      rcases errandsLeft_ask host r t.question (t.meanwhile s) with h | ⟨hself, hsession⟩
      · change x.step.self.errandsLeft = [] at h
        rw [h] at hrest
        have hsum := hx.append hrest
        rw [List.append_nil] at hsum
        exact ⟨n + n', hsum⟩
      · -- The question was answered from memory: it adds nothing, and all errands are still left.
        have hleft : x.step.self.errandsLeft = r.errandsLeft := congrArg errandsLeft hself
        have hnone : x.events = [] := Exchange.events_eq (by
          change x.step.session = x.session at hsession
          rw [hsession, List.append_nil])
        have hx' : Amounts x.events [] x.requests n := by
          rw [Exchange.requests, hnone]
          rw [hnone] at hx
          exact ⟨.refl _, rfl, rfl, hx.builds⟩
        rw [hleft] at hrest
        exact ⟨n + n', hx'.append hrest⟩

/-- A location that was found in an exchange is there in the end. -/
theorem resolved_run {l : Location} (hx : x ∈ r.transcript host s ts)
    (h : x.step.self.resolved = some l) : (r.run host s ts).1.resolved = some l :=
  run_of_mem_transcript (P := fun r ↦ r.resolved = some l) (fun _ q s hl ↦ resolved_ask hl q s) hx h

/-- Every request of a run is for the location that is there in the end. -/
theorem resolved_run_of_mem_requests (hquiet : host.factory.IsQuiet)
    (hx : x ∈ r.transcript host s ts) {l : Location} (hl : l ∈ x.requests) :
    (r.run host s ts).1.resolved = some l := by
  obtain ⟨_, n, _, ⟨_, hnone, _⟩ | ⟨hw, hreach⟩⟩ := amounts_of_mem_transcript hquiet hx
  · rw [hnone] at hl
    cases hl
  · refine resolved_run hx ?_
    rw [step_of_mem_transcript hx]
    refine resolved_ask_of_ok (.inr hw) ?_
    generalize x.requests = ls at hl hreach
    cases hreach with
    | unlocated => cases hl
    | unbuilt => cases hl
    | asked hloc =>
        rw [List.mem_singleton.1 hl]
        exact hloc

/-- A location that was given in a run is there in the end. -/
theorem resolved_run_of_located (hx : x ∈ r.transcript host s ts) {l : Location}
    (h : x.step.result = .ok (.located l)) : (r.run host s ts).1.resolved = some l := by
  refine resolved_run hx ?_
  rw [step_of_mem_transcript hx] at h ⊢
  cases hq : x.question with
  | location =>
      rw [hq] at h
      obtain ⟨l', hl', h'⟩ := Step.exists_of_map_eq_ok h
      cases h'
      exact resolved_location hl'
  | checkAccess =>
      rw [hq] at h
      obtain ⟨⟨⟩, _, h'⟩ := Step.exists_of_map_eq_ok h
      cases h'
  | openStream =>
      rw [hq] at h
      obtain ⟨c, _, h'⟩ := Step.exists_of_map_eq_ok h
      cases h'
  | resolveFormat =>
      rw [hq] at h
      obtain ⟨f, _, h'⟩ := Step.exists_of_map_eq_ok h
      cases h'

/-- A location that could not be found in an exchange is not there in the end. -/
theorem resolved_run_of_failsToLocate (hx : x ∈ r.transcript host s ts)
    (h : x.failsToLocate host) : (r.run host s ts).1.resolved = none := by
  obtain ⟨hf, hq, e, he⟩ := h
  have hfailed := failed_ask_of_error hf hq he
  rw [← step_of_mem_transcript hx] at hfailed
  refine (run_of_mem_transcript (P := fun r ↦ r.failure = some e ∧ r.resolved = none) ?_ hx
    hfailed).2
  rintro r q s ⟨hf, hl⟩
  rcases ask_of_failure host hf q s with h' | ⟨_, f, _, h'⟩ <;> rw [h'] <;> exact ⟨hf, hl⟩

/-! ## Counting -/

theorem Exchange.failsToBuild_eq {n : Nat} (h : x.events.countP Event.isBuilt = n) :
    x.failsToBuild = (decide (0 < n) && x.step.session.client.isNone) := by
  have hany : x.events.any Event.isBuilt = decide (0 < n) := by
    rw [Bool.eq_iff_iff, List.any_eq_true, decide_eq_true_iff, ← h, List.countP_pos_iff]
  rw [Exchange.failsToBuild, hany]

/-- An exchange makes one request or fails to build the client, if it wants an object and a location
is found for it, and neither otherwise. -/
theorem count_of_mem_transcript (hquiet : host.factory.IsQuiet)
    (hx : x ∈ r.transcript host s ts) :
    x.requests.length + x.failsToBuild.toNat =
      (x.wantsObject && (x.resolver.location host x.session).result.toBool).toNat := by
  obtain ⟨_, n, hamounts, ⟨hw, hnone, rfl⟩ | ⟨hw, hreach⟩⟩ := amounts_of_mem_transcript hquiet hx
  · simp [Exchange.failsToBuild_eq hamounts.builds, hw, hnone]
  · rw [Exchange.failsToBuild_eq hamounts.builds, hw]
    generalize x.requests = ls at hreach
    cases hreach with
    | unlocated h => simp [h, Except.toBool]
    | unbuilt h hc => simp [h, hc, Except.toBool]
    | asked h hc => simp [h, Option.isNone_eq_false_iff.2 hc, Except.toBool]

/-- What each exchange adds to a count, the run adds up. -/
theorem count_transcript {p : Exchange σ → Bool} {xs : List (Exchange σ)}
    (h : ∀ x ∈ xs, x.requests.length + x.failsToBuild.toNat = (p x).toNat) :
    (xs.flatMap Exchange.requests).length + xs.countP Exchange.failsToBuild = xs.countP p := by
  induction xs with
  | nil => rfl
  | cons x xs ih =>
      have hx := h x List.mem_cons_self
      have hxs := ih fun y hy ↦ h y (List.mem_cons_of_mem _ hy)
      have hcount (b : Bool) : (if b = true then 1 else 0) = b.toNat := by cases b <;> rfl
      rw [List.flatMap_cons, List.length_append, List.countP_cons, List.countP_cons, hcount, hcount]
      omega

/-- Storage is asked as often as an object is wanted, or not at all if the location cannot be
found. -/
theorem count_requests (hquiet : host.factory.IsQuiet) (r : Resolver σ) (s : Session σ)
    (ts : List (Turn σ)) :
    let xs := r.transcript host s ts
    (∃ x ∈ xs, x.failsToLocate host) ∧
        (xs.flatMap Exchange.requests).length + xs.countP Exchange.failsToBuild = 0 ∨
      (∀ x ∈ xs, ¬ x.failsToLocate host) ∧
        (xs.flatMap Exchange.requests).length + xs.countP Exchange.failsToBuild =
          xs.countP Exchange.wantsObject := by
  intro xs
  by_cases hfails : ∃ x ∈ xs, x.failsToLocate host
  · obtain ⟨x, hx, hlost⟩ := hfails
    refine .inl ⟨⟨x, hx, hlost⟩, ?_⟩
    have hnone : ∀ y ∈ xs, y.requests.length + y.failsToBuild.toNat = false.toNat := by
      intro y hy
      rw [count_of_mem_transcript hquiet hy]
      -- A location found anywhere in the run would be there in the end.
      rcases hw : y.wantsObject with _ | _
      · rfl
      · rcases hl : (y.resolver.location host y.session).result with e | l
        · rfl
        · have hfound : (r.run host s ts).1.resolved = some l := by
            refine resolved_run hy ?_
            rw [step_of_mem_transcript hy]
            exact resolved_ask_of_ok (.inr hw) hl
          rw [resolved_run_of_failsToLocate hx hlost] at hfound
          cases hfound
    exact (count_transcript hnone).trans (by simp)
  · refine .inr ⟨fun x hx h ↦ hfails ⟨x, hx, h⟩, count_transcript fun x hx ↦ ?_⟩
    rw [count_of_mem_transcript hquiet hx]
    rcases hw : x.wantsObject with _ | _
    · rfl
    · rcases hl : (x.resolver.location host x.session).result with e | l
      · have hf : x.resolver.failure = none := by
          have := hw
          simp only [Exchange.wantsObject, wantsObject, Bool.and_eq_true] at this
          exact Option.isNone_iff_eq_none.1 this.1
        exact absurd ⟨x, hx, hf, .inr hw, e, hl⟩ hfails
      · rfl

/-- A resolver looks up its location once, and storage is asked nowhere but in answer to questions
that want an object. In every run of a new resolver, whatever its strategy, its delegate and the
store do by then, a strategy is selected, a delegate is loaded, and a strategy and a delegate are
asked for the location at most once each, the delegate with the identifier and the context that the
resolver was made with. All requests are for one location, which every answer gives that gives one,
and none is made for the location alone. There are as many requests and failed runs of the factory
as questions that want an object, or none if the location cannot be found; and the lines of the
level INFO are the announcements of the requests. -/
theorem one_lookup_of_run (hquiet : host.factory.IsQuiet) (r : Resolver σ) (s : Session σ)
    (ts : List (Turn σ)) :
    let xs := r.forget.transcript host s ts
    let requests := xs.flatMap Exchange.requests
    (∀ x ∈ xs, x.step.session.events = x.session.events ++ x.events) ∧
    ((xs.flatMap Exchange.events).filterMap Event.errand?).Sublist
      [.select, .load, .consult, .call r.identifier.value r.context] ∧
    (∃ l, (∀ l' ∈ requests, l' = l) ∧
      ∀ x ∈ xs, ∀ l', x.step.result = .ok (.located l') → l' = l) ∧
    (∀ x ∈ xs, x.question = .location → x.requests = []) ∧
    ((∃ x ∈ xs, x.failsToLocate host) ∧
        requests.length + xs.countP Exchange.failsToBuild = 0 ∨
      (∀ x ∈ xs, ¬ x.failsToLocate host) ∧
        requests.length + xs.countP Exchange.failsToBuild = xs.countP Exchange.wantsObject) ∧
    (xs.flatMap Exchange.events).filterMap Event.information? = requests.map announcement := by
  intro xs requests
  obtain ⟨n, hamounts⟩ := amounts_transcript hquiet r.forget s ts
  refine ⟨fun x hx ↦ (amounts_of_mem_transcript hquiet hx).1, hamounts.errands, ?_, ?_,
    count_requests hquiet r.forget s ts, hamounts.information⟩
  · have hrequests (l : Location) (hl : l ∈ requests) :
        (r.forget.run host s ts).1.resolved = some l := by
      obtain ⟨x, hx, hl⟩ := List.mem_flatMap.1 hl
      exact resolved_run_of_mem_requests hquiet hx hl
    rcases hend : (r.forget.run host s ts).1.resolved with _ | l
    · refine ⟨⟨"", ""⟩, fun l' hl' ↦ ?_, fun x hx l' hl' ↦ ?_⟩
      · rw [hend] at hrequests
        cases hrequests l' hl'
      · rw [resolved_run_of_located hx hl'] at hend
        cases hend
    · refine ⟨l, fun l' hl' ↦ ?_, fun x hx l' hl' ↦ ?_⟩
      · rw [hend] at hrequests
        exact (Option.some.inj (hrequests l' hl')).symm
      · rw [resolved_run_of_located hx hl'] at hend
        exact Option.some.inj hend
  · intro x hx hq
    obtain ⟨_, n, _, ⟨_, hnone, _⟩ | ⟨hw, _⟩⟩ := amounts_of_mem_transcript hquiet hx
    · exact hnone
    · simp [Exchange.wantsObject, wantsObject, hq] at hw

/-- A resolver whose delegate gives another key whenever it is asked again. -/
def wavering : Resolver Scripted.Stage where
  identifier := ⟨"cats"⟩
  settings := {}
  strategy := some (.dynamic
    (Scripted.delegate 0 (.sequence [.text "a.gif", .text "b.gif"])) (some "images"))
  context := .ofPairs [("tenant", .text "zoo")]

/-- A host whose storage client is made for a scripted service. -/
def serviced : Host Scripted.Stage :=
  ⟨Scripted.Catalogue.importModule [], S3.factory Scripted.connect {}⟩

/-- Asked five times, three of them for an object, a wavering delegate is called once, and all three
requests are for the key that it gave first. -/
theorem one_lookup_of_run_wavering :
    let xs := wavering.forget.transcript serviced { outside := { entries := [image] } }
      [{ question := .location }, { question := .checkAccess }, { question := .resolveFormat },
        { question := .openStream }, { question := .resolveFormat }]
    let requests := xs.flatMap Exchange.requests
    serviced.factory.IsQuiet ∧
      ((xs.flatMap Exchange.events).filterMap Event.errand?).Sublist
        [.select, .load, .consult, .call "cats" (.ofPairs [("tenant", .text "zoo")])] ∧
      requests = List.replicate 3 ⟨"images", "a.gif"⟩ ∧
      (xs.flatMap Exchange.events).filterMap Event.information? =
        List.replicate 3 (announcement ⟨"images", "a.gif"⟩) := by
  have hquiet : serviced.factory.IsQuiet := S3.isQuiet_factory Scripted.connect {}
  have h := one_lookup_of_run hquiet wavering { outside := { entries := [image] } }
    [{ question := .location }, { question := .checkAccess }, { question := .resolveFormat },
      { question := .openStream }, { question := .resolveFormat }]
  refine ⟨hquiet, h.2.1, rfl, ?_⟩
  exact h.2.2.2.2.2.trans rfl

end Resolver

end ObjectLookup
