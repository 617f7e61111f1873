import ObjectLookup.Proofs.Resolver.Course
import ObjectLookup.Proofs.Scripted.Store
import Mathlib.Logic.Function.Basic

/-! # One client for all callers

The client of a session is gotten by direct callers and by the questions to any number of resolvers,
in any order. Each call gets it once at most (`visit?`), and leaves it alone otherwise. So what
becomes of the client is told by the sessions in which it is gotten (`visits`): attempts to build
it, all of which fail but the last, and then gets of the client that is there
(`visits_of_uninitialized`, `visits_of_initialized`).

A resolver that got no client has failed, and is the same resolver for the rest of the run
(`serveAll_of_failure`). It never fetched an object before, as there was no client for that, so it
has no format to give out either (`recognised_serveAll`).
-/

namespace ObjectLookup.SharedClient

open Resolver (fetchFailure)

variable {σ ι : Type} {host : Host σ} {s t : Session σ}

/-- A call for which the client may be gotten: by a direct caller, or for a question to a resolver.
-/
inductive Call (ι : Type) where
  | get
  | ask (i : ι) (q : Question)

/-! ## What a get comes to -/

/-- In the session there is a client, which every get gives without more ado. -/
structure Gives (factory : Factory σ) (c : Client σ) (t : Session σ) : Prop where
  client : t.client = some c
  get : t.getClient factory = (.ok c, t)

/-- In the session there is no client. Getting it runs the factory once and ends as the run does,
and there is a client afterwards if and only if that is a success. -/
structure Attempts (factory : Factory σ) (x : Except Failure (Client σ)) (t : Session σ) :
    Prop where
  uninitialized : t.client = none
  run : (factory.run t.outside).1 = x
  get : (t.getClient factory).1 = x
  client : (t.getClient factory).2.client = x.toOption
  built : (t.getClient factory).2.built = t.built + 1

theorem gives_of_client (factory : Factory σ) {c : Client σ} (h : t.client = some c) :
    Gives factory c t := ⟨h, Session.getClient_of_some h⟩

theorem attempts_of_uninitialized (factory : Factory σ) (h : t.client = none) :
    ∃ x, Attempts factory x t := by
  rcases Session.getClient_cases factory t with ⟨c, hc, _⟩ |
    ⟨_, x, u, hrun, hget, hclient, _, hbuilt⟩
  · rw [h] at hc
    cases hc
  · refine ⟨x, h, hrun, ?_, ?_, ?_⟩ <;> rw [hget]
    · exact hclient
    · exact hbuilt

section Run

variable [DecidableEq ι] {rs : ι → Resolver σ} {call : Call ι} {calls : List (Call ι)} {i : ι}
  {c : Client σ} {e : Failure}

/-- Carries out a call; returns what it leaves. -/
def serve (host : Host σ) (rs : ι → Resolver σ) (s : Session σ) :
    Call ι → (ι → Resolver σ) × Session σ
  | .get => (rs, (s.getClient host.factory).2)
  | .ask i q => (Function.update rs i ((rs i).ask host q s).self, ((rs i).ask host q s).session)

def serveAll (host : Host σ) (rs : ι → Resolver σ) (s : Session σ) :
    List (Call ι) → (ι → Resolver σ) × Session σ
  | [] => (rs, s)
  | call :: calls => serveAll host (serve host rs s call).1 (serve host rs s call).2 calls

/-- The session in which a call gets the client, if it does. -/
def visit? (host : Host σ) (rs : ι → Resolver σ) (s : Session σ) : Call ι → Option (Session σ)
  | .get => some s
  | .ask i q => ((rs i).sought? host q s).map Prod.snd

/-- The sessions in which the client is gotten, in order. -/
def visits (host : Host σ) (rs : ι → Resolver σ) (s : Session σ) : List (Call ι) → List (Session σ)
  | [] => []
  | call :: calls => (visit? host rs s call).toList ++
      visits host (serve host rs s call).1 (serve host rs s call).2 calls

theorem serveAll_append (before after : List (Call ι)) :
    serveAll host rs s (before ++ after) =
      serveAll host (serveAll host rs s before).1 (serveAll host rs s before).2 after := by
  induction before generalizing rs s with
  | nil => rfl
  | cons call before ih => exact ih

/-! ## The client along a run -/

/-- A call leaves the client alone, or gets it once, in a session with the client that it found. -/
theorem serve_cases (host : Host σ) (rs : ι → Resolver σ) (s : Session σ) (call : Call ι) :
    (visit? host rs s call = none ∧ (serve host rs s call).2.client = s.client ∧
      (serve host rs s call).2.built = s.built) ∨
    (∃ t, visit? host rs s call = some t ∧ t.client = s.client ∧ t.built = s.built ∧
      (serve host rs s call).2.client = (t.getClient host.factory).2.client ∧
      (serve host rs s call).2.built = (t.getClient host.factory).2.built) := by
  cases call with
  | get => exact .inr ⟨s, rfl, rfl, rfl, rfl, rfl⟩
  | ask i q =>
      rcases h : (rs i).sought? host q s with _ | ⟨l, t⟩
      · obtain ⟨hclient, hbuilt, _⟩ := Resolver.idle_of_sought?_eq_none h
        exact .inl ⟨by rw [visit?, h]; rfl, hclient, hbuilt⟩
      · obtain ⟨hclient, hbuilt⟩ := Resolver.built_of_sought? h
        obtain ⟨hclient', hbuilt'⟩ := Resolver.client_of_sought? h
        exact .inr ⟨t, by rw [visit?, h]; rfl, hclient, hbuilt, hclient', hbuilt'⟩

/-- A client that is there stays, and is what every get gives. The factory is not run. -/
theorem visits_of_initialized (host : Host σ) (rs : ι → Resolver σ) (hs : s.client = some c)
    (calls : List (Call ι)) :
    (serveAll host rs s calls).2.client = some c ∧ (serveAll host rs s calls).2.built = s.built ∧
      ∀ t ∈ visits host rs s calls, Gives host.factory c t := by
  induction calls generalizing rs s with
  | nil => exact ⟨hs, rfl, nofun⟩
  | cons call calls ih =>
      rcases serve_cases host rs s call with ⟨hvisit, hclient, hbuilt⟩ |
        ⟨t, hvisit, htclient, htbuilt, hclient, hbuilt⟩
      · obtain ⟨hend, hbuilt', hgets⟩ := ih (serve host rs s call).1 (hclient.trans hs)
        refine ⟨hend, hbuilt'.trans hbuilt, ?_⟩
        rw [visits, hvisit]
        exact hgets
      · have hgives : Gives host.factory c t := gives_of_client host.factory (htclient.trans hs)
        rw [hgives.get] at hclient hbuilt
        obtain ⟨hend, hbuilt', hgets⟩ :=
          ih (serve host rs s call).1 (hclient.trans hgives.client)
        refine ⟨hend, hbuilt'.trans (hbuilt.trans htbuilt), ?_⟩
        rw [visits, hvisit]
        intro u hu
        rcases List.mem_cons.1 hu with rfl | hu
        · exact hgives
        · exact hgets u hu

/-- Where there is no client, attempts to build it fail until one succeeds, if one does, and every
later get gives the client of that one. -/
theorem visits_of_uninitialized (host : Host σ) (rs : ι → Resolver σ) (hs : s.client = none)
    (calls : List (Call ι)) :
    ((∀ t ∈ visits host rs s calls, ∃ e, Attempts host.factory (.error e) t) ∧
      (serveAll host rs s calls).2.client = none ∧
      (serveAll host rs s calls).2.built = s.built + (visits host rs s calls).length) ∨
    (∃ failed t later c, visits host rs s calls = failed ++ t :: later ∧
      (∀ u ∈ failed, ∃ e, Attempts host.factory (.error e) u) ∧
      Attempts host.factory (.ok c) t ∧ (∀ u ∈ later, Gives host.factory c u) ∧
      (serveAll host rs s calls).2.client = some c ∧
      (serveAll host rs s calls).2.built = s.built + (failed.length + 1)) := by
  induction calls generalizing rs s with
  | nil => exact .inl ⟨nofun, hs, rfl⟩
  | cons call calls ih =>
      rcases serve_cases host rs s call with ⟨hvisit, hclient, hbuilt⟩ |
        ⟨t, hvisit, htclient, htbuilt, hclient, hbuilt⟩
      · have h := ih (serve host rs s call).1 (hclient.trans hs)
        rw [hbuilt] at h
        rw [visits, hvisit]
        exact h
      · obtain ⟨x, hx⟩ := attempts_of_uninitialized host.factory (htclient.trans hs)
        have hvisits : visits host rs s (call :: calls) = t ::
            visits host (serve host rs s call).1 (serve host rs s call).2 calls := by
          rw [visits, hvisit]
          rfl
        rw [hx.client] at hclient
        rw [hx.built, htbuilt] at hbuilt
        rw [hvisits]
        cases x with
        | ok c =>
            obtain ⟨hend, hbuilt', hgets⟩ :=
              visits_of_initialized host (serve host rs s call).1 hclient calls
            exact .inr ⟨[], t, _, c, rfl, nofun, hx, hgets, hend, hbuilt'.trans hbuilt⟩
        | error e =>
            have hall {us : List (Session σ)}
                (h : ∀ u ∈ us, ∃ e, Attempts host.factory (.error e) u) :
                ∀ u ∈ t :: us, ∃ e, Attempts host.factory (.error e) u :=
              List.forall_mem_cons.2 ⟨⟨e, hx⟩, h⟩
            rcases ih (serve host rs s call).1 hclient with ⟨hgets, hend, hbuilt'⟩ |
              ⟨failed, u, later, c, hsplit, hfailed, hu, hlater, hend, hbuilt'⟩
            · refine .inl ⟨hall hgets, hend, ?_⟩
              rw [serveAll, hbuilt', hbuilt, List.length_cons]
              omega
            · refine .inr ⟨t :: failed, u, later, c, by rw [hsplit]; rfl, hall hfailed, hu, hlater,
                hend, ?_⟩
              rw [serveAll, hbuilt', hbuilt, List.length_cons]
              omega

/-! ## Resolvers that got no client -/

theorem serve_of_ne {q : Question} {j : ι} (h : i ≠ j) (host : Host σ) (rs : ι → Resolver σ)
    (s : Session σ) : (serve host rs s (.ask j q)).1 i = rs i := Function.update_of_ne h _ _

theorem serve_ask (host : Host σ) (rs : ι → Resolver σ) (s : Session σ) (i : ι) (q : Question) :
    (serve host rs s (.ask i q)).1 i = ((rs i).ask host q s).self := Function.update_self _ _ _

/-- A resolver that has failed is not changed by any call. -/
theorem serveAll_of_failure (host : Host σ) (h : (rs i).failure = some e) (s : Session σ)
    (calls : List (Call ι)) : (serveAll host rs s calls).1 i = rs i := by
  induction calls generalizing rs s with
  | nil => rfl
  | cons call calls ih =>
      have hsame : (serve host rs s call).1 i = rs i := by
        cases call with
        | get => rfl
        | ask j q =>
            by_cases hj : i = j
            · subst hj
              rw [serve_ask]
              rcases Resolver.ask_of_failure host h q s with h' | ⟨_, f, _, h'⟩ <;> rw [h']
            · exact serve_of_ne hj host rs s
      exact (ih (by rw [hsame, h]) _).trans hsame

/-- A question that is answered with a format for the first time turns to storage. -/
theorem isSome_sought?_of_recognised {r : Resolver σ} {q : Question} {f : Format}
    (hr : r.recognised = none) (h : (r.ask host q s).result = .ok (.recognised f)) :
    (r.sought? host q s).isSome := by
  cases Resolver.eq_resolveFormat_of_ok h
  have hf : r.failure = none := by
    rcases hf : r.failure with _ | e
    · rfl
    · rcases Resolver.ask_of_failure host hf .resolveFormat s with h' | ⟨_, f', hr', _⟩
      · rw [h'] at h
        cases h
      · rw [hr] at hr'
        cases hr'
  have hw : r.wantsObject .resolveFormat = true := by simp [Resolver.wantsObject, hf, hr]
  rcases hh : (r.fetch host s).result with e | k
  · rw [(Resolver.ask_of_fetch_error hw hh).1] at h
    cases h
  · obtain ⟨l, hl, _⟩ := Resolver.resolved_fetch hh
    rw [Resolver.sought?_eq_some.2 ⟨hw, hl, rfl⟩]
    rfl

/-- A resolver comes to remember a format only where there is a client. -/
theorem isSome_client_of_recognised {r : Resolver σ} {q : Question} (hr : r.recognised = none)
    (h : (r.ask host q s).self.recognised ≠ none) :
    (r.ask host q s).session.client.isSome := by
  obtain ⟨f, hf⟩ := Option.ne_none_iff_exists'.1 h
  have hresult := (Resolver.recognised_ask_iff hr q s f).1 hf
  obtain ⟨⟨l, t⟩, hsought⟩ := Option.isSome_iff_exists.1 (isSome_sought?_of_recognised hr hresult)
  rw [(Resolver.client_of_sought? hsought).1]
  rcases Session.getClient_cases host.factory t with ⟨c, hc, hget⟩ | ⟨_, x, u, _, hget, hclient, _⟩
  · rw [hget, hc]
    rfl
  · rcases x with e | c
    · rw [(Resolver.ask_of_getClient_error hsought (congrArg Prod.fst hget)).1] at hresult
      cases hresult
    · rw [hget, hclient]
      rfl

/-- As long as there is no client, no resolver remembers a format. -/
theorem recognised_serveAll (host : Host σ) (hrs : ∀ i, (rs i).recognised = none)
    (calls : List (Call ι)) (hs : (serveAll host rs s calls).2.client = none) (i : ι) :
    ((serveAll host rs s calls).1 i).recognised = none := by
  induction calls generalizing rs s with
  | nil => exact hrs i
  | cons call calls ih =>
      -- There was none after the first call either, for a client that is there stays.
      have hfirst : (serve host rs s call).2.client = none := by
        rcases hc : (serve host rs s call).2.client with _ | c
        · rfl
        · have hend := (visits_of_initialized host (serve host rs s call).1 hc calls).1
          rw [serveAll, hend] at hs
          cases hs
      refine ih ?_ hs
      intro j
      cases call with
      | get => exact hrs j
      | ask k q =>
          by_cases hj : j = k
          · subst hj
            rw [serve_ask]
            by_contra h
            have hclient : (serve host rs s (.ask j q)).2.client.isSome :=
              isSome_client_of_recognised (hrs j) h
            rw [hfirst] at hclient
            cases hclient
          · rw [serve_of_ne hj]
            exact hrs j

/-- There is a client after a run if and only if there was one before, or one of the gets gave one.
-/
theorem initialized_serveAll_iff (host : Host σ) (rs : ι → Resolver σ) (s : Session σ)
    (calls : List (Call ι)) :
    (serveAll host rs s calls).2.initialized ↔
      s.initialized ∨ ∃ t ∈ visits host rs s calls, ∃ c, (t.getClient host.factory).1 = .ok c := by
  rcases hs : s.client with _ | c
  · have hbefore : ¬ s.initialized := by simp [Session.initialized, hs]
    rcases visits_of_uninitialized host rs hs calls with ⟨hgets, hend, _⟩ |
      ⟨failed, t, later, c, hsplit, _, ht, _, hend, _⟩
    · refine iff_of_false (by simp [Session.initialized, hend]) ?_
      rintro (hinit | ⟨t, ht, c, hc⟩)
      · exact hbefore hinit
      · obtain ⟨e, he⟩ := hgets t ht
        rw [he.get] at hc
        cases hc
    · refine iff_of_true (by simp [Session.initialized, hend]) (.inr ⟨t, ?_, c, ht.get⟩)
      simp [hsplit]
  · obtain ⟨hend, _⟩ := visits_of_initialized host rs hs calls
    exact iff_of_true (by simp [Session.initialized, hend])
      (.inl (by simp [Session.initialized, hs]))

/-- A resolver that could not get the client answers every question with that failure, in whatever
session. -/
theorem ask_of_failed_get {r : Resolver σ} {q : Question} {l : Location} (hr : r.recognised = none)
    (hsought : r.sought? host q s = some (l, t)) (he : (t.getClient host.factory).1 = .error e)
    (q' : Question) (u : Session σ) :
    (r.ask host q s).self.ask host q' u =
      ⟨.error (fetchFailure l e), (r.ask host q s).self, u⟩ := by
  obtain ⟨hresult, hfailure⟩ := Resolver.ask_of_getClient_error hsought he
  rcases Resolver.ask_of_failure host hfailure q' u with h | ⟨_, f, hf, _⟩
  · exact h
  · rw [(Resolver.recognised_ask_iff hr q s f).1 hf] at hresult
    cases hresult

/-- One client serves all callers. In a session with a client every get gives that client. In one
without, each get runs the factory until a run succeeds; a failed run ends its get in its failure
and leaves no client, the first client that is built is the one that every later get gives, and the
factory is not run again. There is a client exactly if there was one, or a get gave one. A resolver
that could not get the client answers every later question with that failure, whether or not the
client was built for others by then. -/
theorem one_client_built (host : Host σ) (made : ι → Resolver σ) (s : Session σ)
    (calls : List (Call ι)) :
    let start := fun i ↦ (made i).forget
    let (rs, s') := serveAll host start s calls
    let gets := visits host start s calls
    (∀ c, s.client = some c →
      s'.client = some c ∧ s'.built = s.built ∧ ∀ t ∈ gets, Gives host.factory c t) ∧
    (s.client = none →
      ((∀ t ∈ gets, ∃ e, Attempts host.factory (.error e) t) ∧
        s'.client = none ∧ s'.built = s.built + gets.length) ∨
      (∃ failed t later c, gets = failed ++ t :: later ∧
        (∀ u ∈ failed, ∃ e, Attempts host.factory (.error e) u) ∧
        Attempts host.factory (.ok c) t ∧ (∀ u ∈ later, Gives host.factory c u) ∧
        s'.client = some c ∧ s'.built = s.built + (failed.length + 1))) ∧
    (s'.initialized ↔
      s.initialized ∨ ∃ t ∈ gets, ∃ c, (t.getClient host.factory).1 = .ok c) ∧
    ∀ before i q after l t e, calls = before ++ .ask i q :: after →
      let (rs₁, s₁) := serveAll host start s before
      (rs₁ i).sought? host q s₁ = some (l, t) → (t.getClient host.factory).1 = .error e →
        ((rs₁ i).ask host q s₁).result = .error (fetchFailure l e) ∧
        ∀ q' u, (rs i).ask host q' u = ⟨.error (fetchFailure l e), rs i, u⟩ := by
  intro start
  refine ⟨?_, ?_, initialized_serveAll_iff host start s calls, ?_⟩
  · intro c hc
    exact visits_of_initialized host start hc calls
  · intro hs
    exact visits_of_uninitialized host start hs calls
  · rintro before i q after l t e rfl hsought he
    obtain ⟨hclient, _⟩ := Resolver.built_of_sought? hsought
    have hnone : (serveAll host start s before).2.client = none := by
      rcases hc : t.client with _ | c
      · rw [← hclient, hc]
      · rw [Session.getClient_of_some hc] at he
        cases he
    have hr := recognised_serveAll host (fun _ ↦ rfl) before hnone i
    obtain ⟨hresult, hfailure⟩ := Resolver.ask_of_getClient_error hsought he
    refine ⟨hresult, ?_⟩
    have hend : (serveAll host start s (before ++ .ask i q :: after)).1 i =
        (((serveAll host start s before).1 i).ask host q
          (serveAll host start s before).2).self := by
      rw [serveAll_append, serveAll]
      rw [← serve_ask] at hfailure ⊢
      exact serveAll_of_failure host hfailure _ after
    intro q' u
    rw [hend]
    exact ask_of_failed_get hr hsought he q' u

end Run

/-- Two resolvers and a direct caller. The factory fails once: the resolver that ran it keeps the
failure, even though the client that the direct caller has built serves the other one. -/
theorem one_client_built_second_try :
    let start : Fin 2 → Resolver Scripted.Stage := fun _ ↦ (Scripted.direct "a.gif").forget
    let s : Session Scripted.Stage :=
      { outside := {
          entries := [⟨⟨"images", "a.gif"⟩, .object { data := some [0x61] }⟩]
          outcomes := [some (.invalidValue "no credentials"), none] } }
    let calls : List (Call (Fin 2)) := [.ask 0 .checkAccess, .get, .ask 1 .checkAccess]
    let (rs, s') := serveAll Scripted.host start s calls
    s'.initialized ∧ s'.built = 2 ∧ (visits Scripted.host start s calls).length = 3 ∧
      (rs 1).failure = none ∧
      ∀ q u, (rs 0).ask Scripted.host q u =
        ⟨.error (fetchFailure ⟨"images", "a.gif"⟩ (.invalidValue "no credentials")), rs 0, u⟩ := by
  intro start s calls
  obtain ⟨_, _, hinitialized, hfailed⟩ :=
    one_client_built Scripted.host (fun _ : Fin 2 ↦ Scripted.direct "a.gif") s calls
  refine ⟨?_, ?_, ?_, ?_, ?_⟩
  · exact hinitialized.2 (.inr ⟨_, List.mem_cons_of_mem _ List.mem_cons_self, _, rfl⟩)
  · decide +kernel
  · decide +kernel
  · rfl
  · exact (hfailed [] 0 .checkAccess [.get, .ask 1 .checkAccess] _ _ _ rfl rfl rfl).2

end ObjectLookup.SharedClient
