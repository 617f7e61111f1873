import ObjectLookup.Proofs.Resolver.Memory
import ObjectLookup.Proofs.Scripted.Store

/-! # The failure that a resolver remembers

A resolver that has failed turns to nothing outside any more: for the rest of every run it repeats
its failure, whatever the strategy and the store would do by now (`failure_persists`).

Two of its answers do not go by that failure. A handle that fails after it was fetched is a
`mishap?`, which is passed on as it is and not remembered; every other failure is one of the
taxonomy and is remembered (`remembered_iff_mishap?_eq_none`). And a format that was determined
before the failure is still given out after it (`resolveFormat_of_failed_run`).
-/

namespace ObjectLookup

namespace Resolver

variable {σ : Type} {host : Host σ} {r : Resolver σ} {e : Failure}

/-! ## After a failure -/

/-- A resolver that has failed answers at once: with its failure, or with a format that it
remembers. -/
theorem ask_of_failure (host : Host σ) (hf : r.failure = some e) (q : Question) (s : Session σ) :
    r.ask host q s = ⟨.error e, r, s⟩ ∨
    (q = .resolveFormat ∧
      ∃ f, r.recognised = some f ∧ r.ask host q s = ⟨.ok (.recognised f), r, s⟩) := by
  have hfetch : r.fetch host s = ⟨.error e, r, s⟩ := fetch_of_failure hf s
  cases q with
  | location =>
      refine .inl ?_
      rw [ask, location_of_failure hf]
      rfl
  | checkAccess =>
      refine .inl ?_
      simp only [ask, checkAccess, hfetch]
      rfl
  | openStream =>
      refine .inl ?_
      simp only [ask, openStream, hfetch]
      rfl
  | resolveFormat =>
      rcases hr : r.recognised with _ | f
      · refine .inl ?_
        simp only [ask, resolveFormat, hr, hfetch]
        rfl
      · refine .inr ⟨rfl, f, rfl, ?_⟩
        rw [ask, resolveFormat_of_recognised hr]
        rfl

/-- No question takes a failure back. -/
theorem failure_ask_of_failure (r : Resolver σ) (q : Question) (s : Session σ)
    (hf : r.failure = some e) : (r.ask host q s).self.failure = some e := by
  rcases ask_of_failure host hf q s with h | ⟨_, f, _, h⟩ <;> rw [h] <;> exact hf

/-- Once a question has left a failure behind, the resolver keeps it for the rest of the run. No
later question changes the session, so that nothing outside is turned to and nothing is written to
the journal, and all but the one for the format end in that failure. -/
theorem failure_persists (host : Host σ) (r : Resolver σ) (s : Session σ) (ts : List (Turn σ)) :
    (r.transcript host s ts).Pairwise fun x y ↦
      ∀ e, x.step.self.failure = some e →
        y.step.self.failure = some e ∧ y.step.session = y.session ∧
        (y.question ≠ .resolveFormat → y.step.result = .error e) := by
  induction ts generalizing r s with
  | nil => exact .nil
  | cons t ts ih =>
      apply List.pairwise_cons.2
      constructor
      · intro y hy e he
        have hy' : y.resolver.failure = some e := resolver_of_mem_transcript
          (P := fun r ↦ r.failure = some e) failure_ask_of_failure he hy
        rw [step_of_mem_transcript hy]
        refine ⟨failure_ask_of_failure y.resolver y.question y.session hy', ?_⟩
        rcases ask_of_failure host hy' y.question y.session with h | ⟨hq, f, _, h⟩
        · rw [h]
          exact ⟨rfl, fun _ ↦ rfl⟩
        · rw [h]
          exact ⟨rfl, fun hne ↦ absurd hq hne⟩
      · exact ih _ _

/-! ## Failures of the taxonomy -/

/-- If a resolver remembers a failure, it is one of the taxonomy. -/
def IsClassified (r : Resolver σ) : Prop := ∀ e, r.failure = some e → e.kind?.isSome

theorem isClassified_forget (r : Resolver σ) : r.forget.IsClassified := by
  intro e he
  cases he

theorem isClassified_location (h : r.IsClassified) (s : Session σ) :
    (r.location host s).self.IsClassified := by
  rcases self_location_cases host r s with ⟨e, _, h'⟩ | ⟨l, _, _, h'⟩ | ⟨st, e, _, hk, _, h'⟩ |
    ⟨st, l, _, _, h'⟩ <;> rw [h']
  · exact h
  · exact h
  · rintro _ ⟨⟩
    exact hk
  · exact h

theorem isClassified_fetch (h : r.IsClassified) (s : Session σ) :
    (r.fetch host s).self.IsClassified := by
  have hl : (r.location host s).self.IsClassified := isClassified_location h s
  rcases fetch_cases host r s with ⟨e, _, h'⟩ | ⟨l, e, s₁, _, _, h'⟩ | ⟨l, k, s₁, _, _, h'⟩ <;>
    rw [h']
  · exact hl
  · rintro _ ⟨⟩
    rfl
  · exact hl

theorem isClassified_ask (r : Resolver σ) (q : Question) (s : Session σ) (h : r.IsClassified) :
    (r.ask host q s).self.IsClassified := by
  rcases self_ask_cases host r q s with ⟨_, h'⟩ | ⟨_, f, h'⟩ | ⟨_, h'⟩ <;> rw [h']
  · exact isClassified_location h s
  · exact isClassified_fetch h s
  · exact h

/-! ## What is remembered of a failure -/

/-- How a handle that was fetched for a question fails: the one whose access is checked when it is
closed, the one whose format is determined also when it is asked for its content type. -/
def mishap? (host : Host σ) (r : Resolver σ) (q : Question) (s : Session σ) : Option Failure :=
  match q, (r.fetch host s).result with
  | .checkAccess, .ok h => Failure.ofResult? ((r.fetch host s).session.perform h.close).1
  | .resolveFormat, .ok h =>
    if r.recognised = none then Failure.ofResult? (takeContentType h (r.fetch host s).session).1
    else none
  | _, _ => none

/-- A question leaves the failure that it ends in, unless that is a mishap, or the question is one
for a format in memory. -/
theorem ask_cases (host : Host σ) (r : Resolver σ) (q : Question) (s : Session σ) :
    (r.mishap? host q s = none ∧
      (r.ask host q s).self.failure = Failure.ofResult? (r.ask host q s).result) ∨
    (∃ e, r.mishap? host q s = some e ∧ (r.ask host q s).result = .error e ∧
      (r.ask host q s).self.failure = none) ∨
    (r.mishap? host q s = none ∧ q = .resolveFormat ∧
      ∃ f, r.recognised = some f ∧ r.ask host q s = ⟨.ok (.recognised f), r, s⟩) := by
  cases q with
  | location =>
      refine .inl ⟨rfl, ?_⟩
      simpa only [ask, Step.self_map, Step.result_map, Failure.ofResult?_map] using
        failure_location host r s
  | openStream =>
      refine .inl ⟨rfl, ?_⟩
      simpa only [ask, openStream, Step.self_map, Step.result_map, Failure.ofResult?_map] using
        failure_fetch host r s
  | checkAccess =>
      have hf := failure_fetch host r s
      rcases hh : (r.fetch host s).result with e | h <;> rw [hh] at hf
      · refine .inl ⟨by simp only [mishap?, hh], ?_⟩
        simp only [ask, checkAccess, hh]
        exact hf
      · rcases hc : (r.fetch host s).session.perform h.close with ⟨e | ⟨⟩, s₁⟩
        · refine .inr (.inl ⟨e, ?_, ?_, ?_⟩)
          · simp only [mishap?, hh, hc, Failure.ofResult?_error]
          · simp only [ask, checkAccess, hh, hc]
            rfl
          · simp only [ask, checkAccess, hh, hc]
            exact hf
        · refine .inl ⟨by simp only [mishap?, hh, hc, Failure.ofResult?_ok], ?_⟩
          simp only [ask, checkAccess, hh, hc]
          exact hf
  | resolveFormat =>
      rcases hr : r.recognised with _ | f
      · have hf := failure_fetch host r s
        rcases resolveFormat_cases host hr s with ⟨e, hh, h⟩ | ⟨k, e, s₁, hh, ht, h⟩ |
          ⟨k, t, s₁, l, hh, ht, _, h⟩ <;> rw [hh] at hf
        · refine .inl ⟨by simp only [mishap?, hh], ?_⟩
          rw [ask, h]
          exact hf
        · refine .inr (.inl ⟨e, ?_, ?_, ?_⟩)
          · simp only [mishap?, hh, hr, ht, if_true, Failure.ofResult?_error]
          · rw [ask, h]
            rfl
          · rw [ask, h]
            exact hf
        · refine .inl ⟨?_, ?_⟩
          · simp only [mishap?, hh, hr, ht, if_true, Failure.ofResult?_ok]
          · rw [ask, h]
            exact hf
      · refine .inr (.inr ⟨?_, rfl, f, rfl, ?_⟩)
        · rcases hh : (r.fetch host s).result with e | h <;> simp [mishap?, hh, hr]
        · rw [ask, resolveFormat_of_recognised hr]
          rfl

end Resolver

/-- How the handle that was fetched for an exchange fails, if it does. -/
def Exchange.mishap? {σ : Type} (host : Host σ) (x : Exchange σ) : Option Failure :=
  x.resolver.mishap? host x.question x.session

namespace Resolver

variable {σ : Type} {host : Host σ} {r : Resolver σ} {e : Failure}

/-- What one question does with a failure: it is of the taxonomy and remembered, unless it is a
mishap, which is not remembered. -/
theorem remembered_ask_iff (h : r.IsClassified) (q : Question) (s : Session σ) :
    ((∀ e, (r.ask host q s).result = .error e →
        e.kind?.isSome ∧ (r.ask host q s).self.failure = some e) ↔ r.mishap? host q s = none) ∧
    ∀ e, r.mishap? host q s = some e →
      (r.ask host q s).result = .error e ∧ (r.ask host q s).self.failure = none := by
  rcases ask_cases host r q s with ⟨hm, hf⟩ | ⟨e, hm, he, hf⟩ | ⟨hm, _, f, _, hf⟩
  · constructor
    · refine iff_of_true ?_ hm
      intro e he
      have hf' : (r.ask host q s).self.failure = some e := by
        rw [hf, he]
        rfl
      exact ⟨isClassified_ask r q s h e hf', hf'⟩
    · intro e he
      rw [hm] at he
      cases he
  · constructor
    · refine iff_of_false ?_ (by simp [hm])
      intro hall
      have hf' : (r.ask host q s).self.failure = some e := (hall e he).2
      rw [hf] at hf'
      cases hf'
    · intro e' he'
      rw [hm] at he'
      cases he'
      exact ⟨he, hf⟩
  · constructor
    · refine iff_of_true ?_ hm
      intro e he
      rw [hf] at he
      cases he
    · intro e he
      rw [hm] at he
      cases he

/-- A resolver that has not failed comes to remember a failure only as the one that a question ends
in. -/
theorem error_of_failure_ask (hr : r.failure = none) {q : Question} {s : Session σ}
    (h : (r.ask host q s).self.failure = some e) :
    r.mishap? host q s = none ∧ (r.ask host q s).result = .error e := by
  rcases ask_cases host r q s with ⟨hm, hf⟩ | ⟨_, _, _, hf⟩ | ⟨_, _, f, _, hf⟩
  · rw [hf] at h
    exact ⟨hm, Failure.ofResult?_eq_some.1 h⟩
  · rw [hf] at h
    cases h
  · rw [hf, hr] at h
    cases h

theorem remembered_of_mem_transcript {s : Session σ} {ts : List (Turn σ)} {x : Exchange σ}
    (hx : x ∈ r.forget.transcript host s ts) :
    ((∀ e, x.step.result = .error e → e.kind?.isSome ∧ x.step.self.failure = some e) ↔
        x.mishap? host = none) ∧
      ∀ e, x.mishap? host = some e → x.step.result = .error e ∧ x.step.self.failure = none := by
  have hclass : x.resolver.IsClassified :=
    resolver_of_mem_transcript isClassified_ask (isClassified_forget r) hx
  rw [step_of_mem_transcript hx]
  exact remembered_ask_iff hclass x.question x.session

/-- Every failure of a question is one of the taxonomy and is remembered, if and only if it is not
a mishap of the handle; a mishap is passed on and never remembered. So a resolver remembers a
failure after a run if and only if a question of the run has failed for another reason. -/
theorem remembered_iff_mishap?_eq_none (host : Host σ) (r : Resolver σ) (s : Session σ)
    (ts : List (Turn σ)) :
    (∀ x ∈ r.forget.transcript host s ts,
      ((∀ e, x.step.result = .error e → e.kind?.isSome ∧ x.step.self.failure = some e) ↔
        x.mishap? host = none) ∧
      ∀ e, x.mishap? host = some e → x.step.result = .error e ∧ x.step.self.failure = none) ∧
    ((r.forget.run host s ts).1.failure.isSome ↔
      ∃ x ∈ r.forget.transcript host s ts,
        x.mishap? host = none ∧ ∃ e, x.step.result = .error e) := by
  refine ⟨fun x hx ↦ remembered_of_mem_transcript hx, ?_⟩
  constructor
  · intro h
    obtain ⟨x, hx, hbefore, hafter⟩ :=
      exists_mem_transcript_of_run (P := fun r ↦ r.failure.isSome) (by simp) h
    obtain ⟨e, he⟩ := Option.isSome_iff_exists.1 hafter
    rw [step_of_mem_transcript hx] at he
    obtain ⟨hm, he⟩ := error_of_failure_ask (Option.not_isSome_iff_eq_none.1 hbefore) he
    refine ⟨x, hx, hm, e, ?_⟩
    rw [step_of_mem_transcript hx]
    exact he
  · rintro ⟨x, hx, hm, e, he⟩
    have hf : x.step.self.failure = some e :=
      ((remembered_of_mem_transcript hx).1.2 hm e he).2
    rw [run_of_mem_transcript (P := fun r ↦ r.failure = some e) failure_ask_of_failure hx hf]
    rfl

/-- An object that fails to tell its content type, with an error of the taxonomy at that. -/
def unreadable : Scripted.Entry where
  location := ⟨"images", "c.jpg"⟩
  reply := .object {
    data := some [0x64, 0x61, 0x74, 0x61]
    contentType := some "image/png"
    faults := { contentType := some (.ofKind .storageFailure "sio") } }

/-- The failure to tell the content type ends the question for the format, and is not remembered. -/
theorem not_remembered_unreadable :
    ¬ ∀ x ∈ (Scripted.direct "c.jpg").transcript Scripted.host (Scripted.session [unreadable])
        [{ question := .resolveFormat }],
      ∀ e, x.step.result = .error e → e.kind?.isSome ∧ x.step.self.failure = some e := by
  intro h
  obtain ⟨_, hf⟩ := h _ (List.mem_singleton_self _) _ rfl
  cases hf

/-! ## The format after a failure -/

/-- A format that was given in a run is given at once from then on. -/
theorem resolveFormat_of_mem_transcript {s : Session σ} {ts : List (Turn σ)} {x : Exchange σ}
    {f : Format} (hx : x ∈ r.transcript host s ts) (h : x.step.result = .ok (.recognised f))
    (s' : Session σ) :
    (r.run host s ts).1.resolveFormat host s' = ⟨.ok f, (r.run host s ts).1, s'⟩ := by
  rw [step_of_mem_transcript hx] at h
  have hr : x.step.self.recognised = some f := by
    rw [step_of_mem_transcript hx]
    exact recognised_ask_of_ok h
  refine resolveFormat_of_recognised ?_ s'
  exact run_of_mem_transcript (P := fun r ↦ r.recognised = some f)
    (fun r q s hr ↦ (ask_of_recognised hr q s).1) hx hr

/-- A format in memory at the end of a run was given in it. -/
theorem exists_mem_transcript_of_recognised {s : Session σ} {ts : List (Turn σ)} {f : Format}
    (h : (r.forget.run host s ts).1.recognised = some f) :
    ∃ x ∈ r.forget.transcript host s ts, x.step.result = .ok (.recognised f) := by
  obtain ⟨x, hx, hbefore, hafter⟩ := exists_mem_transcript_of_run
    (P := fun r ↦ r.recognised.isSome) (by simp) (Option.isSome_iff_exists.2 ⟨f, h⟩)
  obtain ⟨f', hf'⟩ := Option.isSome_iff_exists.1 hafter
  have hend := run_of_mem_transcript (P := fun r ↦ r.recognised = some f')
    (fun r q s hr ↦ (ask_of_recognised hr q s).1) hx hf'
  rw [h] at hend
  cases hend
  refine ⟨x, hx, ?_⟩
  rw [step_of_mem_transcript hx] at hf' ⊢
  exact (recognised_ask_iff (Option.not_isSome_iff_eq_none.1 hbefore) _ _ f).1 hf'

/-- A resolver that has failed answers the question for the format with its failure if and only if
no question of its run was answered with a format. It repeats that format otherwise. -/
theorem resolveFormat_of_failed_run (host : Host σ) (r : Resolver σ) (s : Session σ)
    (ts : List (Turn σ)) (hf : (r.forget.run host s ts).1.failure = some e) (s' : Session σ) :
    (((r.forget.run host s ts).1.resolveFormat host s').result = .error e ↔
      ∀ x ∈ r.forget.transcript host s ts, ∀ f, x.step.result ≠ .ok (.recognised f)) ∧
    ∀ x ∈ r.forget.transcript host s ts, ∀ f, x.step.result = .ok (.recognised f) →
      (r.forget.run host s ts).1.resolveFormat host s' =
        ⟨.ok f, (r.forget.run host s ts).1, s'⟩ := by
  refine ⟨?_, fun x hx f hx' ↦ resolveFormat_of_mem_transcript hx hx' s'⟩
  constructor
  · intro h x hx f hx'
    rw [resolveFormat_of_mem_transcript hx hx'] at h
    cases h
  · intro h
    rcases hr : (r.forget.run host s ts).1.recognised with _ | f
    · simp only [resolveFormat, hr, fetch_of_failure hf]
    · obtain ⟨x, hx, hx'⟩ := exists_mem_transcript_of_recognised hr
      exact absurd hx' (h x hx f)

/-- The format of an object that never was there is refused as its access was. -/
theorem resolveFormat_of_failed_run_missing :
    let missing := fetchFailure ⟨"images", "a.gif"⟩ (Scripted.missing ⟨"images", "a.gif"⟩)
    let failed := (Scripted.direct "a.gif").forget.run Scripted.host (Scripted.session [])
      [{ question := .checkAccess }]
    failed.1.failure = some missing ∧
      (failed.1.resolveFormat Scripted.host failed.2).result = .error missing := by
  refine ⟨rfl, (resolveFormat_of_failed_run Scripted.host (Scripted.direct "a.gif")
    (Scripted.session []) [{ question := .checkAccess }] rfl _).1.2 ?_⟩
  intro x hx f h
  cases List.mem_singleton.1 hx
  cases h

/-- An image that can be read. -/
def image : Scripted.Entry :=
  ⟨⟨"images", "a.gif"⟩, .object { data := some [0x61], contentType := some "image/gif" }⟩

/-- What becomes of the image when the service refuses requests for it. -/
def refused : Scripted.Entry where
  location := ⟨"images", "a.gif"⟩
  reply := .failure
    ⟨Scripted.fault "StorageClientError" none (.text "svc failed") (some "SlowDown") (.int 503), []⟩

/-- The format is asked for, then the image is refused, then its access is checked. -/
def refusal : List (Turn Scripted.Stage) :=
  [{ question := .resolveFormat },
    { question := .checkAccess
      meanwhile := fun s ↦ { s with outside := s.outside.addEntry refused } }]

/-- After the refusal the resolver has failed, and still answers with a format. -/
theorem resolveFormat_after_refusal :
    let failed := (Scripted.direct "a.gif").run Scripted.host (Scripted.session [image]) refusal
    failed.1.failure.isSome ∧
      ¬ ∀ e, failed.1.failure = some e →
        (failed.1.resolveFormat Scripted.host failed.2).result = .error e := by
  refine ⟨rfl, fun h ↦ ?_⟩
  cases h _ rfl

end Resolver

end ObjectLookup
