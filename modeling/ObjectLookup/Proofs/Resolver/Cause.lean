import ObjectLookup.Proofs.Delegate.Load
import ObjectLookup.Proofs.Resolver.Course
import ObjectLookup.Proofs.Resolver.Taxonomy
import ObjectLookup.Proofs.S3.Classification

/-! # What a failure was reported for

Whatever fails outside is reported by an error of the taxonomy that says in the end what the failure
said, and that has the failure with all of its causes below it (`IsReportOf`). In between are the
faults that were raised for it on the way: none, or the one of a delegate that did not load, or the
one of a service that did not answer as it should.

The ways in which something outside fails are listed by who turns to it: a delegate
(`Delegate.Raises`), a strategy (`Strategy.Raises`), a resolver (`Resolver.Raises`). Each is shown
to be reported from what is shown for the one before (`Delegate.Raises.call_eq`,
`Strategy.resolve_of_raises`, `Resolver.ask_of_raises`).
-/

namespace ObjectLookup

variable {σ : Type} {classes : List String} {e f g : Failure}

/-! ## Reports -/

namespace Failure

/-- The failure `g` is `e`, or was raised because of it, by way of faults of the given classes. It
says in the end what `e` says. -/
structure StemsFrom (g : Failure) (classes : List String) (e : Failure) : Prop where
  chain : ∃ between : List Fault, between.map Fault.name = classes ∧ g.chain = between ++ e.chain
  text : ∃ opening, g.text = opening ++ e.text

/-- The failure `f` is an error of the taxonomy that was raised because of `e`, by way of faults of
the given classes. It says in the end what `e` says. -/
structure IsReportOf (f : Failure) (classes : List String) (e : Failure) : Prop where
  taxonomy : f.IsOfTaxonomy
  causes : ∃ between : List Fault, between.map Fault.name = classes ∧ f.causes = between ++ e.chain
  text : ∃ opening, f.text = opening ++ e.text

theorem StemsFrom.refl (e : Failure) : e.StemsFrom [] e :=
  ⟨⟨[], rfl, rfl⟩, "", String.empty_append.symm⟩

theorem StemsFrom.because (h : g.StemsFrom classes e) {x : Fault} {opening : String}
    (ht : x.text = opening ++ g.text) :
    (Failure.because x g).StemsFrom (x.name :: classes) e := by
  obtain ⟨⟨between, hnames, hchain⟩, opening', htext⟩ := h
  refine ⟨⟨x :: between, ?_, ?_⟩, opening ++ opening', ?_⟩
  · rw [List.map_cons, hnames]
  · rw [List.cons_append, ← hchain]
    rfl
  · rw [String.append_assoc, ← htext]
    exact ht

theorem StemsFrom.isReportOf (h : g.StemsFrom classes e) {k : ErrorKind} {text opening : String}
    (ht : text = opening ++ g.text) :
    (Failure.because (.ofKind k text) g).IsReportOf classes e := by
  obtain ⟨⟨between, hnames, hchain⟩, opening', htext⟩ := h
  refine ⟨⟨k, text, rfl⟩, ⟨between, hnames, hchain⟩, opening ++ opening', ?_⟩
  rw [String.append_assoc, ← htext]
  exact ht

end Failure

/-- What is reported of a failed request ends in what the failure says. -/
theorem S3.account_eq_append (l : Location) (e : Failure) :
    ∃ opening, account l e = opening ++ e.text := by
  unfold account
  cases e.fault.family with
  | service response => exact ⟨_, rfl⟩
  | transport => exact ⟨_, rfl⟩
  | lookup | storage | delegateDisabled | other => exact ⟨"", String.empty_append.symm⟩

/-! ## Delegates -/

namespace Delegate

/-- How a delegate comes to fail: it raises a failure itself, or there is none to call, or importing
it or following the path to it has failed, or what was found there cannot be called. -/
inductive Raises (d : Delegate σ) (identifier : String) (context : Context) (o : σ) :
    List String → Failure → Prop where
  | call {origin : Origin} {run : Lookup σ} {e : Failure} (hd : d = .callable origin run)
      (h : (run.answer identifier context o).1 = .error e) : Raises d identifier context o [] e
  | disabled (hd : d = .disabled) : Raises d identifier context o [] ⟨disabledFault, []⟩
  | load {importer : Importer σ} {settings : Settings} {s : Session σ} {target : String}
      {e : Failure} (hd : d = (Delegate.load importer settings s).1)
      (hw : wanted? settings = some target) (h : (find importer target s).1 = .error e) :
      Raises d identifier context o ["DelegateLoadError"] e
  | notCallable {importer : Importer σ} {settings : Settings} {s : Session σ} {target : String}
      {m : Member σ} (hd : d = (Delegate.load importer settings s).1)
      (hw : wanted? settings = some target) (h : (find importer target s).1 = .ok m)
      (hm : m.call? = none) :
      Raises d identifier context o ["DelegateLoadError"] (Delegate.notCallable target)

theorem Raises.call_eq {d : Delegate σ} {identifier : String} {context : Context} {s : Session σ}
    (h : d.Raises identifier context s.outside classes e) :
    ∃ g, (d.call identifier context s).1 = .error g ∧ g.StemsFrom classes e := by
  have hunloadable (target : String) (e : Failure) (hd : d = .unloadable target e) :
      ∃ g, (d.call identifier context s).1 = .error g ∧
        g.StemsFrom ["DelegateLoadError"] e := by
    subst hd
    exact ⟨_, rfl, (Failure.StemsFrom.refl e).because (x := loadFault target e) rfl⟩
  cases h with
  | @call origin run _ hd h =>
      subst hd
      exact ⟨e, h, .refl e⟩
  | disabled hd =>
      subst hd
      exact ⟨_, rfl, .refl _⟩
  | load hd hw h => exact hunloadable _ _ (hd.trans (load_of_find_error hw h))
  | notCallable hd hw h hm => exact hunloadable _ _ (hd.trans (load_of_not_callable hw h hm))

end Delegate

/-! ## Strategies -/

namespace Strategy

theorem text_delegateFailure (identifier : String) (e : Failure) :
    ∃ opening, (delegateFailure identifier e).text = opening ++ e.text := by
  cases hf : e.fault.family with
  | delegateDisabled =>
      refine ⟨"", ?_⟩
      simp only [delegateFailure, hf, String.empty_append]
      rfl
  | lookup | storage | service | transport | other =>
      refine ⟨getObjectKey ++ " failed for " ++ identifier ++ ": ", ?_⟩
      simp only [delegateFailure, hf]
      rfl

/-- A dynamic strategy reports what its delegate fails with. -/
theorem resolve_of_raises {d : Delegate σ} {identifier : Identifier} {context : Context}
    {s : Session σ} (h : d.Raises identifier.value context s.outside classes e)
    (bucket : Option String) :
    ∃ f, ((Strategy.dynamic d bucket).resolve identifier context s).1 = .error f ∧
      f.IsReportOf classes e := by
  let note := "Invoking " ++ getObjectKey ++ " for " ++ identifier.value
  obtain ⟨g, hcall, hg⟩ := Delegate.Raises.call_eq (s := s.log .debug .strategies note) h
  obtain ⟨opening, htext⟩ := text_delegateFailure identifier.value g
  refine ⟨delegateFailure identifier.value g, ?_, hg.isReportOf htext⟩
  rcases hc : d.call identifier.value context (s.log .debug .strategies note) with ⟨g' | v, s'⟩ <;>
    rw [hc] at hcall <;> cases hcall
  simp only [resolve_dynamic, ask, note, hc]
  rfl

/-- How a strategy comes to fail for something outside: its delegate fails, or it is one from
outside that fails with something else than an error of the taxonomy. -/
inductive Raises (st : Strategy σ) (identifier : Identifier) (context : Context) (o : σ) :
    List String → Failure → Prop where
  | delegate {d : Delegate σ} {bucket : Option String} {classes : List String} {e : Failure}
      (hst : st = .dynamic d bucket) (h : d.Raises identifier.value context o classes e) :
      Raises st identifier context o classes e
  | supplied {resolve : Identifier → Context → Act σ Location} {e : Failure}
      (hst : st = .custom resolve) (h : (resolve identifier context o).1 = .error e)
      (hk : e.kind? = none) : Raises st identifier context o [] e

end Strategy

/-! ## Resolvers -/

namespace Resolver

variable {host : Host σ} {r : Resolver σ} {q : Question} {s t s₁ : Session σ} {l : Location}
  {st : Strategy σ}

/-- A resolver that has to look its location up reports what its strategy fails with. -/
theorem location_of_raises (hf : r.failure = none) (hl : r.resolved = none)
    (hst : r.getStrategy host s = (.ok st, s₁))
    (h : st.Raises r.identifier r.context s₁.outside classes e) :
    ∃ f, (r.location host s).result = .error f ∧ f.IsReportOf classes e := by
  rw [location_of_unresolved hf hl]
  have hresult {f : Failure}
      (hres : (st.resolve r.identifier r.context (s₁.record .consulted)).1 = .error f) :
      (r.resolve host s).result = .error (lookupFailure r.identifier f) := by
    rcases hx : st.resolve r.identifier r.context (s₁.record .consulted) with ⟨f' | l', s₂⟩ <;>
      rw [hx] at hres <;> cases hres
    simp only [resolve, hst, hx]
  cases h with
  | delegate hst' h =>
      subst hst'
      obtain ⟨f, hres, hf⟩ := Strategy.resolve_of_raises (s := s₁.record .consulted) h _
      refine ⟨f, ?_, hf⟩
      rw [hresult hres, lookupFailure_of_isOfTaxonomy hf.taxonomy]
  | supplied hst' h hk =>
      subst hst'
      refine ⟨_, hresult h, ?_⟩
      simp only [lookupFailure, hk]
      exact (Failure.StemsFrom.refl e).isReportOf rfl

/-- How a question comes to fail for something outside: the lookup of its location does, or the
factory of the storage client, or the client, or the connection to a service behind it. -/
inductive Raises (host : Host σ) (r : Resolver σ) (q : Question) (s : Session σ) :
    List String → Failure → Prop where
  | lookup {st : Strategy σ} {s₁ : Session σ} {classes : List String} {e : Failure}
      (hq : q = .location ∨ r.wantsObject q = true) (hf : r.failure = none)
      (hl : r.resolved = none) (hst : r.getStrategy host s = (.ok st, s₁))
      (h : st.Raises r.identifier r.context s₁.outside classes e) : Raises host r q s classes e
  | factory {l : Location} {t : Session σ} {e : Failure}
      (hsought : r.sought? host q s = some (l, t)) (hc : t.client = none)
      (h : (host.factory.run t.outside).1 = .error e) : Raises host r q s [] e
  | client {c : Client σ} {l : Location} {t s₁ : Session σ} {e : Failure}
      (hsought : r.sought? host q s = some (l, t)) (hc : t.getClient host.factory = (.ok c, s₁))
      (h : (c.fetch l s₁.outside).1 = .error e) : Raises host r q s [] e
  | service {c : S3.Connection σ} {l : Location} {t s₁ : Session σ} {e : Failure}
      (hsought : r.sought? host q s = some (l, t))
      (hc : t.getClient host.factory = (.ok c.client, s₁))
      (h : (c.getObject l s₁.outside).1 = .error e) (he : (S3.evidence? e).isSome)
      (hparts : ∀ response, e.fault.family = .service response → S3.IsReadable response) :
      Raises host r q s ["StorageClientError"] e

/-- A resolver that selects the dynamic strategy and was given no delegate fails if it cannot load
the one that the settings ask for. -/
theorem raises_of_find_error {target : String} (hq : q = .location ∨ r.wantsObject q = true)
    (hf : r.failure = none) (hl : r.resolved = none) (hst : r.strategy = none)
    (hd : r.delegate = none) (hselector : Selector.ofSettings? r.settings = some .dynamic)
    (hw : Delegate.wanted? r.settings = some target)
    (h : (Delegate.find host.importer target (s.record .selected)).1 = .error e) :
    r.Raises host q s ["DelegateLoadError"] e := by
  rcases hload : Delegate.load host.importer r.settings (s.record .selected) with ⟨d, s₁⟩
  have hget : r.getStrategy host s = (.ok (.dynamic d r.settings.bucketName), s₁) := by
    simp only [getStrategy, hst, Strategy.select, hselector, hd, hload]
  have hd' : d = (Delegate.load host.importer r.settings (s.record .selected)).1 := by rw [hload]
  exact .lookup hq hf hl hget (.delegate rfl (.load hd' hw h))

/-- What a request for a location fails with is reported, and what that stems from. -/
theorem ask_of_request_error (hsought : r.sought? host q s = some (l, t))
    (hrequest : (request host l t).1 = .error g) (hg : g.StemsFrom classes e) :
    ∃ f, (r.ask host q s).result = .error f ∧ (r.ask host q s).self.failure = some f ∧
      f.IsReportOf classes e := by
  obtain ⟨_, hresult⟩ := fetch_of_sought? hsought
  rw [hrequest] at hresult
  obtain ⟨hresult, hfailure⟩ := ask_of_fetch_error (sought?_eq_some.1 hsought).1 hresult
  exact ⟨_, hresult, hfailure, hg.isReportOf rfl⟩

theorem request_of_fetch_error {c : Client σ} (hc : t.getClient host.factory = (.ok c, s₁))
    (h : (c.fetch l s₁.outside).1 = .error e) : (request host l t).1 = .error e := by
  simp only [request, hc]
  exact h

theorem request_of_run_error (hc : t.client = none)
    (h : (host.factory.run t.outside).1 = .error e) : (request host l t).1 = .error e := by
  rcases Session.getClient_cases host.factory t with ⟨c, hc', _⟩ | ⟨_, x, u, hx, hget, _⟩
  · rw [hc] at hc'
    cases hc'
  · rw [h] at hx
    subst hx
    simp only [request, hget]

/-- A question reports what fails outside, and the resolver keeps the report. -/
theorem ask_of_raises (h : r.Raises host q s classes e) :
    ∃ f, (r.ask host q s).result = .error f ∧ (r.ask host q s).self.failure = some f ∧
      f.IsReportOf classes e := by
  cases h with
  | lookup hq hf hl hst h =>
      obtain ⟨f, hlocation, hreport⟩ := location_of_raises hf hl hst h
      rcases hq with rfl | hw
      · refine ⟨f, ?_, ?_, hreport⟩
        · simp only [ask, Step.result_map, hlocation]
          rfl
        · simp only [ask, Step.self_map, failure_location, hlocation]
          rfl
      · have hfetch : (r.fetch host s).result = .error f := by rw [fetch_of_unlocated hlocation]
        obtain ⟨hresult, hfailure⟩ := ask_of_fetch_error hw hfetch
        exact ⟨f, hresult, hfailure, hreport⟩
  | factory hsought hc h =>
      exact ask_of_request_error hsought (request_of_run_error hc h) (.refl e)
  | client hsought hc h =>
      exact ask_of_request_error hsought (request_of_fetch_error hc h) (.refl e)
  | @service c l t s₁ e hsought hc h he hparts =>
      obtain ⟨⟨code, status⟩, hevidence⟩ := Option.isSome_iff_exists.1 he
      obtain ⟨code', _, hneutral⟩ := S3.neutral_of_evidence (l := l) hevidence hparts
      have hfetch : (c.client.fetch l s₁.outside).1 = .error (S3.neutral l e) :=
        S3.fst_fetch_client h
      obtain ⟨opening, haccount⟩ := S3.account_eq_append l e
      have hstems : (S3.neutral l e).StemsFrom ["StorageClientError"] e := by
        rw [hneutral]
        exact (Failure.StemsFrom.refl e).because (x := S3.storageFault _ code' status) haccount
      exact ask_of_request_error hsought (request_of_fetch_error hc hfetch) hstems

/-- A resolver that keeps a failure raises no other one in any run. -/
theorem error_of_mem_transcript (hf : r.failure = some f) {ts : List (Turn σ)} {x : Exchange σ}
    (hx : x ∈ r.transcript host s ts) :
    (x.question ≠ .resolveFormat → x.step.result = .error f) ∧
      ∀ f', x.step.result = .error f' → f' = f := by
  have hkept : x.resolver.failure = some f :=
    resolver_of_mem_transcript (P := fun r ↦ r.failure = some f) failure_ask_of_failure hf hx
  rw [step_of_mem_transcript hx]
  rcases ask_of_failure host hkept x.question x.session with h | ⟨hq, fmt, _, h⟩ <;> rw [h]
  · refine ⟨fun _ ↦ rfl, ?_⟩
    rintro f' ⟨⟩
    rfl
  · exact ⟨fun hne ↦ absurd hq hne, nofun⟩

end Resolver

/-! ## Content sources -/

theorem ContentSource.newStream_of_stream_error {c : ContentSource σ} {s : Session σ}
    (hclosed : c.closed = false) (hstream : c.stream = none)
    (h : (c.handle.stream s.outside).1 = .error e) :
    (c.newStream s).result = .error (openFailure e) := by
  rcases ho : c.handle.stream s.outside with ⟨e' | stream, o⟩ <;> rw [ho] at h <;> cases h
  simp [newStream, hclosed, hstream, Session.perform, ho]

theorem ContentSource.read_of_newStream_error {c : ContentSource σ} {s : Session σ}
    (h : (c.newStream s).result = .error f) : (c.read s).result = .error f := by
  simp only [read, h]

/-- What fails outside is reported by an error of the taxonomy that has the failure with all of its
causes below it and ends in what the failure says: at once, or by way of one fault for a delegate
that did not load, or for a service that did not answer as it should. A resolver raises that report
as it is from then on, and no other failure. -/
theorem failure_kept_as_cause (host : Host σ) (r : Resolver σ) (q : Question) (s : Session σ) :
    (∀ classes e, r.Raises host q s classes e →
      let step := r.ask host q s
      ∃ f, step.result = .error f ∧ f.IsReportOf classes e ∧
        ∀ u ts, ∀ x ∈ step.self.transcript host u ts,
          (x.question ≠ .resolveFormat → x.step.result = .error f) ∧
          ∀ f', x.step.result = .error f' → f' = f) ∧
    (∀ (d : Delegate σ) bucket (identifier : Identifier) context classes e,
      d.Raises identifier.value context s.outside classes e →
      ∃ f, ((Strategy.dynamic d bucket).resolve identifier context s).1 = .error f ∧
        f.IsReportOf classes e) ∧
    ∀ (c : ContentSource σ) e, c.closed = false → c.stream = none →
      (c.handle.stream s.outside).1 = .error e →
      ∃ f, (c.newStream s).result = .error f ∧ (c.read s).result = .error f ∧
        f.IsReportOf [] e := by
  refine ⟨?_, ?_, ?_⟩
  · intro classes e h
    obtain ⟨f, hresult, hfailure, hreport⟩ := Resolver.ask_of_raises h
    exact ⟨f, hresult, hreport, fun u ts x hx ↦ Resolver.error_of_mem_transcript hfailure hx⟩
  · intro d bucket identifier context classes e h
    exact Strategy.resolve_of_raises h bucket
  · intro c e hclosed hstream h
    have hnew := ContentSource.newStream_of_stream_error hclosed hstream h
    exact ⟨_, hnew, ContentSource.read_of_newStream_error hnew,
      (Failure.StemsFrom.refl e).isReportOf rfl⟩

/-- A resolver whose delegate is in a module that does not exist. -/
def abandoned : Resolver Scripted.Stage where
  identifier := ⟨"a.gif"⟩
  settings := {
    lookupStrategy := some "Dynamic", delegateEnabled := true, delegateTarget := some "zoo:find" }

/-- The module that is missing, the service that has no such object, and the object that does not
open are each the cause of what is raised for it. -/
theorem failure_kept_as_cause_abandoned :
    let noModule : Failure := ⟨Scripted.Catalogue.noModule "zoo" none, []⟩
    let noSuchKey := Scripted.serviceFailure Scripted.noSuchKey "GetObject"
    let torn : Scripted.Stage := {
      fetched := [⟨{ data := none, faults := { openStream := some (.invalidValue "torn") } }, [], 0,
        false, 0, 0⟩] }
    (∃ f, (abandoned.ask Scripted.host .checkAccess { outside := {} }).result = .error f ∧
      f.IsReportOf ["DelegateLoadError"] noModule) ∧
    (∃ f, ((Scripted.direct "a.gif").ask Resolver.serviced .openStream
        { outside := {} }).result = .error f ∧
      f.IsReportOf ["StorageClientError"] noSuchKey) ∧
    (∃ f, (ContentSource.newStream ⟨Scripted.handle 0, none, false⟩ { outside := torn }).result =
        .error f ∧
      f.IsReportOf [] (.invalidValue "torn")) := by
  intro noModule noSuchKey torn
  refine ⟨?_, ?_, ?_⟩
  · have hselector : Selector.ofSettings? abandoned.settings = some .dynamic := by decide +kernel
    obtain ⟨f, hresult, hreport, _⟩ :=
      (failure_kept_as_cause Scripted.host abandoned .checkAccess { outside := {} }).1 _ noModule
        (Resolver.raises_of_find_error (.inr rfl) rfl rfl rfl rfl hselector rfl rfl)
    exact ⟨f, hresult, hreport⟩
  · have hreadable : S3.IsReadable Scripted.noSuchKey :=
      ⟨.inr ⟨_, .inl rfl⟩, .inr ⟨_, .inl rfl⟩, .inr ⟨_, .inl rfl⟩⟩
    have hparts (response : Value) (h : noSuchKey.fault.family = .service response) :
        S3.IsReadable response := by
      cases h
      exact hreadable
    obtain ⟨f, hresult, hreport, _⟩ :=
      (failure_kept_as_cause Resolver.serviced (Scripted.direct "a.gif") .openStream
        { outside := {} }).1 _ noSuchKey
        (.service (c := ⟨0, Scripted.getObject⟩) rfl rfl rfl rfl hparts)
    exact ⟨f, hresult, hreport⟩
  · obtain ⟨f, hnew, _, hreport⟩ :=
      (failure_kept_as_cause Scripted.host abandoned .location { outside := torn }).2.2
        ⟨Scripted.handle 0, none, false⟩ (.invalidValue "torn") rfl rfl rfl
    exact ⟨f, hnew, hreport⟩

end ObjectLookup
