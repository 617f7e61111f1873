import ObjectLookup.Proofs.Delegate.Load
import ObjectLookup.Proofs.Resolver.Course
import ObjectLookup.Proofs.Resolver.Direct
import ObjectLookup.Proofs.Resolver.Taxonomy
import ObjectLookup.Proofs.Scripted.Catalogue

/-! # Where a failed load shows

What goes wrong with loading a delegate shows when the delegate is asked, and nowhere else. A
resolver that asks a stand-in refuses its first question with an error of its own that has the
stand-in's failure for its cause (`ask_refused`). It never comes to storage, and refuses everything
that it is asked after that in the same way (`refused_of_standIn`). A resolver that selects the
direct strategy does not notice.
-/

namespace ObjectLookup

variable {σ : Type} {f g : Failure}

/-! ## Stand-ins -/

theorem Strategy.resolve_of_refusal {d : Delegate σ} (hd : d.refusal? = some g)
    (bucket : Option String) (identifier : Identifier) (context : Context) (s : Session σ) :
    ((Strategy.dynamic d bucket).resolve identifier context s).1 =
      .error (delegateFailure identifier.value g) := by
  have hcall := Delegate.call_of_refusal hd identifier.value context
  simp only [resolve_dynamic, ask, hcall]
  rfl

/-- The exchange was refused, and storage was not turned to for it. -/
structure Exchange.IsRefused (x : Exchange σ) (f : Failure) : Prop where
  result : x.step.result = .error f
  requests : x.step.session.requests = x.session.requests
  built : x.step.session.built = x.session.built
  client : x.step.session.client = x.session.client

namespace Resolver

variable {host : Host σ} {r : Resolver σ} {s s₁ : Session σ} {d : Delegate σ}
  {bucket : Option String}

/-- The delegate that a resolver asks: that of the dynamic strategy that it was given, or if it has
none and its settings select that strategy, the delegate that it was given or the one that it has to
load. -/
inductive Asks (host : Host σ) (r : Resolver σ) (s : Session σ) : Delegate σ → Prop where
  | given {d : Delegate σ} {bucket : Option String} (hst : r.strategy = some (.dynamic d bucket)) :
      Asks host r s d
  | supplied {d : Delegate σ} (hst : r.strategy = none)
      (hselector : Selector.ofSettings? r.settings = some .dynamic) (hd : r.delegate = some d) :
      Asks host r s d
  | loaded (hst : r.strategy = none)
      (hselector : Selector.ofSettings? r.settings = some .dynamic) (hd : r.delegate = none) :
      Asks host r s (Delegate.load host.importer r.settings (s.record .selected)).1

theorem Asks.getStrategy (h : r.Asks host s d) :
    ∃ bucket s₁, r.getStrategy host s = (.ok (.dynamic d bucket), s₁) := by
  cases h with
  | @given d bucket hst => exact ⟨bucket, s, by simp only [Resolver.getStrategy, hst]⟩
  | supplied hst hselector hd =>
      refine ⟨r.settings.bucketName, s.record .selected, ?_⟩
      simp only [Resolver.getStrategy, hst, Strategy.select, hselector, hd]
  | loaded hst hselector hd =>
      refine ⟨r.settings.bucketName,
        (Delegate.load host.importer r.settings (s.record .selected)).2, ?_⟩
      simp only [Resolver.getStrategy, hst, Strategy.select, hselector, hd]

theorem Asks.forget (h : r.Asks host s d) : r.forget.Asks host s d := by
  cases h with
  | given hst => exact .given hst
  | supplied hst hselector hd => exact .supplied hst hselector hd
  | loaded hst hselector hd => exact .loaded (r := r.forget) hst hselector hd

theorem location_of_refusal (hf : r.failure = none) (hl : r.resolved = none)
    (h : r.Asks host s d) (hd : d.refusal? = some g) :
    (r.location host s).result = .error (Strategy.delegateFailure r.identifier.value g) := by
  obtain ⟨bucket, s₁, hget⟩ := h.getStrategy
  have hresolve :=
    Strategy.resolve_of_refusal hd bucket r.identifier r.context (s₁.record .consulted)
  rw [location_of_unresolved hf hl]
  rcases hx : (Strategy.dynamic d bucket).resolve r.identifier r.context (s₁.record .consulted) with
    ⟨e | l, s₂⟩ <;> rw [hx] at hresolve <;> cases hresolve
  simp only [resolve, hget, hx]
  rfl

/-- A resolver that is new and asks a stand-in refuses every question, keeps the failure and does
not come to storage. -/
theorem ask_refused (hf : r.failure = none) (hl : r.resolved = none) (hr : r.recognised = none)
    (h : r.Asks host s d) (hd : d.refusal? = some g) (q : Question) :
    let failure := Strategy.delegateFailure r.identifier.value g
    (r.ask host q s).result = .error failure ∧ (r.ask host q s).self.failure = some failure ∧
      (r.ask host q s).self.recognised = none ∧ r.sought? host q s = none := by
  intro failure
  have hlocation := location_of_refusal hf hl h hd
  have hsought : r.sought? host q s = none := by
    rcases hs : r.sought? host q s with _ | ⟨l, t⟩
    · rfl
    · rw [(sought?_eq_some.1 hs).2.1] at hlocation
      cases hlocation
  by_cases hq : q = .location
  · subst hq
    refine ⟨?_, ?_, ?_, hsought⟩
    · simp only [ask, Step.result_map, hlocation]
      rfl
    · simp only [ask, Step.self_map, failure_location, hlocation]
      rfl
    · simp only [ask, Step.self_map, recognised_location, hr]
  · have hw : r.wantsObject q = true := by
      cases q <;> simp_all [wantsObject]
    have hfetch : (r.fetch host s).result = .error failure := by
      rw [fetch_of_unlocated hlocation]
    obtain ⟨hresult, hfailure⟩ := ask_of_fetch_error hw hfetch
    refine ⟨hresult, hfailure, ?_, hsought⟩
    rcases hrec : (r.ask host q s).self.recognised with _ | fmt
    · rfl
    · rw [(recognised_ask_iff hr q s fmt).1 hrec] at hresult
      cases hresult

/-- A resolver that has failed, and has no format in memory, does nothing but fail. -/
theorem refused_of_failure (hf : r.failure = some f) (hr : r.recognised = none) {ts : List (Turn σ)}
    {x : Exchange σ} (hx : x ∈ r.transcript host s ts) : x.IsRefused f := by
  have hask (r : Resolver σ) (q : Question) (s : Session σ)
      (h : r.failure = some f ∧ r.recognised = none) : r.ask host q s = ⟨.error f, r, s⟩ := by
    rcases ask_of_failure host h.1 q s with h' | ⟨_, fmt, hfmt, _⟩
    · exact h'
    · rw [h.2] at hfmt
      cases hfmt
  have hkept : x.resolver.failure = some f ∧ x.resolver.recognised = none := by
    refine resolver_of_mem_transcript (P := fun r ↦ r.failure = some f ∧ r.recognised = none) ?_
      ⟨hf, hr⟩ hx
    intro r q s h
    rw [hask r q s h]
    exact h
  have hstep := step_of_mem_transcript hx
  rw [hask _ _ _ hkept] at hstep
  exact ⟨by rw [hstep], by rw [hstep], by rw [hstep], by rw [hstep]⟩

/-- Every exchange of a resolver that asks a stand-in is refused, and all in the same way. -/
theorem refused_of_standIn {t : Turn σ} {ts : List (Turn σ)} {x : Exchange σ}
    (h : r.Asks host (t.meanwhile s) d) (hd : d.refusal? = some g)
    (hx : x ∈ r.forget.transcript host s (t :: ts)) :
    x.IsRefused (Strategy.delegateFailure r.identifier.value g) := by
  obtain ⟨hresult, hfailure, hrecognised, hsought⟩ :=
    ask_refused (r := r.forget) rfl rfl rfl h.forget hd t.question
  rcases List.mem_cons.1 hx with rfl | hx
  · obtain ⟨hclient, hbuilt, hrequests⟩ := idle_of_sought?_eq_none hsought
    exact ⟨hresult, hrequests, hbuilt, hclient⟩
  · exact refused_of_failure hfailure hrecognised hx

end Resolver

/-! ## Loading from settings -/

namespace Delegate

variable {importer : Importer σ} {settings : Settings} {s : Session σ} {target : String}

/-- A target that settings accept can be cut. -/
theorem exists_isCut_of_wanted (h : settings.problem? = none)
    (hw : wanted? settings = some target) : ∃ module names, IsCut target module names := by
  obtain ⟨-, htarget, hne⟩ := wanted?_eq_some.1 hw
  exact exists_isCut (Settings.isTarget_of_problem? h (given?_eq_some.2 ⟨htarget, hne⟩))

theorem load_eq_disabled_iff (h : settings.problem? = none) :
    (load importer settings s).1 = .disabled ↔ wanted? settings = none := by
  rcases hw : wanted? settings with _ | target
  · simp only [load_of_unwanted hw]
  · refine iff_of_false ?_ nofun
    obtain ⟨module, names, hcut⟩ := exists_isCut_of_wanted h hw
    intro hd
    cases (comesTo_iff hcut hw).2 hd

end Delegate

/-- Loading a delegate ends with a delegate or a stand-in, whatever goes wrong. With settings that
are accepted, it is the stand-in for disabled delegates if and only if they are switched off or
there is no target; nothing is imported then. Otherwise the module in front of the only colon is
imported once, and the names behind it are followed from left to right: that comes to the last
member if it is reached and can be called, and else to the stand-in for the first failure. What is
wrong with a package is met before what is wrong with a module in it.

Each call of a stand-in fails with the failure that it stands for, and so does each question to a
resolver that asks it: always in the same way, and without turning to storage. A resolver that
selects the direct strategy loads nothing, and goes the same way as one without a delegate. -/
theorem failed_load_deferred :
    (∀ (importer : Importer σ) (settings : Settings) (s : Session σ), settings.problem? = none →
      ((Delegate.load importer settings s).1 = .disabled ↔ settings.delegateEnabled = false ∨
        settings.delegateTarget = none ∨ settings.delegateTarget = some "") ∧
      ((Delegate.load importer settings s).1 = .disabled →
        (Delegate.load importer settings s).2 = s.log .debug .delegate "Delegate disabled") ∧
      ∀ target, settings.delegateEnabled = true → settings.delegateTarget = some target →
        target ≠ "" → ∃ module names, Delegate.IsCut target module names ∧
          (∀ d, Delegate.ComesTo importer target module names s.outside d ↔
            (Delegate.load importer settings s).1 = d) ∧
          Delegate.ImportsOnce importer target module s
            (Delegate.load importer settings s).2) ∧
    (∀ (c : Scripted.Catalogue) name stage, ∃ x, c.Meets name x ∧ (∀ y, c.Meets name y → y = x) ∧
      ∃ imported, (c.importModule name stage).1 = x.map fun m ↦
        Scripted.moduleMember m.name (m.members ++ c.submodules m imported)) ∧
    (∀ identifier context (s : Session σ),
      Delegate.disabled.call identifier context s = (.error ⟨Delegate.disabledFault, []⟩, s) ∧
      ∀ target e, (Delegate.unloadable target e).call identifier context s =
        (.error ⟨.other "DelegateLoadError" ("Cannot load delegate " ++ target ++ ": " ++ e.text),
          e.chain⟩, s)) ∧
    (∀ (host : Host σ) (r : Resolver σ) s (t : Turn σ) ts d g, r.Asks host (t.meanwhile s) d →
      d.refusal? = some g → ∃ f, f.kind? = some .externalSubsystem ∧ f.causes = g.chain ∧
        ∀ x ∈ r.forget.transcript host s (t :: ts), x.IsRefused f) ∧
    ∀ (host : Host σ) importer (r : Resolver σ) s ts, r.SelectsDirect →
      (r.withoutDelegate.transcript { host with importer } s ts).map Exchange.shown =
        (r.transcript host s ts).map Exchange.shown ∧
      (r.strategy = none →
        r.getStrategy host s = (.ok (.direct r.settings.bucketName), s.record .selected)) := by
  refine ⟨?_, ?_, ?_, ?_, ?_⟩
  · intro importer settings s h
    refine ⟨?_, ?_, ?_⟩
    · rw [Delegate.load_eq_disabled_iff h, Delegate.wanted?_eq_none]
    · intro hd
      rw [Delegate.load_of_unwanted ((Delegate.load_eq_disabled_iff h).1 hd)]
    · intro target henabled htarget hne
      have hw := Delegate.wanted?_eq_some.2 ⟨henabled, htarget, hne⟩
      obtain ⟨module, names, hcut⟩ := Delegate.exists_isCut_of_wanted h hw
      exact ⟨module, names, hcut, fun d ↦ Delegate.comesTo_iff hcut hw,
        Delegate.importsOnce_load hcut hw⟩
  · intro c name stage
    obtain ⟨x, hx⟩ := c.exists_meets name
    exact ⟨x, hx, fun y hy ↦ hy.unique hx, Scripted.Catalogue.importModule_of_meets hx stage⟩
  · intro identifier context s
    exact ⟨rfl, fun target e ↦ rfl⟩
  · intro host r s t ts d g h hd
    exact ⟨_, rfl, rfl, fun x hx ↦ Resolver.refused_of_standIn h hd hx⟩
  · intro host importer r s ts h
    exact ⟨Resolver.transcript_withoutDelegate importer h host s ts,
      fun hst ↦ Resolver.getStrategy_of_selectsDirect h hst host s⟩

/-- A zoo with a keeper who can be asked, a sign that cannot, and a den that does not open. -/
def menagerie : Scripted.Catalogue :=
  [{  name := "zoo"
      isPackage := true
      members := [("sign", Scripted.plain "str"),
        ("Keeper", Scripted.classMember "Keeper"
          [("find", Scripted.function fun identifier _ ↦ .ok (.text identifier))])] },
    {  name := "zoo.den"
       isPackage := true
       failure := some ⟨.other "RuntimeError" "asleep", []⟩ }]

/-- Settings that ask for a delegate of the zoo. -/
def visiting (target : String) : Settings where
  lookupStrategy := some "Dynamic"
  bucketName := some "images"
  delegateEnabled := true
  delegateTarget := some target

/-- The keeper is found. The den fails before the cave in it is missed, a name that the keeper does
not have fails before the one behind it, and the sign cannot be called. Whoever goes to the den is
refused twice in the same way. -/
theorem failed_load_deferred_menagerie :
    let host : Host Scripted.Stage := { Scripted.host with importer := menagerie.importModule }
    let s : Session Scripted.Stage := { outside := {} }
    let load target := (Delegate.load host.importer (visiting target) s).1
    let asleep : Failure := ⟨.other "RuntimeError" "asleep", []⟩
    let r : Resolver Scripted.Stage :=
      { identifier := ⟨"a.gif"⟩, settings := visiting "zoo.den.cave:find" }
    (∃ run, load "zoo:Keeper.find" = .callable (.loaded "zoo:Keeper.find") run) ∧
      load "zoo.den.cave:find" = .unloadable "zoo.den.cave:find" asleep ∧
      load "zoo:Keeper.hide.away" = .unloadable "zoo:Keeper.hide.away"
        ⟨.other "AttributeError" "type object 'Keeper' has no attribute 'hide'", []⟩ ∧
      load "zoo:sign" = .unloadable "zoo:sign"
        ⟨.other "TypeError" "zoo:sign is not callable", []⟩ ∧
      ∃ f, f.kind? = some .externalSubsystem ∧
        ∀ x ∈ r.forget.transcript host s [⟨.checkAccess, id⟩, ⟨.resolveFormat, id⟩],
          x.IsRefused f := by
  intro host s load asleep r
  obtain ⟨hload, -, -, hrefused, -⟩ := failed_load_deferred (σ := Scripted.Stage)
  have hcomes {target : String} {d : Delegate Scripted.Stage}
      (h : (visiting target).problem? = none) (hne : target ≠ "")
      (hd : Delegate.ComesTo host.importer target (Delegate.targetModule target)
        (Delegate.targetPath target) s.outside d) : load target = d := by
    obtain ⟨module, names, hcut, hiff, -⟩ := (hload host.importer _ s h).2.2 target rfl rfl hne
    rw [hcut.targetModule_eq, hcut.targetPath_eq] at hd
    exact (hiff d).1 hd
  have hden : load "zoo.den.cave:find" = .unloadable "zoo.den.cave:find" asleep :=
    hcomes (by decide +kernel) (by decide) (.unimported rfl)
  refine ⟨?_, hden, ?_, ?_, ?_⟩
  · exact ⟨_, hcomes (by decide +kernel) (by decide)
      (.loaded rfl (Member.follow_eq_ok.1 rfl) rfl)⟩
  · exact hcomes (by decide +kernel) (by decide) (.unreached rfl (Member.follow_eq_error.1 rfl))
  · exact hcomes (by decide +kernel) (by decide) (.uncallable rfl (Member.follow_eq_ok.1 rfl) rfl)
  · have hasks : r.Asks host s (Delegate.load host.importer r.settings (s.record .selected)).1 :=
      .loaded rfl (by decide +kernel) rfl
    obtain ⟨f, hkind, -, hall⟩ :=
      hrefused host r s ⟨.checkAccess, id⟩ [⟨.resolveFormat, id⟩] _ _ hasks rfl
    exact ⟨f, hkind, hall⟩

end ObjectLookup
