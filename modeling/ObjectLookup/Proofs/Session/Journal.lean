import ObjectLookup.S3.Client
import ObjectLookup.Strategy

/-! # What a stretch of the journal amounts to

The journal of a session only ever grows. What is added to it is summed up in three figures
(`Amounts`): the errands of a lookup, in their order, the locations that a client was asked for,
each of them announced by a line of the level INFO, and the number of times that the factory was
run. `Session.Extends` says that one session comes from another by adding such a stretch. It
composes along the steps of a program, and each step of a lookup has its own lemma, with the errands
that it may be out on.
-/

namespace ObjectLookup

/-- What a resolver goes outside for when it looks up a location. -/
inductive Errand where
  /-- A strategy is selected. -/
  | select
  /-- A delegate is loaded, or a stand-in is made for it. -/
  | load
  /-- A strategy is asked for the location. -/
  | consult
  /-- A delegate is called. -/
  | call (identifier : String) (context : Context)

/-- The line that announces a request. -/
def announcement (l : Location) : LogRecord :=
  ⟨.info, .resolver, "Requesting " ++ l.key ++ " from bucket " ++ l.bucket⟩

namespace Event

/-- The errand that an event tells of. That a stand-in is made for a disabled delegate shows only in
the log. -/
def errand? : Event → Option Errand
  | .selected => some .select
  | .imported _ => some .load
  | .logged r => if r = ⟨.debug, .delegate, "Delegate disabled"⟩ then some .load else none
  | .consulted => some .consult
  | .called _ identifier context => some (.call identifier context)
  | .built | .requested _ => none

/-- A line of the level INFO. -/
def information? : Event → Option LogRecord
  | .logged r => if r.level = .info then some r else none
  | _ => none

end Event

/-- The errands are on the course and in its order, the requests are the given ones, with one
announcement for each and no other line of the level INFO, and the factory was run so often. -/
structure Amounts (events : List Event) (course : List Errand) (locations : List Location)
    (runs : Nat) : Prop where
  errands : (events.filterMap Event.errand?).Sublist course
  requests : events.filterMap Event.location? = locations
  information : events.filterMap Event.information? = locations.map announcement
  builds : events.countP Event.isBuilt = runs

namespace Amounts

variable {es es' : List Event} {course course' : List Errand} {ls ls' : List Location}
  {n n' : Nat}

theorem nil : Amounts [] [] [] 0 := ⟨.slnil, rfl, rfl, rfl⟩

theorem append (h : Amounts es course ls n) (h' : Amounts es' course' ls' n') :
    Amounts (es ++ es') (course ++ course') (ls ++ ls') (n + n') where
  errands := by
    rw [List.filterMap_append]
    exact h.errands.append h'.errands
  requests := by rw [List.filterMap_append, h.requests, h'.requests]
  information := by
    rw [List.filterMap_append, h.information, h'.information, List.map_append]
  builds := by rw [List.countP_append, h.builds, h'.builds]

/-- A course may have more errands than were gone on. -/
theorem of_sublist (h : Amounts es course ls n) (hc : course.Sublist course') :
    Amounts es course' ls n := ⟨h.errands.trans hc, h.requests, h.information, h.builds⟩

/-- An event that tells of an errand tells of nothing else. -/
theorem of_errand {e : Event} {d : Errand} (h : e.errand? = some d) :
    Amounts [e] [d] [] 0 := by
  have herrands : ([e].filterMap Event.errand?).Sublist [d] := by simp [h]
  cases e with
  | logged r =>
      by_cases hr : r = ⟨.debug, .delegate, "Delegate disabled"⟩
      · subst hr
        exact ⟨herrands, rfl, rfl, rfl⟩
      · simp [Event.errand?, hr] at h
  | selected | consulted | imported | called => exact ⟨herrands, rfl, rfl, rfl⟩
  | built | requested => cases h

theorem built : Amounts [.built] [] [] 1 := ⟨.slnil, rfl, rfl, rfl⟩

/-- A line of the log tells of nothing, unless it is of the level INFO or of a stand-in. -/
theorem log {r : LogRecord} (hl : r.level ≠ .info)
    (hr : r ≠ ⟨.debug, .delegate, "Delegate disabled"⟩) : Amounts [.logged r] [] [] 0 where
  errands := by simp [Event.errand?, hr]
  requests := rfl
  information := by simp [Event.information?, hl]
  builds := rfl

/-- Lines of a service at the level DEBUG tell of nothing. -/
theorem notes {rs : List LogRecord} (h : ∀ r ∈ rs, r.level = .debug ∧ r.component = .service) :
    Amounts (rs.map .logged) [] [] 0 := by
  induction rs with
  | nil => exact nil
  | cons r rs ih =>
      obtain ⟨hl, hc⟩ := h r List.mem_cons_self
      have hr : Amounts [.logged r] [] [] 0 := by
        refine log (by simp [hl]) ?_
        rintro rfl
        cases hc
      exact hr.append (ih fun r hr ↦ h r (List.mem_cons_of_mem _ hr))

end Amounts

/-- The factory writes nothing to the log but lines of the service at the level DEBUG. -/
def Factory.IsQuiet {σ : Type} (f : Factory σ) : Prop :=
  ∀ r ∈ f.notes, r.level = .debug ∧ r.component = .service

theorem S3.isQuiet_factory {σ : Type} (connect : Options → Act σ (Connection σ))
    (settings : Settings) : (factory connect settings).IsQuiet := by
  intro r hr
  change r ∈ notes settings at hr
  have hnote : ∃ m, r = note m := by
    rcases hu : given? settings.endpointUrl with _ | url <;> simp only [notes, hu] at hr
    · exact ⟨_, List.mem_singleton.1 hr⟩
    · rcases List.mem_cons.1 hr with rfl | hr
      · exact ⟨_, rfl⟩
      · exact ⟨_, List.mem_singleton.1 hr⟩
  obtain ⟨m, rfl⟩ := hnote
  exact ⟨rfl, rfl⟩

namespace Session

variable {σ α : Type} {s t u : Session σ} {course course' : List Errand}
  {ls ls' : List Location} {n n' : Nat}

@[simp] theorem events_log (l : Level) (c : Component) (m : String) (s : Session σ) :
    (s.log l c m).events = s.events ++ [.logged ⟨l, c, m⟩] := events_record _ s

/-- The session `t` comes from `s` by adding to the journal what amounts to the given figures. -/
def Extends (s t : Session σ) (course : List Errand) (locations : List Location) (runs : Nat) :
    Prop :=
  ∃ es, t.events = s.events ++ es ∧ Amounts es course locations runs

namespace Extends

theorem refl (s : Session σ) : s.Extends s [] [] 0 := ⟨[], by simp, .nil⟩

theorem trans (h : s.Extends t course ls n) (h' : t.Extends u course' ls' n') :
    s.Extends u (course ++ course') (ls ++ ls') (n + n') := by
  obtain ⟨es, ht, hes⟩ := h
  obtain ⟨es', hu, hes'⟩ := h'
  exact ⟨es ++ es', by rw [hu, ht, List.append_assoc], hes.append hes'⟩

theorem of_sublist (h : s.Extends t course ls n) (hc : course.Sublist course') :
    s.Extends t course' ls n := h.imp fun _ ⟨ht, hes⟩ ↦ ⟨ht, hes.of_sublist hc⟩

theorem record {e : Event} (h : s.Extends t course ls n) (he : Amounts [e] course' ls' n') :
    s.Extends (t.record e) (course ++ course') (ls ++ ls') (n + n') :=
  h.trans ⟨[e], events_record e t, he⟩

/-- A line of the log adds nothing to the figures, unless it is of the level INFO or of a
stand-in. -/
theorem log {l : Level} {c : Component} {m : String} (h : s.Extends t course ls n)
    (hl : l ≠ .info) (hr : (⟨l, c, m⟩ : LogRecord) ≠ ⟨.debug, .delegate, "Delegate disabled"⟩) :
    s.Extends (t.log l c m) course ls n := by
  simpa [Session.log] using h.record (e := .logged ⟨l, c, m⟩) (.log hl hr)

/-- An action on the outside adds nothing to the journal. -/
theorem perform {a : Act σ α} (h : s.Extends t course ls n) :
    s.Extends (t.perform a).2 course ls n := h

end Extends

/-! ## The errands of a lookup -/

theorem extends_load (importer : Importer σ) (settings : Settings) (s : Session σ) :
    s.Extends (Delegate.load importer settings s).2 [.load] [] 0 := by
  rcases hw : Delegate.wanted? settings with _ | target
  · simp only [Delegate.load, hw]
    exact (Extends.refl s).record (.of_errand rfl)
  · have himported : s.Extends (Delegate.find importer target s).2 [.load] [] 0 := by
      have h : s.Extends (s.record (.imported target)) [.load] [] 0 :=
        (Extends.refl s).record (.of_errand rfl)
      rcases hm : (s.record (.imported target)).perform
        (importer (Delegate.targetModule target)) with ⟨e | m, s₁⟩ <;>
      · have h₁ := h.perform (a := importer (Delegate.targetModule target))
        rw [hm] at h₁
        simp only [Delegate.find, hm]
        exact h₁
    rcases hf : Delegate.find importer target s with ⟨e | m, s₁⟩ <;> rw [hf] at himported
    · simp only [Delegate.load, hw, hf]
      exact himported.log nofun (by simp)
    · rcases hc : m.call? with _ | run <;> simp only [Delegate.load, hw, hf, hc]
      · exact himported
      · refine himported.log nofun ?_
        intro h
        have hm : ("Loaded delegate " ++ target).toList = "Delegate disabled".toList := by
          rw [(LogRecord.mk.inj h).2.2]
        simp at hm

theorem extends_select (importer : Importer σ) (settings : Settings)
    (delegate : Option (Delegate σ)) (s : Session σ) :
    s.Extends (Strategy.select importer settings delegate s).2 [.select, .load] [] 0 := by
  have h : s.Extends (s.record .selected) [.select] [] 0 :=
    (Extends.refl s).record (.of_errand rfl)
  have hcourse : [Errand.select].Sublist [Errand.select, .load] :=
    List.sublist_append_left [Errand.select] [.load]
  rcases hs : Selector.ofSettings? settings with _ | _ | _
  · simp only [Strategy.select, hs]
    exact h.of_sublist hcourse
  · simp only [Strategy.select, hs]
    exact h.of_sublist hcourse
  · rcases delegate with _ | d
    · simp only [Strategy.select, hs]
      exact h.trans (extends_load importer settings _)
    · simp only [Strategy.select, hs]
      exact h.of_sublist hcourse

theorem extends_call (d : Delegate σ) (identifier : String) (context : Context) (s : Session σ) :
    s.Extends (d.call identifier context s).2 [.call identifier context] [] 0 := by
  cases d with
  | disabled => exact (Extends.refl s).of_sublist (List.nil_sublist _)
  | unloadable target cause => exact (Extends.refl s).of_sublist (List.nil_sublist _)
  | callable origin run => exact ((Extends.refl s).record (.of_errand rfl)).perform

theorem extends_read (v : Value) (identifier : String) (s : Session σ) :
    s.Extends (Answer.read v identifier s).2 [] [] 0 := by
  rcases h : Answer.ofValue v with p | a <;> simp only [Answer.read, h]
  · cases p with
    | unusable mapping => exact (Extends.refl s).log nofun (by simp)
    | emptyKey | unsupported | overlong => exact .refl s
  · exact .refl s

theorem extends_ask (d : Delegate σ) (identifier : String) (context : Context) (s : Session σ) :
    s.Extends (Strategy.ask d identifier context s).2 [.call identifier context] [] 0 := by
  let note := "Invoking " ++ getObjectKey ++ " for " ++ identifier
  have hnote : s.Extends (s.log .debug .strategies note) [] [] 0 :=
    (Extends.refl s).log nofun (by simp)
  have hcall := hnote.trans (extends_call d identifier context _)
  rcases hx : d.call identifier context (s.log .debug .strategies note) with ⟨e | v, s₁⟩ <;>
    rw [hx] at hcall <;> simp only [Strategy.ask, note, hx]
  · exact hcall.log nofun (by simp)
  · exact hcall.trans (extends_read v identifier s₁)

theorem extends_resolve (st : Strategy σ) (identifier : Identifier) (context : Context)
    (s : Session σ) :
    s.Extends (st.resolve identifier context s).2 [.call identifier.value context] [] 0 := by
  cases st with
  | direct bucket => exact (Extends.refl s).of_sublist (List.nil_sublist _)
  | dynamic d bucket => exact extends_ask d identifier.value context s
  | custom resolve => exact (Extends.refl s).perform.of_sublist (List.nil_sublist _)

/-! ## Running the factory -/

theorem events_notes (rs : List LogRecord) (s : Session σ) :
    (rs.foldl (fun s r ↦ s.record (.logged r)) s).events = s.events ++ rs.map .logged := by
  induction rs generalizing s with
  | nil => simp
  | cons r rs ih => simp [ih]

@[simp] theorem client_notes (rs : List LogRecord) (s : Session σ) :
    (rs.foldl (fun s r ↦ s.record (.logged r)) s).client = s.client := by
  induction rs generalizing s with
  | nil => rfl
  | cons r rs ih => simp [ih]

/-- The session in which the factory is run. -/
def beforeBuild (factory : Factory σ) (s : Session σ) : Session σ :=
  factory.notes.foldl (fun s r ↦ s.record (.logged r))
    ((s.log .debug .sharedClient "Constructing shared storage client").record .built)

theorem extends_beforeBuild {factory : Factory σ} (hf : factory.IsQuiet) (s : Session σ) :
    s.Extends (s.beforeBuild factory) [] [] 1 := by
  have hlog : s.Extends (s.log .debug .sharedClient "Constructing shared storage client")
      [] [] 0 := (Extends.refl s).log nofun (by simp)
  exact (hlog.record .built).trans ⟨_, events_notes _ _, .notes hf⟩

/-- Getting the client adds no more than a run of the factory to the journal. If it fails, there was
such a run and there is no client; else there is one. -/
theorem extends_getClient {factory : Factory σ} (hf : factory.IsQuiet) (s : Session σ) :
    (∃ e, (s.getClient factory).1 = .error e ∧ (s.getClient factory).2.client = none ∧
      s.Extends (s.getClient factory).2 [] [] 1) ∨
    (∃ c n, (s.getClient factory).1 = .ok c ∧ (s.getClient factory).2.client = some c ∧
      s.Extends (s.getClient factory).2 [] [] n) := by
  rcases hc : s.client with _ | c
  · have hbefore := (extends_beforeBuild hf s).perform (a := factory.run)
    have hclient : ((s.beforeBuild factory).perform factory.run).2.client = none := by
      simpa [beforeBuild] using hc
    rw [getClient_of_none hc]
    rcases hr : (s.beforeBuild factory).perform factory.run with ⟨e | c, s₁⟩ <;>
      rw [hr] at hbefore hclient <;> rw [beforeBuild] at hr <;> simp only [buildClient, hr]
    · exact .inl ⟨e, rfl, hclient, hbefore⟩
    · exact .inr ⟨c, 1, rfl, rfl, hbefore⟩
  · rw [getClient_of_some hc]
    exact .inr ⟨c, 0, rfl, hc, .refl s⟩

end Session

end ObjectLookup
