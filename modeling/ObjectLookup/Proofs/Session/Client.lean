import ObjectLookup.Proofs.Session.Journal

/-! # The client of a session

The client of a session is built when it is gotten for the first time, and by nothing else: whatever
a strategy and its delegate do, the client stays as it was. Getting it gives the one that is there,
or runs the factory once and ends as that run does (`getClient_cases`).
-/

namespace ObjectLookup

variable {σ : Type}

/-! ## Strategies build no client -/

theorem Delegate.client_load (importer : Importer σ) (settings : Settings) (s : Session σ) :
    (load importer settings s).2.client = s.client := by
  rcases hw : wanted? settings with _ | target
  · simp only [load, hw, Session.client_log]
  · rcases hm : (s.record (.imported target)).perform (importer (targetModule target)) with
      ⟨e | m, s₁⟩
    · have hs : s₁.client = s.client := congrArg (·.2.client) hm.symm
      simp only [load, hw, find, hm, Session.client_log, hs]
    · have hs : s₁.client = s.client := congrArg (·.2.client) hm.symm
      simp only [load, hw, find, hm]
      rcases m.follow (targetPath target) with e | n
      · exact hs
      · rcases hc : n.call? with _ | run <;> simp only [hc, Session.client_log, hs]

theorem Delegate.client_call (d : Delegate σ) (identifier : String) (context : Context)
    (s : Session σ) : (d.call identifier context s).2.client = s.client := by
  cases d <;> rfl

theorem Answer.client_read (v : Value) (identifier : String) (s : Session σ) :
    (read v identifier s).2.client = s.client := by
  rcases h : ofValue v with p | a <;> simp only [read, h]
  cases p <;> rfl

namespace Strategy

theorem client_ask (d : Delegate σ) (identifier : String) (context : Context) (s : Session σ) :
    (ask d identifier context s).2.client = s.client := by
  let note := "Invoking " ++ getObjectKey ++ " for " ++ identifier
  have hs := d.client_call identifier context (s.log .debug .strategies note)
  rcases hc : d.call identifier context (s.log .debug .strategies note) with ⟨e | v, s₁⟩ <;>
    rw [hc] at hs <;> simp only [ask, note, hc]
  · exact hs
  · exact (Answer.client_read v identifier s₁).trans hs

theorem client_resolve (st : Strategy σ) (identifier : Identifier) (context : Context)
    (s : Session σ) : (st.resolve identifier context s).2.client = s.client := by
  cases st with
  | direct bucket => rfl
  | dynamic d bucket => exact client_ask d identifier.value context s
  | custom resolve => rfl

theorem client_select (importer : Importer σ) (settings : Settings)
    (delegate : Option (Delegate σ)) (s : Session σ) :
    (select importer settings delegate s).2.client = s.client := by
  rcases hs : Selector.ofSettings? settings with _ | _ | _ <;> simp only [select, hs]
  · rfl
  · rfl
  · rcases delegate with _ | d
    · exact Delegate.client_load importer settings _
    · rfl

end Strategy

/-! ## Getting the client -/

namespace Session

variable {s t : Session σ} {course : List Errand} {ls : List Location} {n : Nat}

theorem Extends.built (h : s.Extends t course ls n) : t.built = s.built + n := by
  obtain ⟨es, ht, hes⟩ := h
  have hbuilt (u : Session σ) : u.built = u.events.countP Event.isBuilt :=
    (List.countP_reverse ..).symm
  rw [hbuilt, hbuilt, ht, List.countP_append, hes.builds]

theorem Extends.requests_eq (h : s.Extends t course ls n) : t.requests = s.requests ++ ls := by
  obtain ⟨es, ht, hes⟩ := h
  rw [requests, ht, List.filterMap_append, hes.requests, requests]

theorem built_beforeBuild (factory : Factory σ) (s : Session σ) :
    (s.beforeBuild factory).built = s.built + 1 := by
  have hnotes (rs : List LogRecord) (u : Session σ) :
      (rs.foldl (fun s r ↦ s.record (.logged r)) u).built = u.built := by
    induction rs generalizing u with
    | nil => rfl
    | cons r rs ih => exact (ih _).trans (List.countP_cons_of_neg (by simp [Event.isBuilt]))
  rw [beforeBuild, hnotes]
  exact List.countP_cons_of_pos rfl

theorem outside_beforeBuild (factory : Factory σ) (s : Session σ) :
    (s.beforeBuild factory).outside = s.outside := by
  have hnotes (rs : List LogRecord) (u : Session σ) :
      (rs.foldl (fun s r ↦ s.record (.logged r)) u).outside = u.outside := by
    induction rs generalizing u with
    | nil => rfl
    | cons r rs ih => exact ih _
  exact hnotes factory.notes _

theorem buildClient_eq (factory : Factory σ) (s : Session σ) :
    s.buildClient factory = match (s.beforeBuild factory).perform factory.run with
      | (.ok c, s) => (.ok c, { s with client := some c })
      | (.error e, s) => (.error e, s) := rfl

/-- Getting the client gives the one that is there, or runs the factory once and ends as that run
does. What a failed run leaves outside stays. -/
theorem getClient_cases (factory : Factory σ) (s : Session σ) :
    (∃ c, s.client = some c ∧ s.getClient factory = (.ok c, s)) ∨
    (s.client = none ∧ ∃ x t, (factory.run s.outside).1 = x ∧ s.getClient factory = (x, t) ∧
      t.client = x.toOption ∧ t.outside = (factory.run s.outside).2 ∧ t.built = s.built + 1) := by
  rcases hc : s.client with _ | c
  · refine .inr ⟨rfl, ?_⟩
    have hbuilt := built_beforeBuild factory s
    have hclient : (s.beforeBuild factory).client = none := by simpa [beforeBuild] using hc
    rw [getClient_of_none hc, ← outside_beforeBuild factory s]
    rcases hr : factory.run (s.beforeBuild factory).outside with ⟨e | c, o⟩
    · refine ⟨.error e, { s.beforeBuild factory with outside := o }, rfl, ?_, hclient, rfl, hbuilt⟩
      simp only [buildClient_eq, perform, hr]
    · refine ⟨.ok c, { s.beforeBuild factory with outside := o, client := some c }, rfl, ?_, rfl,
        rfl, hbuilt⟩
      simp only [buildClient_eq, perform, hr]
  · exact .inl ⟨c, rfl, getClient_of_some hc⟩

end Session

end ObjectLookup
