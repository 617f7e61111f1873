import ObjectLookup.Resolver

/-! # Programs that do not read the journal

A program writes to the journal of its session and never reads it. So it does the same in two
sessions whose journals say the same, and it leaves two such sessions behind. Journals count as the
same here if they differ in nothing but in where they mark the selection of a strategy
(`Session.Matches`): the lines of the log, the requests and the calls of delegates are the same, and
in the same order.

Each program of a lookup and of a fetch is `IsBlind` in this sense.
-/

namespace ObjectLookup

variable {σ α β : Type}

/-- The event marks that a strategy was selected. -/
def Event.isSelected : Event → Bool
  | .selected => true
  | _ => false

namespace Session

/-- The journal without the marks of selection. -/
def unmarked (s : Session σ) : List Event := s.journal.filter (!·.isSelected)

/-- The sessions differ in nothing but in where their journals mark the selection of a strategy. -/
structure Matches (s t : Session σ) : Prop where
  outside : s.outside = t.outside
  client : s.client = t.client
  unmarked : s.unmarked = t.unmarked

namespace Matches

variable {s t : Session σ}

theorem refl (s : Session σ) : s.Matches s := ⟨rfl, rfl, rfl⟩

theorem symm (h : s.Matches t) : t.Matches s :=
  ⟨h.outside.symm, h.client.symm, h.unmarked.symm⟩

theorem record (h : s.Matches t) (e : Event) : (s.record e).Matches (t.record e) where
  outside := h.outside
  client := h.client
  unmarked := by
    have hrest : s.journal.filter (!·.isSelected) = t.journal.filter (!·.isSelected) := h.unmarked
    simp only [Session.unmarked, Session.record, List.filter_cons, hrest]

theorem log (h : s.Matches t) (l : Level) (c : Component) (m : String) :
    (s.log l c m).Matches (t.log l c m) := h.record _

/-- A mark of selection makes no difference. -/
theorem selected (h : s.Matches t) : s.Matches (t.record .selected) :=
  ⟨h.outside, h.client, h.unmarked⟩

/-- The log of the two sessions is the same. -/
theorem logs_eq (h : s.Matches t) : s.logs = t.logs := by
  have hlogs (u : Session σ) : u.logs = (u.unmarked.filterMap Event.record?).reverse := by
    rw [logs, events, List.filterMap_reverse, Session.unmarked, List.filterMap_filter]
    congr 2
    funext e
    cases e <;> rfl
  rw [hlogs, hlogs, h.unmarked]

end Matches

end Session

/-- In matching sessions the program comes to the same, and leaves matching sessions behind. -/
def IsBlind (p : Session σ → α × Session σ) : Prop :=
  ∀ s t, s.Matches t → ∃ x s' t', p s = (x, s') ∧ p t = (x, t') ∧ s'.Matches t'

namespace IsBlind

theorem pure (x : α) : IsBlind fun s : Session σ ↦ (x, s) := fun s t h ↦ ⟨x, s, t, rfl, rfl, h⟩

theorem perform (a : Act σ α) : IsBlind (Session.perform a) := by
  intro s t h
  rcases ha : a t.outside with ⟨x, o⟩
  have hs : a s.outside = (x, o) := by rw [h.outside, ha]
  simp only [Session.perform, ha, hs]
  exact ⟨_, _, _, rfl, rfl, rfl, h.client, h.unmarked⟩

end IsBlind

/-! ## Delegates -/

namespace Delegate

theorem isBlind_find (importer : Importer σ) (target : String) :
    IsBlind (find importer target) := by
  intro s t h
  obtain ⟨x, s', t', hs, ht, h'⟩ :=
    IsBlind.perform (importer (targetModule target)) _ _ (h.record (.imported target))
  refine ⟨x.bind fun m ↦ m.follow (targetPath target), s', t', ?_, ?_, h'⟩ <;>
    rcases x with e | m <;> simp only [find, hs, ht] <;> rfl

theorem isBlind_load (importer : Importer σ) (settings : Settings) :
    IsBlind (load importer settings) := by
  intro s t h
  rcases hw : wanted? settings with _ | target
  · simp only [load, hw]
    exact ⟨_, _, _, rfl, rfl, h.log _ _ _⟩
  · obtain ⟨x, s', t', hs, ht, h'⟩ := isBlind_find importer target s t h
    rcases x with e | m
    · simp only [load, hw, hs, ht]
      exact ⟨_, _, _, rfl, rfl, h'.log _ _ _⟩
    · rcases hc : m.call? with _ | run <;> simp only [load, hw, hs, ht, hc]
      · exact ⟨_, _, _, rfl, rfl, h'⟩
      · exact ⟨_, _, _, rfl, rfl, h'.log _ _ _⟩

theorem isBlind_call (d : Delegate σ) (identifier : String) (context : Context) :
    IsBlind (d.call identifier context) := by
  cases d with
  | disabled => exact .pure _
  | unloadable target cause => exact .pure _
  | callable origin run =>
      intro s t h
      exact IsBlind.perform (run.answer identifier context) _ _
        (h.record (.called origin identifier context))

end Delegate

theorem Answer.isBlind_read (v : Value) (identifier : String) :
    IsBlind (σ := σ) (read v identifier) := by
  intro s t h
  rcases hv : ofValue v with p | a
  · refine ⟨.error (p.failure identifier), p.report s, p.report t, ?_, ?_, ?_⟩
    · simp only [read, hv]
    · simp only [read, hv]
    · cases p with
      | unusable mapping => exact h.log _ _ _
      | emptyKey | unsupported | overlong => exact h
  · exact ⟨.ok a, s, t, by simp only [read, hv], by simp only [read, hv], h⟩

/-! ## Strategies -/

namespace Strategy

theorem isBlind_ask (d : Delegate σ) (identifier : String) (context : Context) :
    IsBlind (ask d identifier context) := by
  intro s t h
  obtain ⟨x, s', t', hs, ht, h'⟩ := d.isBlind_call identifier context _ _
    (h.log .debug .strategies ("Invoking " ++ getObjectKey ++ " for " ++ identifier))
  rcases x with e | v
  · simp only [ask, hs, ht]
    exact ⟨_, _, _, rfl, rfl, h'.log _ _ _⟩
  · simp only [ask, hs, ht]
    exact Answer.isBlind_read v identifier s' t' h'

theorem isBlind_resolve (st : Strategy σ) (identifier : Identifier) (context : Context) :
    IsBlind (st.resolve identifier context) := by
  cases st with
  | direct bucket => exact .pure _
  | dynamic d bucket =>
      intro s t h
      obtain ⟨x, s', t', hs, ht, h'⟩ := isBlind_ask d identifier.value context s t h
      exact ⟨x.bind (ofAnswer bucket identifier.value), s', t', by simp only [resolve_dynamic, hs],
        by simp only [resolve_dynamic, ht], h'⟩
  | custom resolve => exact .perform (resolve identifier context)

end Strategy

/-! ## The client, and a handle that it gives -/

theorem Session.isBlind_getClient (factory : Factory σ) : IsBlind (getClient factory) := by
  intro s t h
  rcases hc : t.client with _ | c
  · have hnotes (rs : List LogRecord) {s t : Session σ} (h : s.Matches t) :
        (rs.foldl (fun s r ↦ s.record (.logged r)) s).Matches
          (rs.foldl (fun s r ↦ s.record (.logged r)) t) := by
      induction rs generalizing s t with
      | nil => exact h
      | cons r rs ih => exact ih (h.record _)
    obtain ⟨x, s', t', hs, ht, h'⟩ := IsBlind.perform factory.run _ _
      (hnotes factory.notes ((h.log .debug .sharedClient
        "Constructing shared storage client").record .built))
    rw [getClient_of_none hc, getClient_of_none (h.client.trans hc)]
    rcases x with e | c
    · simp only [buildClient, hs, ht]
      exact ⟨_, _, _, rfl, rfl, h'⟩
    · simp only [buildClient, hs, ht]
      exact ⟨_, _, _, rfl, rfl, h'.outside, rfl, h'.unmarked⟩
  · rw [getClient_of_some hc, getClient_of_some (h.client.trans hc)]
    exact ⟨_, _, _, rfl, rfl, h⟩

namespace Resolver

theorem isBlind_request (host : Host σ) (l : Location) : IsBlind (request host l) := by
  intro s t h
  obtain ⟨x, s', t', hs, ht, h'⟩ := Session.isBlind_getClient host.factory s t h
  rcases x with e | c
  · simp only [request, hs, ht]
    exact ⟨_, _, _, rfl, rfl, h'⟩
  · simp only [request, hs, ht]
    exact IsBlind.perform (c.fetch l) _ _ ((h'.log _ _ _).record _)

theorem isBlind_takeContentType (h : Handle σ) : IsBlind (takeContentType h) := by
  intro s t hst
  obtain ⟨x, s₁, t₁, hs₁, ht₁, h₁⟩ := IsBlind.perform h.contentType s t hst
  obtain ⟨y, s₂, t₂, hs₂, ht₂, h₂⟩ := IsBlind.perform h.close s₁ t₁ h₁
  rcases y with e | ⟨⟩
  · simp only [takeContentType, hs₁, ht₁, hs₂, ht₂]
    exact ⟨_, _, _, rfl, rfl, h₂⟩
  · simp only [takeContentType, hs₁, ht₁, hs₂, ht₂]
    exact ⟨_, _, _, rfl, rfl, h₂⟩

theorem isBlind_formatOfType (identifier : Identifier) (contentType : Option String) :
    IsBlind (σ := σ) (formatOfType identifier contentType) := by
  intro s t h
  rcases hc : given? contentType with _ | text
  · simp only [formatOfType, hc]
    exact ⟨_, _, _, rfl, rfl, h⟩
  · rcases hm : MediaType.parse? text with _ | m <;> simp only [formatOfType, hc, hm]
    · exact ⟨_, _, _, rfl, rfl, h.log _ _ _⟩
    · exact ⟨_, _, _, rfl, rfl, h⟩

end Resolver

end ObjectLookup
