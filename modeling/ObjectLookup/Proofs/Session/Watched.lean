import ObjectLookup.Proofs.Storage.Watched
import ObjectLookup.Storage.Shared
import ObjectLookup.Strategy

/-! # Sessions over a watched store

Everything that acts on the outside can be put over a watched store instead, where it acts aside of
the ledger. It comes to the same there: what has no handle in its hands finds what it would find
without the ledger, and leaves the ledger alone (`Strategy.resolve_watched`,
`Session.getClient_watched`).
-/

namespace ObjectLookup

variable {σ α β : Type} {L : Ledger}

/-! ## Sessions -/

namespace Session

/-- The session over a watched store, with its ledger as given. -/
def watched (s : Session σ) (L : Ledger) : Session (Watched σ) where
  outside := ⟨s.outside, L⟩
  client := s.client.map Client.watched
  journal := s.journal

@[simp] theorem ledger_watched (s : Session σ) (L : Ledger) : (s.watched L).outside.ledger = L :=
  rfl

theorem record_watched (e : Event) (s : Session σ) (L : Ledger) :
    (s.watched L).record e = (s.record e).watched L := rfl

theorem log_watched (level : Level) (component : Component) (message : String) (s : Session σ)
    (L : Ledger) :
    (s.watched L).log level component message = (s.log level component message).watched L := rfl

theorem perform_aside (f : α → β) (a : Act σ α) (s : Session σ) (L : Ledger) :
    (s.watched L).perform (a.aside f) = ((s.perform a).1.map f, (s.perform a).2.watched L) := rfl

theorem perform_entered (i : Nat) (x : Touch) (f : α → β) (a : Act σ α) (s : Session σ)
    (L : Ledger) : (s.watched L).perform (a.entered i x f) =
      ((s.perform a).1.map f, (s.perform a).2.watched (L.enter i x)) := rfl

end Session

/-! ## Delegates -/

def Lookup.watched (run : Lookup σ) : Lookup (Watched σ) := fun identifier context w ↦
  ((run identifier context w.outside).1,
    { w with outside := (run identifier context w.outside).2 })

theorem Lookup.answer_watched (run : Lookup σ) (identifier : String) (context : Context) :
    run.watched.answer identifier context = (run.answer identifier context).aside id := by
  funext w
  exact Prod.ext (congrFun Except.map_id (run identifier context w.outside).1.1).symm rfl

mutual

def Member.watched : Member σ → Member (Watched σ)
  | .mk call member => .mk (call.map Lookup.watched) fun name ↦ watchedResult (member name)

def Member.watchedResult :
    Except Failure (Member σ) → Except Failure (Member (Watched σ))
  | .ok m => .ok m.watched
  | .error e => .error e

end

namespace Member

theorem call?_watched (m : Member σ) : m.watched.call? = m.call?.map Lookup.watched := by
  cases m
  rfl

theorem member_watched (m : Member σ) (name : String) :
    m.watched.member name = (m.member name).map watched := by
  cases m with
  | mk call member =>
      change watchedResult (member name) = (member name).map watched
      cases member name <;> rfl

theorem follow_watched (path : List String) (m : Member σ) :
    m.watched.follow path = (m.follow path).map watched := by
  induction path generalizing m with
  | nil => rfl
  | cons name path ih =>
      simp only [follow, member_watched]
      rcases m.member name with e | n
      · rfl
      · exact ih n

end Member

def Importer.watched (importer : Importer σ) : Importer (Watched σ) := fun name ↦
  Act.aside Member.watched (importer name)

namespace Delegate

def watched : Delegate σ → Delegate (Watched σ)
  | .disabled => .disabled
  | .unloadable target cause => .unloadable target cause
  | .callable origin run => .callable origin run.watched

theorem find_watched (importer : Importer σ) (target : String) (s : Session σ) (L : Ledger) :
    find importer.watched target (s.watched L) =
      ((find importer target s).1.map Member.watched, (find importer target s).2.watched L) := by
  have h := Session.perform_aside Member.watched (importer (targetModule target))
    (s.record (.imported target)) L
  simp only [find, Session.record_watched, Importer.watched, h]
  rcases (s.record (.imported target)).perform (importer (targetModule target)) with ⟨e | m, s'⟩
  · rfl
  · exact congrArg (·, s'.watched L) (Member.follow_watched (targetPath target) m)

theorem load_watched (importer : Importer σ) (settings : Settings) (s : Session σ) (L : Ledger) :
    load importer.watched settings (s.watched L) =
      ((load importer settings s).1.watched, (load importer settings s).2.watched L) := by
  rcases hw : wanted? settings with _ | target
  · simp only [load, hw]
    rfl
  · simp only [load, hw, find_watched]
    rcases find importer target s with ⟨e | m, s'⟩
    · rfl
    · simp only [Except.map, Member.call?_watched]
      rcases m.call? with _ | run <;> rfl

theorem call_watched (d : Delegate σ) (identifier : String) (context : Context) (s : Session σ)
    (L : Ledger) : d.watched.call identifier context (s.watched L) =
      ((d.call identifier context s).1, (d.call identifier context s).2.watched L) := by
  cases d with
  | disabled => rfl
  | unloadable target cause => rfl
  | callable origin run =>
      have h := Session.perform_aside id (run.answer identifier context)
        (s.record (.called origin identifier context)) L
      simp only [watched, call, Session.record_watched, Lookup.answer_watched, h, Except.map_id, id]

end Delegate

theorem Answer.read_watched (v : Value) (identifier : String) (s : Session σ) (L : Ledger) :
    read v identifier (s.watched L) =
      ((read v identifier s).1, (read v identifier s).2.watched L) := by
  rcases h : ofValue v with p | a <;> simp only [read, h]
  cases p <;> rfl

/-! ## Strategies -/

namespace Strategy

def watched : Strategy σ → Strategy (Watched σ)
  | .direct bucket => .direct bucket
  | .dynamic d bucket => .dynamic d.watched bucket
  | .custom resolve => .custom fun identifier context ↦ (resolve identifier context).aside id

theorem ask_watched (d : Delegate σ) (identifier : String) (context : Context) (s : Session σ)
    (L : Ledger) : ask d.watched identifier context (s.watched L) =
      ((ask d identifier context s).1, (ask d identifier context s).2.watched L) := by
  simp only [ask, Session.log_watched, Delegate.call_watched]
  rcases d.call identifier context _ with ⟨e | v, s'⟩
  · rfl
  · exact Answer.read_watched v identifier s' L

theorem resolve_watched (st : Strategy σ) (identifier : Identifier) (context : Context)
    (s : Session σ) (L : Ledger) : st.watched.resolve identifier context (s.watched L) =
      ((st.resolve identifier context s).1, (st.resolve identifier context s).2.watched L) := by
  cases st with
  | direct bucket => rfl
  | dynamic d bucket => simp only [watched, resolve_dynamic, ask_watched]
  | custom resolve =>
      have h := Session.perform_aside id (resolve identifier context) s L
      simp only [watched, resolve_custom, h, Except.map_id, id]

theorem select_watched (importer : Importer σ) (settings : Settings)
    (delegate : Option (Delegate σ)) (s : Session σ) (L : Ledger) :
    select importer.watched settings (delegate.map Delegate.watched) (s.watched L) =
      ((select importer settings delegate s).1.map watched,
        (select importer settings delegate s).2.watched L) := by
  rcases hs : Selector.ofSettings? settings with _ | _ | _ <;> simp only [select, hs]
  · rfl
  · rfl
  · rcases delegate with _ | d
    · simp only [Option.map_none, Session.record_watched, Delegate.load_watched]
      rfl
    · rfl

end Strategy

/-! ## The client -/

/-- The factory of a watched client. -/
def Factory.watched (factory : Factory σ) : Factory (Watched σ) where
  notes := factory.notes
  run := factory.run.aside Client.watched

namespace Session

theorem notes_watched (rs : List LogRecord) (s : Session σ) (L : Ledger) :
    rs.foldl (fun s r ↦ s.record (.logged r)) (s.watched L) =
      (rs.foldl (fun s r ↦ s.record (.logged r)) s).watched L := by
  induction rs generalizing s with
  | nil => rfl
  | cons r rs ih => exact ih (s.record (.logged r))

theorem getClient_watched (factory : Factory σ) (s : Session σ) (L : Ledger) :
    (s.watched L).getClient factory.watched =
      ((s.getClient factory).1.map Client.watched, (s.getClient factory).2.watched L) := by
  rcases hc : s.client with _ | c
  · have hc' : (s.watched L).client = none := by simp [watched, hc]
    rw [getClient_of_none hc, getClient_of_none hc']
    simp only [buildClient, log_watched, record_watched, Factory.watched, notes_watched,
      perform_aside]
    rcases Session.perform factory.run _ with ⟨e | c, s'⟩ <;> rfl
  · have hc' : (s.watched L).client = some c.watched := by simp [watched, hc]
    rw [getClient_of_some hc, getClient_of_some hc']
    rfl

end Session

end ObjectLookup
