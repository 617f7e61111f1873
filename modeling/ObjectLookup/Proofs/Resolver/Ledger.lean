import ObjectLookup.Proofs.Resolver.Course
import ObjectLookup.Proofs.Resolver.Transparency
import ObjectLookup.Proofs.Session.Watched

/-! # What resolvers do with handles

Over a watched store a resolver answers as it does without the ledger, and the ledger gets a row for
each handle that a question obtains (`ask_watched`). The row says all that was done with the handle:
a handle that was obtained to check the access is closed, one for the format is asked for its
content type and closed, and one for the content is left to the caller (`Question.touches`).

As the rows of a run are those of its questions, in order (`askAll_watched`), no later question
touches the handle of an earlier one.
-/

namespace ObjectLookup

variable {σ α β : Type} {L : Ledger}

/-! ## Resolvers over a watched store -/

def Host.watched (host : Host σ) : Host (Watched σ) := ⟨host.importer.watched, host.factory.watched⟩

def Resolver.watched (r : Resolver σ) : Resolver (Watched σ) where
  identifier := r.identifier
  settings := r.settings
  strategy := r.strategy.map Strategy.watched
  delegate := r.delegate.map Delegate.watched
  context := r.context
  resolved := r.resolved
  recognised := r.recognised
  failure := r.failure

/-- The source of a watched handle, whose stream has the same row. -/
def ContentSource.watched (i : Nat) (c : ContentSource σ) : ContentSource (Watched σ) where
  handle := c.handle.watched i
  stream := c.stream.map (Stream.watched i)
  closed := c.closed

def Reply.watched (i : Nat) : Reply σ → Reply (Watched σ)
  | .located l => .located l
  | .accessible => .accessible
  | .recognised f => .recognised f
  | .opened source => .opened (source.watched i)

/-- The step over a watched store, with its result under a function. -/
def Step.watched (f : α → β) (L : Ledger) (step : Step (Resolver σ) σ α) :
    Step (Resolver (Watched σ)) (Watched σ) β :=
  ⟨step.result.map f, step.self.watched, step.session.watched L⟩

/-- What a question does with the handle that it obtains. -/
def Question.touches : Question → List Touch
  | .checkAccess => [.close]
  | .resolveFormat => [.contentType, .close]
  | .location | .openStream => []

namespace Resolver

variable {host : Host σ} {r : Resolver σ} {q : Question} {s : Session σ}

/-! ## Looking up and fetching -/

theorem getStrategy_watched (host : Host σ) (r : Resolver σ) (s : Session σ) (L : Ledger) :
    r.watched.getStrategy host.watched (s.watched L) =
      ((r.getStrategy host s).1.map Strategy.watched, (r.getStrategy host s).2.watched L) := by
  rcases hst : r.strategy with _ | st
  · have hst' : r.watched.strategy = none := by simp [watched, hst]
    simp only [getStrategy, hst, hst']
    exact Strategy.select_watched host.importer r.settings r.delegate s L
  · have hst' : r.watched.strategy = some st.watched := by simp [watched, hst]
    simp only [getStrategy, hst, hst']
    rfl

theorem resolve_watched (host : Host σ) (r : Resolver σ) (s : Session σ) (L : Ledger) :
    r.watched.resolve host.watched (s.watched L) = (r.resolve host s).watched id L := by
  simp only [resolve, getStrategy_watched]
  rcases r.getStrategy host s with ⟨e | st, s₁⟩
  · rfl
  · simp only [Except.map, watched, Session.record_watched, Strategy.resolve_watched]
    rcases st.resolve r.identifier r.context (s₁.record .consulted) with ⟨e | l, s₂⟩ <;> rfl

theorem location_watched (host : Host σ) (r : Resolver σ) (s : Session σ) (L : Ledger) :
    r.watched.location host.watched (s.watched L) = (r.location host s).watched id L := by
  rcases location_cases host r s with ⟨e, he, h⟩ | ⟨l, he, hl', h⟩ | ⟨he, hl', h⟩ <;> rw [h]
  · exact location_of_failure (r := r.watched) he _
  · exact location_of_resolved (r := r.watched) he hl' _
  · rw [location_of_unresolved (r := r.watched) he hl']
    exact resolve_watched host r s L

theorem request_watched (host : Host σ) (l : Location) (s : Session σ) (L : Ledger) :
    request host.watched l (s.watched L) =
      ((request host l s).1.map (Handle.watched L.length),
        (request host l s).2.watched (L ++ .begun (request host l s).1)) := by
  simp only [request, Host.watched, Session.getClient_watched]
  rcases s.getClient host.factory with ⟨e | c, s₁⟩
  · simp only [Except.map, Ledger.begun, List.append_nil]
  · rfl

theorem fetch_watched (host : Host σ) (r : Resolver σ) (s : Session σ) (L : Ledger) :
    r.watched.fetch host.watched (s.watched L) =
      (r.fetch host s).watched (Handle.watched L.length) (L ++ .begun (r.fetch host s).result) := by
  simp only [fetch, location_watched, Step.watched]
  rcases (r.location host s).result with e | l
  · simp only [Except.map, Ledger.begun, List.append_nil]
  · simp only [Except.map, id, request_watched]
    rcases request host l (r.location host s).session with ⟨e | h, s₁⟩
    · simp only [Ledger.begun, List.append_nil]
      rfl
    · rfl

/-! ## Asking -/

theorem takeContentType_watched (h : Handle σ) (s : Session σ) (L : Ledger) :
    takeContentType (h.watched L.length) (s.watched (L ++ [[]])) =
      ((takeContentType h s).1,
        (takeContentType h s).2.watched (L ++ [Question.resolveFormat.touches])) := by
  have hclose (i : Nat) : (h.watched i).close = h.close.entered i .close id := rfl
  simp only [takeContentType, hclose]
  rw [Handle.watched, Session.perform_entered, Ledger.enter_concat, Session.perform_entered,
    Ledger.enter_concat]
  rcases (s.perform h.contentType).2.perform h.close with ⟨e | ⟨⟩, s₁⟩
  · rfl
  · simp only [Except.map_id]
    rfl

theorem formatOfType_watched (identifier : Identifier) (contentType : Option String)
    (s : Session σ) (L : Ledger) : formatOfType identifier contentType (s.watched L) =
      ((formatOfType identifier contentType s).1,
        (formatOfType identifier contentType s).2.watched L) := by
  rcases ht : given? contentType with _ | t
  · simp only [formatOfType, ht]
  · rcases hm : MediaType.parse? t with _ | m <;> simp only [formatOfType, ht, hm]
    rfl

theorem formatOfHandle_watched (host : Host σ) (r : Resolver σ) (h : Handle σ) (s : Session σ)
    (L : Ledger) :
    r.watched.formatOfHandle host.watched (h.watched L.length) (s.watched (L ++ [[]])) =
      (r.formatOfHandle host h s).watched id (L ++ [Question.resolveFormat.touches]) := by
  simp only [formatOfHandle, takeContentType_watched]
  rcases takeContentType h s with ⟨e | t, s₁⟩
  · rfl
  · have hid : r.watched.identifier = r.identifier := rfl
    simp only [hid, formatOfType_watched, location_watched]
    split
    · rfl
    · split
      · rfl
      · simp only [Step.watched, Except.map_id, id]

/-- The rows that a question begins: one if it obtains a handle, with what it does with it. -/
def rows (host : Host σ) (r : Resolver σ) (q : Question) (s : Session σ) : Ledger :=
  ((r.obtained? host q s).map fun _ ↦ q.touches).toList

theorem rows_of_fetch_ok (hw : r.wantsObject q = true) {h : Handle σ}
    (hh : (r.fetch host s).result = .ok h) : r.rows host q s = [q.touches] := by
  rw [rows, obtained?_eq_some.2 ⟨hw, hh, rfl⟩]
  rfl

theorem rows_of_fetch_error {e : Failure} (he : (r.fetch host s).result = .error e) :
    r.rows host q s = [] := by
  rcases ho : r.obtained? host q s with _ | ⟨h, t⟩
  · rw [rows, ho]
    rfl
  · rw [(obtained?_eq_some.1 ho).2.1] at he
    cases he

theorem rows_of_not_wantsObject (hw : r.wantsObject q = false) : r.rows host q s = [] := by
  rcases ho : r.obtained? host q s with _ | ⟨h, t⟩
  · rw [rows, ho]
    rfl
  · rw [(obtained?_eq_some.1 ho).1] at hw
    cases hw

theorem failure_of_fetch_ok {h : Handle σ} (hh : (r.fetch host s).result = .ok h) :
    r.failure = none := by
  rcases hf : r.failure with _ | e
  · rfl
  · rw [fetch_of_failure hf] at hh
    cases hh

theorem eq_touches_of_mem_rows {row : List Touch} (h : row ∈ r.rows host q s) :
    row = q.touches := by
  rcases ho : r.obtained? host q s with _ | x <;> rw [rows, ho] at h
  · cases h
  · exact List.mem_singleton.1 h

theorem length_rows (host : Host σ) (r : Resolver σ) (q : Question) (s : Session σ) :
    (r.rows host q s).length = (r.obtained? host q s).toList.length := by
  rw [rows]
  cases r.obtained? host q s <;> rfl

/-- Over a watched store a question is answered as it is without the ledger, which gets its rows. -/
theorem ask_watched (host : Host σ) (r : Resolver σ) (q : Question) (s : Session σ) (L : Ledger) :
    r.watched.ask host.watched q (s.watched L) =
      (r.ask host q s).watched (Reply.watched L.length) (L ++ r.rows host q s) := by
  cases q with
  | location =>
      have hrows : r.rows host .location s = [] := rows_of_not_wantsObject (by simp [wantsObject])
      rw [hrows, List.append_nil, ask, ask, location_watched]
      rcases r.location host s with ⟨e | l, r', s'⟩ <;> rfl
  | openStream =>
      simp only [ask, openStream, fetch_watched, Step.watched]
      rcases hh : (r.fetch host s).result with e | h
      · rw [rows_of_fetch_error hh]
        rfl
      · have hf := failure_of_fetch_ok hh
        rw [rows_of_fetch_ok (by simp [wantsObject, hf]) hh]
        rfl
  | checkAccess =>
      simp only [ask, checkAccess, fetch_watched, Step.watched]
      rcases hh : (r.fetch host s).result with e | h
      · rw [rows_of_fetch_error hh]
        rfl
      · have hf := failure_of_fetch_ok hh
        have hclose (i : Nat) : (h.watched i).close = h.close.entered i .close id := rfl
        rw [rows_of_fetch_ok (by simp [wantsObject, hf]) hh]
        simp only [Except.map, Ledger.begun, hclose, Session.perform_entered, Ledger.enter_concat]
        rcases (r.fetch host s).session.perform h.close with ⟨e | ⟨⟩, s₁⟩ <;> rfl
  | resolveFormat =>
      rcases hr : r.recognised with _ | f
      · have hr' : r.watched.recognised = none := hr
        simp only [ask, resolveFormat, hr, hr', fetch_watched, Step.watched]
        rcases hh : (r.fetch host s).result with e | h
        · rw [rows_of_fetch_error hh]
          rfl
        · have hf := failure_of_fetch_ok hh
          rw [rows_of_fetch_ok (by simp [wantsObject, hf, hr]) hh]
          simp only [Except.map, Ledger.begun, formatOfHandle_watched, Step.watched]
          rcases ((r.fetch host s).self.formatOfHandle host h (r.fetch host s).session).result with
            e | f <;> rfl
      · have hrows : r.rows host .resolveFormat s = [] :=
          rows_of_not_wantsObject (by simp [wantsObject, hr])
        have hr' : r.watched.recognised = some f := hr
        rw [hrows, List.append_nil, ask, ask, resolveFormat_of_recognised hr,
          resolveFormat_of_recognised hr']
        rfl

/-! ## Runs -/

section Many

variable {ι : Type} [DecidableEq ι]

/-- The rows that the questions of a run begin, in order. -/
def rowsAll (host : Host σ) (rs : ι → Resolver σ) (s : Session σ) :
    List (ι × Question) → Ledger
  | [] => []
  | (i, q) :: calls =>
    let step := (rs i).ask host q s
    (rs i).rows host q s ++ rowsAll host (Function.update rs i step.self) step.session calls

theorem rowsAll_append (host : Host σ) (rs : ι → Resolver σ) (s : Session σ)
    (before after : List (ι × Question)) :
    rowsAll host rs s (before ++ after) = rowsAll host rs s before ++
      rowsAll host (askAll host rs s before).1 (askAll host rs s before).2 after := by
  induction before generalizing rs s with
  | nil => rfl
  | cons call before ih => simp only [List.cons_append, rowsAll, askAll, ih, List.append_assoc]

/-- Over a watched store resolvers are asked to the same effect as without the ledger, which gets
the rows of their questions. -/
theorem askAll_watched (host : Host σ) (rs : ι → Resolver σ) (s : Session σ) (L : Ledger)
    (calls : List (ι × Question)) :
    askAll host.watched (fun i ↦ (rs i).watched) (s.watched L) calls =
      (fun i ↦ ((askAll host rs s calls).1 i).watched,
        (askAll host rs s calls).2.watched (L ++ rowsAll host rs s calls)) := by
  induction calls generalizing rs s L with
  | nil => simp only [askAll, rowsAll, List.append_nil]
  | cons call calls ih =>
      obtain ⟨i, q⟩ := call
      let step := (rs i).ask host q s
      have hupdate : Function.update (fun i ↦ (rs i).watched) i step.self.watched =
          fun j ↦ (Function.update rs i step.self j).watched :=
        (Function.comp_update watched rs i step.self).symm
      simp only [askAll, ask_watched, Step.watched]
      rw [hupdate, ih, rowsAll, List.append_assoc]

/-- In a run over a watched store, a question is answered as it is in the run without the ledger.
Its rows stand behind those of the questions before, and stay as the question has left them. -/
theorem ledger_askAll (host : Host σ) (rs : ι → Resolver σ) (s : Session σ) (L : Ledger)
    (before after : List (ι × Question)) (i : ι) (q : Question) :
    let start := askAll host.watched (fun i ↦ (rs i).watched) (s.watched L) before
    let ending :=
      (askAll host.watched (fun i ↦ (rs i).watched) (s.watched L) (before ++ (i, q) :: after)).2
    let plain := askAll host rs s before
    let ledger := start.2.outside.ledger
    let rows := (plain.1 i).rows host q plain.2
    ∃ later,
      (start.1 i).ask host.watched q start.2 =
        ((plain.1 i).ask host q plain.2).watched (Reply.watched ledger.length) (ledger ++ rows) ∧
      ending.outside.ledger = ledger ++ rows ++ later := by
  intro start ending plain ledger rows
  have hstart : start = (fun i ↦ (plain.1 i).watched,
      plain.2.watched (L ++ rowsAll host rs s before)) := askAll_watched host rs s L before
  have hending : ending.outside.ledger = L ++ rowsAll host rs s (before ++ (i, q) :: after) := by
    simp only [ending, askAll_watched, Session.ledger_watched]
  let asked := (plain.1 i).ask host q plain.2
  refine ⟨rowsAll host (Function.update plain.1 i asked.self) asked.session after, ?_, ?_⟩
  · simp only [ledger, hstart, ask_watched]
    rfl
  · rw [hending, rowsAll_append, rowsAll, ← List.append_assoc, ← List.append_assoc]
    simp only [ledger, hstart]
    rfl

end Many

end Resolver

end ObjectLookup
