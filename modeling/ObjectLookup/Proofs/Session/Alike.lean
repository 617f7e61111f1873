import ObjectLookup.Proofs.Storage.Steady
import ObjectLookup.S3.Client

/-! # Sessions that are alike

Two sessions are alike if they have the same journal, clients that act alike, and related states
outside (`Session.Alike`). What is related outside is left open: any relation that the actions on
the outside keep will do, and so the two sessions may well differ in what no action shows.

Two programs run alike if they lead from alike sessions to alike sessions and to related values
(`RunAlike`). This module has the programs on which everything else is built: actions on the
outside, the client, and the sources of content.
-/

namespace ObjectLookup

variable {σ τ α β : Type} {S : σ → τ → Prop} {R : α → β → Prop}

/-! ## Clients -/

/-- Clients that give alike handles. -/
def Client.Alike (S : σ → τ → Prop) (c : Client σ) (d : Client τ) : Prop :=
  ∀ l, Act.Alike S (Handle.Alike S) (c.fetch l) (d.fetch l)

/-- Factories that log the same and build clients alike. -/
structure Factory.Alike (S : σ → τ → Prop) (f : Factory σ) (g : Factory τ) : Prop where
  notes : f.notes = g.notes
  run : Act.Alike S (Client.Alike S) f.run g.run

namespace S3

/-- Responses that differ in nothing but in how their bodies come about. -/
structure Response.Alike (S : σ → τ → Prop) (x : Response σ) (y : Response τ) : Prop where
  contentType : x.contentType = y.contentType
  contentLength : x.contentLength = y.contentLength
  etag : x.etag = y.etag
  body : Option.Rel (Stream.Alike S) x.body y.body

/-- Connections that give alike responses. -/
def Connection.Alike (S : σ → τ → Prop) (c : Connection σ) (d : Connection τ) : Prop :=
  ∀ l, Act.Alike S (Response.Alike S) (c.getObject l) (d.getObject l)

theorem Response.Alike.handle {x : Response σ} {y : Response τ} (h : x.Alike S y) (l : Location) :
    (Object.handle ⟨l, x, false⟩).Alike S (Object.handle ⟨l, y, false⟩) where
  contentType := by
    simp only [Object.handle, h.contentType]
    exact .pure rfl
  contentLength := by
    simp only [Object.handle, h.contentLength]
    exact .pure rfl
  openStream closed := by
    cases closed with
    | true => exact .throw _
    | false => exact .pure h.body
  release closed := by
    rcases x with ⟨_, _, _, body⟩
    rcases y with ⟨_, _, _, body'⟩
    cases closed with
    | true => exact .pure rfl
    | false =>
        cases h.body with
        | none => exact .pure rfl
        | some hbody => exact hbody.close
  closed := rfl

theorem Connection.Alike.fetch {c : Connection σ} {d : Connection τ} (h : c.Alike S d)
    (l : Location) :
    Act.Alike S (fun x y ↦ x.handle.Alike S y.handle) (c.fetch l) (d.fetch l) := by
  intro o p hop
  obtain ⟨hagree, hstate⟩ := h l o p hop
  rcases hx : c.getObject l o with ⟨x, o'⟩
  rcases hy : d.getObject l p with ⟨y, p'⟩
  rw [hx, hy] at hagree hstate
  cases hagree with
  | ok hxy =>
      simp only [Connection.fetch, ExceptT.mk, hx, hy]
      exact ⟨.ok (hxy.handle l), hstate⟩
  | error e =>
      simp only [Connection.fetch, ExceptT.mk, hx, hy]
      exact ⟨.error (neutral l e), hstate⟩

/-- The clients of alike connections give alike handles. -/
theorem Connection.Alike.client {c : Connection σ} {d : Connection τ} (h : c.Alike S d) :
    c.client.Alike S d.client := by
  intro l
  apply (h.fetch l).bind
  intro x y hxy
  exact .pure hxy

end S3

/-! ## Sessions -/

/-- Sessions of one journal, with clients that act alike and related states outside. -/
structure Session.Alike (S : σ → τ → Prop) (s : Session σ) (t : Session τ) : Prop where
  outside : S s.outside t.outside
  client : Option.Rel (Client.Alike S) s.client t.client
  journal : s.journal = t.journal

namespace Session.Alike

variable {s : Session σ} {t : Session τ}

theorem record (h : s.Alike S t) (e : Event) : (s.record e).Alike S (t.record e) where
  outside := h.outside
  client := h.client
  journal := congrArg (e :: ·) h.journal

theorem log (h : s.Alike S t) (l : Level) (c : Component) (m : String) :
    (s.log l c m).Alike S (t.log l c m) := h.record _

theorem notes (h : s.Alike S t) (rs : List LogRecord) :
    (rs.foldl (fun s r ↦ s.record (.logged r)) s).Alike S
      (rs.foldl (fun s r ↦ s.record (.logged r)) t) := by
  induction rs generalizing s t with
  | nil => exact h
  | cons r rs ih => exact ih (h.record (.logged r))

/-- Sessions stay alike where nothing but the outside changes. -/
theorem of_outside {s' : Session σ} {t' : Session τ} (h : s.Alike S t)
    (hs : ∃ o, s' = { s with outside := o }) (ht : ∃ o, t' = { t with outside := o })
    (hstate : S s'.outside t'.outside) : s'.Alike S t' := by
  obtain ⟨o, rfl⟩ := hs
  obtain ⟨p, rfl⟩ := ht
  exact ⟨hstate, h.client, h.journal⟩

end Session.Alike

/-- From alike sessions the programs come to related values, and they leave alike sessions
behind. -/
def RunAlike (S : σ → τ → Prop) (R : α → β → Prop) (p : Session σ → α × Session σ)
    (q : Session τ → β × Session τ) : Prop :=
  ∀ s t, s.Alike S t → ∃ x y s' t', p s = (x, s') ∧ q t = (y, t') ∧ R x y ∧ s'.Alike S t'

namespace RunAlike

theorem pure {x : α} {y : β} (h : R x y) :
    RunAlike S R (fun s : Session σ ↦ (x, s)) (fun t : Session τ ↦ (y, t)) :=
  fun s t hst ↦ ⟨x, y, s, t, rfl, rfl, h, hst⟩

theorem perform {a : Act σ α} {b : Act τ β} (h : Act.Alike S R a b) :
    RunAlike S (Agree R) (Session.perform a) (Session.perform b) := by
  intro s t hst
  obtain ⟨hagree, hstate⟩ := h s.outside t.outside hst.outside
  exact ⟨_, _, _, _, rfl, rfl, hagree, hstate, hst.client, hst.journal⟩

/-- The client is built alike, or is there already. -/
theorem getClient {f : Factory σ} {g : Factory τ} (h : f.Alike S g) :
    RunAlike S (Agree (Client.Alike S)) (Session.getClient f) (Session.getClient g) := by
  intro s t hst
  rcases optionRel_cases hst.client with ⟨hc, hd⟩ | ⟨c, d, hc, hd, hcd⟩
  · have hnoted := ((hst.log .debug .sharedClient "Constructing shared storage client").record
      .built).notes f.notes
    obtain ⟨_, _, s', t', hs, ht, hx | e, h'⟩ := perform h.run _ _ hnoted
    · rw [h.notes] at ht
      simp only [Session.getClient_of_none hc, Session.getClient_of_none hd, Session.buildClient,
        hs, ht]
      exact ⟨_, _, _, _, rfl, rfl, .ok hx, h'.outside, .some hx, h'.journal⟩
    · rw [h.notes] at ht
      simp only [Session.getClient_of_none hc, Session.getClient_of_none hd, Session.buildClient,
        hs, ht]
      exact ⟨_, _, _, _, rfl, rfl, .error e, h'⟩
  · rw [Session.getClient_of_some hc, Session.getClient_of_some hd]
    exact ⟨_, _, _, _, rfl, rfl, .ok hcd, hst⟩

end RunAlike

/-! ## Sources of content -/

namespace ContentSource

/-- A source opens its stream without a trace in the session. -/
theorem session_newStream (c : ContentSource σ) (s : Session σ) :
    ∃ o, (c.newStream s).session = { s with outside := o } := by
  unfold newStream
  split
  · exact ⟨s.outside, rfl⟩
  · split
    · exact ⟨s.outside, rfl⟩
    · rcases h : c.handle.stream s.outside with ⟨e | x, o⟩ <;> simp only [Session.perform, h] <;>
        exact ⟨o, rfl⟩

/-- Sources are used without a trace in the session. -/
theorem session_use (c : ContentSource σ) (u : Use) (s : Session σ) :
    ∃ o, (c.use u s).2.2 = { s with outside := o } := by
  cases u with
  | contentType | contentLength | close => exact ⟨_, rfl⟩
  | read =>
      obtain ⟨o, h⟩ := c.session_newStream s
      simp only [use]
      rcases hx : (c.newStream s).result with e | _ | x <;> simp only [read, hx]
      · exact ⟨o, h⟩
      · exact ⟨o, h⟩
      · rw [h]
        exact ⟨_, rfl⟩

end ContentSource

namespace ContentSource.Alike

variable {c : ContentSource σ} {d : ContentSource τ} {s : Session σ} {t : Session τ}

theorem alike_newStream (h : c.Alike S d) (hst : s.Alike S t) :
    Agree (Option.Rel (Stream.Alike S)) (c.newStream s).result (d.newStream t).result ∧
      (c.newStream s).self.Alike S (d.newStream t).self ∧
      (c.newStream s).session.Alike S (d.newStream t).session := by
  obtain ⟨hagree, hself, hstate⟩ := h.newStream hst.outside
  refine ⟨hagree, hself, ?_⟩
  exact hst.of_outside (c.session_newStream s) (d.session_newStream t) hstate

theorem alike_close (h : c.Alike S d) (hst : s.Alike S t) :
    (c.close s).result = (d.close t).result ∧ (c.close s).self.Alike S (d.close t).self ∧
      (c.close s).session.Alike S (d.close t).session := by
  obtain ⟨hresult, hself, hstate⟩ := h.close hst.outside
  exact ⟨hresult, hself, hst.of_outside (c.session_use .close s) (d.session_use .close t) hstate⟩

/-- A use shows the same of alike sources, and leaves them alike. -/
theorem alike_use (h : c.Alike S d) (hst : s.Alike S t) (u : Use) :
    (c.use u s).1 = (d.use u t).1 ∧ (c.use u s).2.1.Alike S (d.use u t).2.1 ∧
      (c.use u s).2.2.Alike S (d.use u t).2.2 := by
  obtain ⟨hreading, hself, hstate⟩ := h.use hst.outside u
  refine ⟨hreading, hself, ?_⟩
  exact hst.of_outside (c.session_use u s) (d.session_use u t) hstate

end ContentSource.Alike

end ObjectLookup
