import ObjectLookup.Proofs.Resolver.Activity
import ObjectLookup.Proofs.S3.Classification
import ObjectLookup.Proofs.Storage.Sharing

/-! # Responses with and without a body

The source of a response has nothing to give but the body of it (`S3.IsSourceOf`), and it takes a
body that is missing for a stream that opened. So whether a source always gives a stream, or fails
as it should, is for the response to say: it does if and only if there is a body
(`S3.gives_stream_iff`).
-/

namespace ObjectLookup

namespace S3

variable {σ : Type} {l : Location} {response : Response σ}

/-- The source is one of the response, and has opened nothing but the body of it. -/
structure IsSourceOf (l : Location) (response : Response σ) (c : ContentSource σ) : Prop where
  handle : c.closed = false → c.handle = Object.handle ⟨l, response, false⟩
  stream : ∀ x, c.stream = some x → response.body = some x

/-- What the source gives, as long as it is not closed, is the body, if there is one. -/
theorem IsSourceOf.newStream {c : ContentSource σ} (h : IsSourceOf l response c)
    (hc : c.closed = false) (s : Session σ) :
    c.newStream s = ⟨.ok response.body, { c with stream := response.body }, s⟩ := by
  rcases hstream : c.stream with _ | x
  · have hopen : c.handle.stream s.outside = (.ok response.body, s.outside) := by
      rw [h.handle hc]
      exact Object.stream_handle rfl s.outside
    exact ContentSource.newStream_of_ok hc hstream hopen
  · rw [ContentSource.newStream_of_some hc hstream, h.stream x hstream, ← hstream]

theorem IsSourceOf.self_newStream {c : ContentSource σ} (h : IsSourceOf l response c)
    (s : Session σ) : IsSourceOf l response (c.newStream s).self := by
  by_cases hc : c.closed = true
  · rw [ContentSource.newStream_of_closed hc]
    exact h
  · rw [h.newStream (Bool.eq_false_iff.2 hc)]
    exact ⟨h.handle, fun x hx ↦ hx⟩

theorem IsSourceOf.move {s : Sharing σ} (h : IsSourceOf l response s.source) (m : Move) :
    IsSourceOf l response (s.move m).2.source := by
  rw [Sharing.source_move]
  cases m with
  | newStream | read => exact h.self_newStream s.session
  | readStream | closeStream => exact h
  | close => exact ⟨nofun, h.stream⟩

theorem IsSourceOf.run {s : Sharing σ} (h : IsSourceOf l response s.source) (ms : List Move) :
    IsSourceOf l response (s.run ms).source := by
  induction ms generalizing s with
  | nil => exact h
  | cons m ms ih => exact ih (h.move m)

/-- A stream, or a storage failure. -/
def IsStreamOrFailure : Except Failure (Option (Stream σ)) → Prop
  | .ok x => x.isSome
  | .error e => ∃ text, e.fault = .ofKind .storageFailure text

variable {host : Host σ} {r : Resolver σ} {s s₁ : Session σ}

theorem openStream_of_response {c : Connection σ} {o : σ} (hl : (r.location host s).result = .ok l)
    (hc : (r.location host s).session.getClient host.factory = (.ok c.client, s₁))
    (hresponse : c.getObject l s₁.outside = (.ok response, o)) :
    (r.openStream host s).result = .ok ⟨Object.handle ⟨l, response, false⟩, none, false⟩ := by
  have hfetch : c.client.fetch l s₁.outside = (.ok (Object.handle ⟨l, response, false⟩), o) := by
    rw [fetch_client_apply, hresponse]
  have hrequest : (Resolver.request host l (r.location host s).session).1 =
      .ok (Object.handle ⟨l, response, false⟩) := by
    simp only [Resolver.request, hc, Session.perform, Session.outside_record,
      Session.outside_log, hfetch]
  rcases hr : Resolver.request host l (r.location host s).session with ⟨e' | k, s₂⟩ <;>
    rw [hr] at hrequest <;> cases hrequest
  simp only [Resolver.openStream, Resolver.fetch, hl, hr]
  rfl

/-- A source that was opened for a response fails once it is closed. Until then it gives the body
of the response and reads from it, if there is one. If there is none it gives nothing, which is no
failure, and reading fails for that. So what it gives is a stream or a storage failure, whatever is
done, if and only if the response has a body. -/
theorem gives_stream_iff {c : Connection σ} {o : σ} (hl : (r.location host s).result = .ok l)
    (hc : (r.location host s).session.getClient host.factory = (.ok c.client, s₁))
    (hresponse : c.getObject l s₁.outside = (.ok response, o)) :
    ∃ source, (r.openStream host s).result = .ok source ∧
      let start : Sharing σ := ⟨source, [], (r.openStream host s).session⟩
      (∀ ms, .close ∈ ms →
        ((start.run ms).move .newStream).1 = .stream (.error ContentSource.closedFailure) ∧
        ((start.run ms).move .read).1 = .bytes none (.error ContentSource.closedFailure)) ∧
      (∀ ms, .close ∉ ms →
        ((start.run ms).move .newStream).1 = .stream (.ok response.body) ∧
        ((start.run ms).move .read).1 = .bytes none (match response.body with
          | some body => ((start.run ms).session.perform (body.read none)).1
          | none => .error ⟨.noMember "NoneType" "read", []⟩)) ∧
      ((∀ ms x, .stream x ∈ start.shown ms → IsStreamOrFailure x) ↔ response.body.isSome) := by
  refine ⟨_, openStream_of_response hl hc hresponse, ?_⟩
  intro start
  have hstart : IsSourceOf l response start.source := ⟨fun _ ↦ rfl, nofun⟩
  have hclosed (ms : List Move) : (start.run ms).source.closed = decide (.close ∈ ms) :=
    start.closed_run ms
  have hafter (ms : List Move) (hms : .close ∈ ms) :=
    ContentSource.newStream_of_closed ((hclosed ms).trans (decide_eq_true hms))
      (start.run ms).session
  have hbefore (ms : List Move) (hms : .close ∉ ms) :=
    (hstart.run ms).newStream ((hclosed ms).trans (decide_eq_false hms)) (start.run ms).session
  refine ⟨?_, ?_, ?_, ?_⟩
  · intro ms hms
    simp [Sharing.move, ContentSource.read, hafter ms hms]
  · intro ms hms
    simp only [Sharing.move, ContentSource.read, hbefore ms hms]
    refine ⟨trivial, ?_⟩
    rcases response.body with _ | body <;> rfl
  · intro h
    refine h [.newStream] (.ok response.body) (List.mem_singleton.2 ?_)
    exact (congrArg Shown.stream (congrArg Step.result (hbefore [] List.not_mem_nil))).symm
  · intro hbody ms x hx
    obtain ⟨before, m, after, -, hshown⟩ := Sharing.exists_of_mem_shown hx
    obtain ⟨-, rfl⟩ := Sharing.newStream_of_move hshown
    by_cases hclose : .close ∈ before
    · rw [hafter before hclose]
      exact ⟨_, rfl⟩
    · rw [hbefore before hclose]
      exact hbody

/-- A service with an object that has a body, and one that has none. -/
def halfEmpty : Session Scripted.Stage where
  outside := { entries := [
    ⟨⟨"images", "a.gif"⟩, .object { data := none }⟩,
    ⟨⟨"images", "b.gif"⟩, .object { data := some [1, 2, 3] }⟩] }

/-- The source of the object that has a body gives it whatever is done, and the other one does not
always give a stream or fail as it should. -/
theorem gives_stream_iff_halfEmpty :
    (∃ source, ((Scripted.direct "b.gif").openStream Resolver.serviced halfEmpty).result =
        .ok source ∧
      let start : Sharing Scripted.Stage :=
        ⟨source, [], ((Scripted.direct "b.gif").openStream Resolver.serviced halfEmpty).session⟩
      ∀ ms x, .stream x ∈ start.shown ms → IsStreamOrFailure x) ∧
    ∃ source, ((Scripted.direct "a.gif").openStream Resolver.serviced halfEmpty).result =
        .ok source ∧
      let start : Sharing Scripted.Stage :=
        ⟨source, [], ((Scripted.direct "a.gif").openStream Resolver.serviced halfEmpty).session⟩
      ((start.run [.read]).move .newStream).1 = .stream (.ok none) ∧
      ((start.run [.newStream, .close]).move .read).1 =
        .bytes none (.error ContentSource.closedFailure) := by
  constructor
  · have hl : ((Scripted.direct "b.gif").location Resolver.serviced halfEmpty).result =
        .ok ⟨"images", "b.gif"⟩ := rfl
    obtain ⟨source, hsource, -, -, hiff⟩ :=
      gives_stream_iff (c := ⟨0, Scripted.getObject⟩) hl rfl rfl
    exact ⟨source, hsource, hiff.2 rfl⟩
  · have hl : ((Scripted.direct "a.gif").location Resolver.serviced halfEmpty).result =
        .ok ⟨"images", "a.gif"⟩ := rfl
    obtain ⟨source, hsource, hclosed, hopen, -⟩ :=
      gives_stream_iff (c := ⟨0, Scripted.getObject⟩) hl rfl rfl
    exact ⟨source, hsource, (hopen _ (by decide)).1, (hclosed _ (by decide)).2⟩

/-- A source whose object has no body gives no stream, and says that it opened. It is the reading
that fails, and not with an error of the taxonomy. -/
theorem bodiless_gives_no_stream :
    ∃ source, ((Scripted.direct "a.gif").openStream Resolver.serviced halfEmpty).result =
        .ok source ∧
      let session := ((Scripted.direct "a.gif").openStream Resolver.serviced halfEmpty).session
      (source.newStream session).result = .ok none ∧
      (source.read session).result = .error ⟨.noMember "NoneType" "read", []⟩ ∧
      (Fault.noMember "NoneType" "read").kind? = none :=
  ⟨_, rfl, rfl, rfl, rfl⟩

end S3

end ObjectLookup
