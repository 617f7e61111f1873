import ObjectLookup.Proofs.Resolver.Course
import ObjectLookup.Proofs.S3.Classification
import ObjectLookup.Proofs.Scripted.Playback
import ObjectLookup.Proofs.Storage.Watched

/-! # Closing scripted objects

The stream of a scripted object is closed by closing a handle of it, be it the store's own or one of
a service's response with the stream as its body, whatever else comes of that (`closed_of_close`).
No other use of the handle takes the object away (`useKeeps_of_isHandleOf`). The clients of the
stage hand out no other handles, save those of responses without a body (`isHandleOf_of_fetch`).
-/

namespace ObjectLookup

namespace S3

variable {σ : Type}

/-- Closing a handle of a response closes its body, and does nothing else. -/
theorem Object.close_handle {l : Location} {response : Response σ} {body : Stream σ}
    (hb : response.body = some body) :
    (Object.handle ⟨l, response, false⟩).close = body.close := by
  simp only [Handle.close, Object.handle, Object.close, hb]

end S3

namespace Scripted

open Act

variable {k : Nat} {h : Handle Stage} {o : Stage}

/-- An object was fetched as number `k`. -/
def IsFetched (k : Nat) (o : Stage) : Prop := ∃ f, o.fetched[k]? = some f

/-- The stream of the object that was fetched as number `k` is closed. -/
def IsClosed (k : Nat) (o : Stage) : Prop := ∃ f, o.fetched[k]? = some f ∧ f.streamClosed = true

/-- The handle is one of the object that was fetched as number `k`: the store's own, or one of a
response that has the stream of the object as its body. -/
inductive IsHandleOf (k : Nat) : Handle Stage → Prop where
  | own : IsHandleOf k (handle k)
  | response {l : Location} {response : S3.Response Stage} (hb : response.body = some (stream k)) :
      IsHandleOf k (S3.Object.handle ⟨l, response, false⟩)

/-! ## Fetching -/

/-- A client for the objects of the stage: the store's own, or one of a service that has them. -/
inductive IsClient : Client Stage → Prop where
  | own (n : Nat) : IsClient (client n)
  | service (n : Nat) : IsClient (S3.Connection.client ⟨n, getObject⟩)

theorem isFetched_concat (x : Fetched) (o : Stage) :
    IsFetched o.fetched.length { o with fetched := o.fetched ++ [x] } :=
  ⟨x, List.getElem?_concat_length⟩

/-- The body of a response is the stream of the object that was fetched for it. -/
theorem body_of_getObject {l : Location} {response : S3.Response Stage} {p : Stage}
    (h : getObject l o = (.ok response, p)) :
    response.body = none ∨ ∃ k, response.body = some (stream k) ∧ IsFetched k p := by
  have hget : (get : Act Stage Stage) o = (.ok o, o) := rfl
  rw [getObject, bind_apply, hget] at h
  rcases hr : o.reply? l with _ | x | e <;> simp only [hr] at h
  · cases h
  · rcases hd : x.data with _ | data <;> simp only [hd] at h <;> cases h
    · exact .inl rfl
    · exact .inr ⟨_, rfl, isFetched_concat x.fetched o⟩
  · cases h

/-- What a client hands out is a handle of an object that it has fetched, unless it is one of a
response without a body. -/
theorem isHandleOf_of_fetch {c : Client Stage} (hc : IsClient c) {l : Location} {p : Stage}
    (hh : c.fetch l o = (.ok h, p)) :
    (∃ k, IsHandleOf k h ∧ IsFetched k p) ∨
      ∃ response, response.body = none ∧ h = S3.Object.handle ⟨l, response, false⟩ := by
  cases hc with
  | own n =>
      change fetch l o = _ at hh
      rw [fetch_apply] at hh
      rcases hr : o.reply? l with _ | x | e <;> rw [hr] at hh <;> cases hh
      exact .inl ⟨_, .own, isFetched_concat x.fetched o⟩
  | service n =>
      rw [S3.fetch_client_apply] at hh
      rcases hg : getObject l o with ⟨e | response, p'⟩ <;> simp only [hg] at hh <;> cases hh
      rcases body_of_getObject hg with hb | ⟨k, hb, hk⟩
      · exact .inr ⟨response, hb, rfl⟩
      · exact .inl ⟨k, .response hb, hk⟩

/-! ## Closing -/

/-- What an action does alike to an object under its one number keeps the object. -/
theorem keeps_of_alike {α : Type} {R : α → α → Prop} {a : Act Stage α}
    (ha : Alike (SameObject k k) R a a) : Keeps (IsFetched k) a := by
  rintro o ⟨f, hf⟩
  obtain ⟨_, f', hf', _⟩ := ha o o ⟨f, hf, hf⟩
  exact ⟨f', hf'⟩

theorem keeps_readStream_fetched (k : Nat) (size : Option Nat) :
    Keeps (IsFetched k) ((stream k).read size) := keeps_of_alike (alike_readStream (tracks_sameObject k k) size)

theorem keeps_closeStream_fetched (k : Nat) : Keeps (IsFetched k) (stream k).close :=
  keeps_of_alike (alike_closeStream (tracks_sameObject k k))

/-- A handle of the store opens the stream of its object. -/
theorem eq_stream_of_openHandle {x : Stream Stage}
    (hx : (openHandle k false o).1 = .ok (some x)) : x = stream k := by
  rcases he : (fetchedObject k o).1 with e | f
  · cases he
  · have hopen : openHandle k false o = (raise? f.object.faults.openStream >>= fun _ ↦
        pure (some (stream k))) (o.change k fun f ↦ { f with opens := f.opens + 1 }) := by
      cases he
      rfl
    rw [hopen, bind_apply, raise?_apply] at hx
    rcases hraise : f.object.faults.openStream with _ | e <;> rw [hraise] at hx <;> cases hx
    rfl

theorem useKeeps_of_isHandleOf (hh : IsHandleOf k h) : h.UseKeeps (IsFetched k) := by
  have hopened (o : Stage) (x : Stream Stage) (hx : (h.stream o).1 = .ok (some x)) :
      x = stream k := by
    cases hh with
    | own => exact eq_stream_of_openHandle hx
    | response hb =>
        change Except.ok _ = _ at hx
        rw [hb] at hx
        cases hx
        rfl
  constructor
  · cases hh with
    | own => exact keeps_of_alike (alike_openHandle (tracks_sameObject k k) false)
    | response => exact fun _ ho ↦ ho
  · intro o x hx size
    rw [hopened o x hx]
    exact keeps_readStream_fetched k size
  · intro o x hx
    rw [hopened o x hx]
    exact keeps_closeStream_fetched k

theorem keeps_contentType_of_isHandleOf (hh : IsHandleOf k h) :
    Keeps (IsFetched k) h.contentType := by
  cases hh with
  | own => exact keeps_of_alike (alike_contentType (tracks_sameObject k k))
  | response => exact fun _ ho ↦ ho

theorem closed_of_closeStream (ho : IsFetched k o) : IsClosed k (closeStream k o).2 := by
  obtain ⟨f, hf⟩ := ho
  rw [closeStream_apply hf]
  exact ⟨_, getElem?_change hf _, rfl⟩

/-- Whatever a handle fails to close with, its stream is closed then. -/
theorem closed_of_close (hh : IsHandleOf k h) (ho : IsFetched k o) : IsClosed k (h.close o).2 := by
  cases hh with
  | own =>
      obtain ⟨f, hf⟩ := ho
      let counted := o.change k fun f ↦ { f with closes := f.closes + 1 }
      have hcounted : IsFetched k counted := ⟨_, getElem?_change hf _⟩
      have hclose : (handle k).close o =
          (closeStream k >>= fun _ ↦ raise? f.object.faults.close) counted := by
        change closeHandle k o = _
        rw [closeHandle, bind_apply, fetchedObject_apply hf]
        rfl
      have hclosed := closed_of_closeStream hcounted
      rw [hclose, bind_apply]
      rcases hc : closeStream k counted with ⟨e | ⟨⟩, o'⟩ <;> rw [hc] at hclosed
      · exact hclosed
      · simp only [raise?_apply]
        exact hclosed
  | response hb =>
      rw [S3.Object.close_handle hb]
      exact closed_of_closeStream ho

/-- What is left of a handle after its access is checked, or its format is determined. -/
theorem closed_of_after (hh : IsHandleOf k h) (ho : IsFetched k o) {q : Question}
    (hq : q = .checkAccess ∨ q = .resolveFormat) : IsClosed k (h.after q o) := by
  rcases hq with rfl | rfl
  · exact closed_of_close hh ho
  · exact closed_of_close hh (keeps_contentType_of_isHandleOf hh o ho)

end Scripted

end ObjectLookup
