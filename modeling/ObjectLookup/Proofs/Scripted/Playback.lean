import ObjectLookup.Proofs.Scripted.Store
import ObjectLookup.Proofs.Storage.Playback

/-! # Scripted objects serve their bodies

The stream of a scripted object plays the data of the object, with its limit and its faults
(`plays_stream`), and the handle of one that has just been fetched serves it (`serves_handle`). The
handle closes the stream first, so that it fails with the fault of the body if there is one.
-/

namespace ObjectLookup.Scripted

open Act

variable {i : Nat} {x : StoredObject} {f : Fetched} {o : Stage}

/-- What can be known of a stored object that has data. -/
def StoredObject.body (x : StoredObject) : Body where
  data := x.data.getD []
  limit := x.maxChunk
  readFault := x.faults.read
  openFault := x.faults.openStream
  streamFault := x.faults.bodyClose
  handleFault := x.faults.bodyClose.or x.faults.close

/-- The object was fetched as number `i`. -/
def IsHeld (i : Nat) (x : StoredObject) (o : Stage) : Prop :=
  ∃ f, o.fetched[i]? = some f ∧ f.object = x

/-- The stream of number `i` has `rest` left after so many reads, and is open. -/
def IsAt (i : Nat) (x : StoredObject) (rest : List UInt8) (reads : Nat) (o : Stage) : Prop :=
  ∃ f, o.fetched[i]? = some f ∧ f.object = x ∧ f.rest = rest ∧ f.reads = reads ∧
    f.streamClosed = false

theorem raise?_apply (e : Option Failure) (o : Stage) : raise? e o = (Failure.raised e, o) := by
  cases e <;> rfl

theorem getElem?_change (h : o.fetched[i]? = some f) (g : Fetched → Fetched) :
    (o.change i g).fetched[i]? = some (g f) := by
  simp only [Stage.change, List.getElem?_modify_eq, h]
  rfl

/-- A read of an open stream fails if its fault is due, and else returns the next chunk. -/
theorem readStream_apply (h : o.fetched[i]? = some f) (hopen : f.streamClosed = false)
    (n : Nat) : readStream i (some n) o = match f.object.body.faultAt f.reads with
      | some e => (.error e, o)
      | none => (.ok (f.rest.take (f.object.body.chunk n)), o.change i fun g ↦
          { g with reads := g.reads + 1, rest := g.rest.drop (f.object.body.chunk n) }) := by
  have hchunk : chunkSize f.object f.rest (some n) = f.object.body.chunk n := by
    rcases hm : f.object.maxChunk with _ | m <;>
      simp [chunkSize, Body.chunk, StoredObject.body, hm]
  rw [readStream, bind_apply, fetchedObject_apply h]
  simp only [hopen, Bool.false_eq_true, if_false, hchunk]
  rcases hr : f.object.faults.read with _ | ⟨after, e⟩ <;>
    simp only [Body.faultAt, StoredObject.body, hr]
  · rfl
  · by_cases hle : after ≤ f.reads <;> simp only [hle, if_true, if_false] <;> rfl

theorem closeStream_apply (h : o.fetched[i]? = some f) : closeStream i o =
    (Failure.raised f.object.faults.bodyClose,
      o.change i fun g ↦ { g with streamClosed := true }) := by
  rw [closeStream, bind_apply, fetchedObject_apply h]
  change raise? f.object.faults.bodyClose _ = _
  rw [raise?_apply]

theorem fst_closeHandle (h : IsHeld i x o) :
    (closeHandle i o).1 = Failure.raised x.body.handleFault := by
  obtain ⟨f, hf, rfl⟩ := h
  let counted := o.change i fun f ↦ { f with closes := f.closes + 1 }
  have hcounted : counted.fetched[i]? = some { f with closes := f.closes + 1 } :=
    getElem?_change hf _
  rw [closeHandle, bind_apply, fetchedObject_apply hf]
  change ((closeStream i >>= fun _ ↦ raise? f.object.faults.close) counted).1 = _
  rw [bind_apply, closeStream_apply hcounted]
  rcases hb : f.object.faults.bodyClose with _ | e <;>
    simp only [Failure.raised, StoredObject.body, hb, Option.or, raise?_apply]

/-- The stream of an object that was fetched plays its body. -/
theorem plays_stream (i : Nat) (x : StoredObject) :
    (stream i).Plays x.body (IsHeld i x) (IsAt i x) where
  held := fun ⟨f, hf, hx, _⟩ ↦ ⟨f, hf, hx⟩
  read := by
    rintro _ _ o n ⟨f, hf, rfl, rfl, rfl, hopen⟩ hfault
    have hread := readStream_apply hf hopen n
    rw [hfault] at hread
    exact ⟨_, hread, _, getElem?_change hf _, rfl, rfl, rfl, hopen⟩
  read_fails := by
    rintro _ _ o e n ⟨f, hf, rfl, rfl, rfl, hopen⟩ hfault
    have hread := readStream_apply hf hopen n
    rw [hfault] at hread
    exact ⟨o, hread, f, hf, rfl, rfl, rfl, hopen⟩
  remaining := by
    rintro _ _ o n ⟨f, hf, rfl, rfl, rfl, _⟩
    have hremaining : (stream i).remaining o = f.rest.length := by
      simp only [stream, remaining, hf]
      rfl
    rw [hremaining]
    exact Body.readsFor_le _ n _
  close := by
    rintro o ⟨f, hf, rfl⟩
    exact ⟨_, closeStream_apply hf, _, getElem?_change hf _, rfl⟩

/-- The handle of an object that has just been fetched serves its body. -/
theorem serves_handle (h : o.fetched[i]? = some x.fetched) : (handle i).Serves x.body o := by
  let opened := o.change i fun f ↦ { f with opens := f.opens + 1 }
  have hopened : opened.fetched[i]? = some { x.fetched with opens := 1 } := getElem?_change h _
  have hopen : (handle i).stream o =
      (raise? x.faults.openStream >>= fun _ ↦ pure (some (stream i))) opened := by
    change openHandle i false o = _
    rw [openHandle, bind_apply, fetchedObject_apply h]
    rfl
  rw [bind_apply, raise?_apply] at hopen
  refine ⟨IsHeld i x, IsAt i x, fun o ho ↦ fst_closeHandle ho, ?_, ?_⟩
  · intro e he
    rw [show x.faults.openStream = some e from he] at hopen
    exact ⟨opened, hopen, _, hopened, rfl⟩
  · intro he
    rw [show x.faults.openStream = none from he] at hopen
    exact ⟨stream i, opened, hopen, ⟨_, hopened, rfl, rfl, rfl, rfl⟩, plays_stream i x⟩

end ObjectLookup.Scripted
