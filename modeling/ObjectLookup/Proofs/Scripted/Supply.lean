import ObjectLookup.Proofs.Scripted.Playback
import ObjectLookup.Proofs.Storage.Supply

/-! # Scripted objects hand out their data

Whatever faults a scripted object has, and however little one read returns: what its stream returns
is the front of what it has left (`yields_stream`), and its handle gives that stream or fails
(`offers_handle`).
-/

namespace ObjectLookup.Scripted

open Act

variable {i : Nat} {f : Fetched} {o : Stage}

/-- The object that was fetched as number `i` has `rest` left. -/
def IsLeft (i : Nat) (rest : List UInt8) (o : Stage) : Prop :=
  ∃ f, o.fetched[i]? = some f ∧ f.rest = rest

theorem isLeft_change {rest : List UInt8} {g : Fetched → Fetched} (hg : ∀ f, (g f).rest = f.rest)
    (ho : IsLeft i rest o) : IsLeft i rest (o.change i g) := by
  obtain ⟨f, hf, rfl⟩ := ho
  exact ⟨g f, getElem?_change hf g, hg f⟩

theorem keeps_closeStream_left (i : Nat) (rest : List UInt8) :
    Keeps (IsLeft i rest) (closeStream i) := by
  rintro o ⟨f, hf, rfl⟩
  rw [closeStream_apply hf]
  exact isLeft_change (fun _ ↦ rfl) ⟨f, hf, rfl⟩

/-- A read fails and changes nothing, or it takes its bytes. -/
theorem readStream_cases (hf : o.fetched[i]? = some f) (size : Option Nat) :
    (∃ e, readStream i size o = (.error e, o)) ∨
      readStream i size o = (.ok (f.rest.take (chunkSize f.object f.rest size)), o.change i fun g ↦
        { g with
          reads := g.reads + 1, rest := g.rest.drop (chunkSize f.object f.rest size) }) := by
  rw [readStream, bind_apply, fetchedObject_apply hf]
  rcases hopen : f.streamClosed with _ | _
  · simp only [hopen, Bool.false_eq_true, if_false]
    rcases hr : f.object.faults.read with _ | ⟨after, e⟩
    · exact .inr rfl
    · by_cases hle : after ≤ f.reads
      · simp only [hle, if_true]
        exact .inl ⟨e, rfl⟩
      · simp only [hle, if_false]
        exact .inr rfl
  · simp only [hopen, if_true]
    exact .inl ⟨_, rfl⟩

theorem yields_stream (i : Nat) : (stream i).Yields (IsLeft i) where
  read := by
    rintro _ bytes o o' size ⟨f, hf, rfl⟩ hread
    change readStream i size o = _ at hread
    rcases readStream_cases hf size with ⟨e, heq⟩ | heq <;> rw [heq] at hread <;> cases hread
    refine ⟨f.rest.drop (chunkSize f.object f.rest size), ?_, ?_, ?_⟩
    · exact (List.take_append_drop _ _).symm
    · exact ⟨_, getElem?_change hf _, rfl⟩
    · rintro rfl
      exact List.drop_length
  read_fails := by
    rintro _ o o' size e ⟨f, hf, rfl⟩ hread
    change readStream i size o = _ at hread
    rcases readStream_cases hf size with ⟨e', heq⟩ | heq <;> rw [heq] at hread <;> cases hread
    exact ⟨f, hf, rfl⟩
  close := keeps_closeStream_left i

/-- The stage once the handle was asked for its stream. -/
def Stage.asked (i : Nat) (o : Stage) : Stage := o.change i fun f ↦ { f with opens := f.opens + 1 }

/-- An opening fails, or it gives the stream. -/
theorem stream_handle_cases (hf : o.fetched[i]? = some f) :
    (∃ e, (handle i).stream o = (.error e, o.asked i)) ∨
      (handle i).stream o = (.ok (some (stream i)), o.asked i) := by
  have hopen : (handle i).stream o =
      (raise? f.object.faults.openStream >>= fun _ ↦ pure (some (stream i))) (o.asked i) := by
    change openHandle i false o = _
    rw [openHandle, bind_apply, fetchedObject_apply hf]
    rfl
  rw [bind_apply, raise?_apply] at hopen
  rcases hfault : f.object.faults.openStream with _ | e <;> rw [hfault] at hopen
  · exact .inr hopen
  · exact .inl ⟨e, hopen⟩

theorem keeps_closeHandle_left (i : Nat) (rest : List UInt8) :
    Keeps (IsLeft i rest) (closeHandle i) :=
  (keeps_fetchedObject i).bind fun _ ↦
    Keeps.bind (Keeps.modify fun _ ↦ isLeft_change fun _ ↦ rfl) fun _ ↦
      (keeps_closeStream_left i rest).bind fun _ ↦ keeps_raise? _

theorem offers_handle (i : Nat) (data : List UInt8) : (handle i).Offers data (IsLeft i) where
  stream := by
    rintro o o' x ho hopen
    have hkept : IsLeft i data (o.asked i) := isLeft_change (fun _ ↦ rfl) ho
    obtain ⟨f, hf, -⟩ := ho
    rcases stream_handle_cases hf with ⟨e, heq⟩ | heq <;> rw [heq] at hopen <;> cases hopen
    exact ⟨hkept, stream i, rfl, yields_stream i⟩
  stream_fails := by
    rintro o o' e ho hopen
    have hkept : IsLeft i data (o.asked i) := isLeft_change (fun _ ↦ rfl) ho
    obtain ⟨f, hf, -⟩ := ho
    rcases stream_handle_cases hf with ⟨e', heq⟩ | heq <;> rw [heq] at hopen <;> cases hopen
    exact hkept
  release rest _ := keeps_closeHandle_left i rest

end ObjectLookup.Scripted
