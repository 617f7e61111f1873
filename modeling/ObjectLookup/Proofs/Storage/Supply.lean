import ObjectLookup.S3.Object
import ObjectLookup.Proofs.Storage.Act

/-! # Objects that hand out their data in portions

What a user may rely on who does not know how a store keeps an object. A predicate says what is left
of the object in a state of the outside. A read takes its bytes from the front of what is left, in
a portion that is for the stream to choose, or all of it if no size is given; a read that fails
takes nothing (`Stream.Yields`). A handle offers data if it opens such a stream, when it does not
fail to, and if nothing but reading takes anything away (`Handle.Offers`). An S3 object offers what
its body yields.
-/

namespace ObjectLookup

variable {σ : Type}

/-- `At rest` holds of the states of the outside in which the stream has `rest` left. -/
structure Stream.Yields (stream : Stream σ) (At : List UInt8 → σ → Prop) : Prop where
  read : ∀ {rest bytes o o' size}, At rest o → stream.read size o = (.ok bytes, o') →
    ∃ left, rest = bytes ++ left ∧ At left o' ∧ (size = none → left = [])
  read_fails : ∀ {rest o o' size e}, At rest o → stream.read size o = (.error e, o') → At rest o'
  close : ∀ rest, Act.Keeps (At rest) stream.close

/-- Where all of the data is left, the handle opens a stream that yields it, unless it fails to. -/
structure Handle.Offers (h : Handle σ) (data : List UInt8) (At : List UInt8 → σ → Prop) :
    Prop where
  stream : ∀ {o o' x}, At data o → h.stream o = (.ok x, o') →
    At data o' ∧ ∃ stream, x = some stream ∧ stream.Yields At
  stream_fails : ∀ {o o' e}, At data o → h.stream o = (.error e, o') → At data o'
  release : ∀ rest closed, Act.Keeps (At rest) (h.release closed)

/-- An S3 object gives the body that it has, if it has one, until it is closed. -/
theorem S3.Object.stream_handle {x : S3.Object σ} (hx : x.closed = false) (o : σ) :
    x.handle.stream o = (.ok x.response.body, o) := by
  simp only [handle, Handle.stream, openBody, hx]
  rfl

/-- An S3 object with a body offers what the body yields. -/
theorem S3.Object.offers_handle {x : S3.Object σ} {stream : Stream σ} {data : List UInt8}
    {At : List UInt8 → σ → Prop} (hx : x.closed = false) (hbody : x.response.body = some stream)
    (hyields : stream.Yields At) : x.handle.Offers data At where
  stream := by
    intro o o' y ho hy
    rw [stream_handle hx, hbody] at hy
    cases hy
    exact ⟨ho, stream, rfl, hyields⟩
  stream_fails := by
    intro o o' e ho he
    rw [stream_handle hx] at he
    cases he
  release := by
    intro rest closed
    have hrelease : x.handle.release closed = S3.Object.close { x with closed } := rfl
    rw [hrelease, close]
    cases closed with
    | true => exact .pure ()
    | false =>
        simp only [hbody]
        exact hyields.close rest

end ObjectLookup
