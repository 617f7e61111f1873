import ObjectLookup.S3.Object

/-! # Objects that play back their data

A body says what can be known of an object: its data, how much one read returns, after how many
reads it fails, and what opening and closing it fail with. A stream plays a body if each read
returns the next bytes of it, until the fault of the body is due (`Stream.Plays`); a handle serves a
body if it opens such a stream (`Handle.Serves`). Nothing is said about how a store keeps the
object: the two predicates on states stand for whatever matters of it.

A reader who asks for `n` bytes at a time knows that it has seen everything when a read returns
nothing, and that takes `Body.readsFor n` reads.
-/

namespace ObjectLookup

variable {σ : Type}

/-- What can be known of an object that has a body. -/
structure Body where
  data : List UInt8
  /-- The most that a sized read returns. -/
  limit : Option Nat := none
  /-- Reads fail once the given number of them have succeeded. -/
  readFault : Option (Nat × Failure) := none
  openFault : Option Failure := none
  /-- What closing the stream fails with. -/
  streamFault : Option Failure := none
  /-- What closing the handle fails with. -/
  handleFault : Option Failure := none

/-- The result of an action that fails with the failure, if there is one. -/
def Failure.raised : Option Failure → Except Failure Unit
  | some e => .error e
  | none => .ok ()

theorem Failure.raised_bind_eq_ok {e : Option Failure} {x : Except Failure Unit} :
    ((Failure.raised e).bind fun _ ↦ x) = .ok () ↔ e = none ∧ x = .ok () := by
  cases e with
  | none => exact ⟨fun h ↦ ⟨rfl, h⟩, fun h ↦ h.2⟩
  | some e => exact iff_of_false nofun nofun

namespace Body

variable (b : Body)

/-- The most that a read of `n` bytes returns. -/
def chunk (n : Nat) : Nat := b.limit.elim n (min n)

/-- How many reads of `n` bytes it takes to come to the end of `length` bytes and to see it: a chunk
for each but the last, which returns nothing. -/
def readsFor (n length : Nat) : Nat := (length + b.chunk n - 1) / b.chunk n + 1

/-- What a read fails with that comes after `reads` successful ones. -/
def faultAt (reads : Nat) : Option Failure :=
  match b.readFault with
  | some (after, e) => if after ≤ reads then some e else none
  | none => none

/-- One of the first `reads` reads fails. -/
def FailsWithin (reads : Nat) : Prop := ∃ n e, b.readFault = some (n, e) ∧ n < reads

variable {b}

theorem chunk_pos (hlimit : b.limit ≠ some 0) {n : Nat} (hn : 0 < n) : 0 < b.chunk n := by
  rcases h : b.limit with _ | m
  · simpa [chunk, h] using hn
  · have hm : m ≠ 0 := by
      rintro rfl
      exact hlimit h
    simp only [chunk, h, Option.elim]
    omega

/-- Even where there is nothing it takes a read to see that. -/
theorem readsFor_pos (b : Body) (n length : Nat) : 0 < b.readsFor n length := Nat.succ_pos _

theorem readsFor_zero {n : Nat} (h : 0 < b.chunk n) : b.readsFor n 0 = 1 := by
  have hdiv : (0 + b.chunk n - 1) / b.chunk n = 0 := Nat.div_eq_of_lt (by omega)
  rw [readsFor, hdiv]

/-- A read that returns anything is one of those that it takes. -/
theorem readsFor_eq_succ {n length : Nat} (h : 0 < b.chunk n) (hl : 0 < length) :
    b.readsFor n length = b.readsFor n (length - b.chunk n) + 1 := by
  by_cases hle : b.chunk n ≤ length
  · have hsum : length + b.chunk n - 1 = length - b.chunk n + b.chunk n - 1 + b.chunk n := by omega
    rw [readsFor, readsFor, hsum, Nat.add_div_right _ h]
  · have hdiv : (length + b.chunk n - 1) / b.chunk n = 1 := by
      rw [Nat.div_eq_iff h]
      omega
    rw [Nat.sub_eq_zero_of_le (by omega), readsFor_zero h, readsFor, hdiv]

/-- There is at least one byte in each chunk. -/
theorem readsFor_le (b : Body) (n length : Nat) : b.readsFor n length ≤ length + 1 := by
  rcases Nat.eq_zero_or_pos (b.chunk n) with h | h
  · simp [readsFor, h]
  · rcases length with _ | m
    · exact Nat.le_of_eq (readsFor_zero h)
    · have hsum : m + 1 + b.chunk n - 1 = m + b.chunk n := by omega
      have hdiv : m / b.chunk n ≤ m := Nat.div_le_self m _
      rw [readsFor, hsum, Nat.add_div_right _ h]
      omega

theorem exists_of_faultAt {reads : Nat} {e : Failure} (h : b.faultAt reads = some e) :
    ∃ n, b.readFault = some (n, e) ∧ n ≤ reads := by
  unfold faultAt at h
  split at h
  · rename_i n e' hf
    split at h
    · rename_i hle
      cases h
      exact ⟨n, hf, hle⟩
    · cases h
  · cases h

theorem lt_of_faultAt_eq_none {reads n : Nat} {e : Failure} (h : b.faultAt reads = none)
    (hf : b.readFault = some (n, e)) : reads < n := by
  simp only [faultAt, hf] at h
  split at h
  · cases h
  · omega

end Body

/-- The stream plays the body. `Held` holds of the states of the outside in which the object is
there, and `At rest reads` of those in which, moreover, its stream has `rest` left after `reads`
successful reads. -/
structure Stream.Plays (stream : Stream σ) (b : Body) (Held : σ → Prop)
    (At : List UInt8 → Nat → σ → Prop) : Prop where
  held : ∀ {rest reads o}, At rest reads o → Held o
  read : ∀ {rest reads o} (n), At rest reads o → b.faultAt reads = none →
    ∃ o', stream.read (some n) o = (.ok (rest.take (b.chunk n)), o') ∧
      At (rest.drop (b.chunk n)) (reads + 1) o'
  read_fails : ∀ {rest reads o e} (n), At rest reads o → b.faultAt reads = some e →
    ∃ o', stream.read (some n) o = (.error e, o') ∧ At rest reads o'
  remaining : ∀ {rest reads o} (n), At rest reads o →
    b.readsFor n rest.length ≤ stream.remaining o + 1
  close : ∀ {o}, Held o → ∃ o', stream.close o = (Failure.raised b.streamFault, o') ∧ Held o'

/-- In the state `o` the handle serves the body: it opens a stream that plays it from the start, or
fails to, and it can be closed at any time. -/
def Handle.Serves (h : Handle σ) (b : Body) (o : σ) : Prop :=
  ∃ (Held : σ → Prop) (At : List UInt8 → Nat → σ → Prop),
    (∀ o, Held o → (h.close o).1 = Failure.raised b.handleFault) ∧
    (∀ e, b.openFault = some e → ∃ o', h.stream o = (.error e, o') ∧ Held o') ∧
    (b.openFault = none → ∃ stream o', h.stream o = (.ok (some stream), o') ∧ At b.data 0 o' ∧
      stream.Plays b Held At)

/-- An S3 object that has not been closed serves what its stream plays, and closing it closes the
stream. -/
theorem S3.Object.serves_handle {x : S3.Object σ} {stream : Stream σ} {b : Body}
    {Held : σ → Prop} {At : List UInt8 → Nat → σ → Prop} {o : σ} (hx : x.closed = false)
    (hbody : x.response.body = some stream) (hplays : stream.Plays b Held At)
    (hopen : b.openFault = none) (hclose : b.handleFault = b.streamFault) (ho : At b.data 0 o) :
    x.handle.Serves b o := by
  refine ⟨Held, At, ?_, fun e he ↦ absurd (hopen.symm.trans he) nofun, fun _ ↦ ?_⟩
  · intro o ho
    obtain ⟨o', hclosed, _⟩ := hplays.close ho
    have heq : x.handle.close = stream.close := by
      simp only [handle, Handle.close, close, hx, hbody]
    rw [heq, hclosed, hclose]
  · refine ⟨stream, o, ?_, ho, hplays⟩
    simp only [handle, Handle.stream, openBody, hx, hbody]
    rfl

end ObjectLookup
