import ObjectLookup.Proofs.Storage.Act

/-! # Watched stores

A watched store keeps a ledger beside the outside, with a row for each handle that was fetched. What
is done with the handle, and with the streams that it opens, is entered into the row in order,
before it is known what comes of it. All other actions are performed aside: they change the outside
as they would without a ledger, and leave the ledger as it is.
-/

namespace ObjectLookup

variable {σ α β : Type}

/-- What is done with a handle, or with a stream that it has opened. -/
inductive Touch where
  | contentType | contentLength | openStream | read | closeStream | close
deriving DecidableEq, Repr

/-- A row for each handle, in the order in which they were fetched. -/
abbrev Ledger := List (List Touch)

/-- The ledger with one more touch in a row. -/
def Ledger.enter (i : Nat) (x : Touch) (ledger : Ledger) : Ledger := ledger.modify i (· ++ [x])

/-- The outside of a store, and the ledger. -/
structure Watched (σ : Type) where
  outside : σ
  ledger : Ledger

/-! ## Actions -/

namespace Act

/-- The action, performed without an entry. Its result is put under a function. -/
def aside (f : α → β) (a : Act σ α) : Act (Watched σ) β := .mk fun w ↦
  ((a w.outside).1.map f, { w with outside := (a w.outside).2 })

/-- The action, performed with an entry into a row. -/
def entered (i : Nat) (x : Touch) (f : α → β) (a : Act σ α) : Act (Watched σ) β := .mk fun w ↦
  ((a w.outside).1.map f, ⟨(a w.outside).2, w.ledger.enter i x⟩)

end Act

/-! ## Streams, handles and clients -/

def Stream.watched (i : Nat) (stream : Stream σ) : Stream (Watched σ) where
  number := stream.number
  read size := (stream.read size).entered i .read id
  remaining w := stream.remaining w.outside
  close := stream.close.entered i .closeStream id

/-- The handle with its row. -/
def Handle.watched (i : Nat) (h : Handle σ) : Handle (Watched σ) where
  contentType := h.contentType.entered i .contentType id
  contentLength := h.contentLength.entered i .contentLength id
  openStream closed := (h.openStream closed).entered i .openStream (Option.map (Stream.watched i))
  release closed := (h.release closed).entered i .close id
  closed := h.closed

/-- The row that a fetch begins, if it gives a handle. -/
def Ledger.begun : Except Failure (Handle σ) → Ledger
  | .ok _ => [[]]
  | .error _ => []

/-- The client, whose every handle begins a row. -/
def Client.watched (c : Client σ) : Client (Watched σ) where
  number := c.number
  fetch l := .mk fun w ↦
    ((c.fetch l w.outside).1.map (Handle.watched w.ledger.length),
      ⟨(c.fetch l w.outside).2, w.ledger ++ .begun (c.fetch l w.outside).1⟩)

/-! ## Entries into the last row -/

theorem Ledger.enter_concat (ledger : Ledger) (row : List Touch) (x : Touch) :
    Ledger.enter ledger.length x (ledger ++ [row]) = ledger ++ [row ++ [x]] := by
  induction ledger with
  | nil => rfl
  | cons first ledger ih => exact congrArg (first :: ·) ih

/-! ## Uses of a handle -/

/-- A property that is kept by all uses of a handle but closing it: opening it, reading from the
stream, and closing the stream. -/
structure Handle.UseKeeps (I : σ → Prop) (h : Handle σ) : Prop where
  stream : Act.Keeps I h.stream
  read : ∀ o stream, (h.stream o).1 = .ok (some stream) → ∀ size, Act.Keeps I (stream.read size)
  close : ∀ o stream, (h.stream o).1 = .ok (some stream) → Act.Keeps I stream.close

/-- The ledger has one row more, in which there is no close. -/
def Watched.IsUnclosed (L : Ledger) (w : Watched σ) : Prop :=
  ∃ row, Touch.close ∉ row ∧ w.ledger = L ++ [row]

theorem Watched.keeps_entered {L : Ledger} {x : Touch} (hx : x ≠ .close) (f : α → β)
    (a : Act σ α) : Act.Keeps (IsUnclosed L) (a.entered L.length x f) := by
  rintro w ⟨row, hrow, hledger⟩
  refine ⟨row ++ [x], ?_, ?_⟩
  · simp [hrow, hx.symm]
  · change Ledger.enter L.length x w.ledger = _
    rw [hledger, Ledger.enter_concat]

/-- No use of a handle enters a close but closing it. -/
theorem Handle.useKeeps_watched (h : Handle σ) (L : Ledger) :
    (h.watched L.length).UseKeeps (Watched.IsUnclosed L) := by
  have hopened (w : Watched σ) (stream : Stream (Watched σ))
      (hw : ((h.watched L.length).stream w).1 = .ok (some stream)) :
      ∃ x : Stream σ, stream = x.watched L.length := by
    have hstream : ((h.watched L.length).stream w).1 =
        (h.stream w.outside).1.map (Option.map (Stream.watched L.length)) := rfl
    rw [hstream] at hw
    rcases hx : (h.stream w.outside).1 with e | _ | x <;> rw [hx] at hw <;> cases hw
    exact ⟨x, rfl⟩
  constructor
  · exact Watched.keeps_entered (x := .openStream) nofun _ _
  · intro w stream hw size
    obtain ⟨x, rfl⟩ := hopened w stream hw
    exact Watched.keeps_entered (x := .read) nofun _ _
  · intro w stream hw
    obtain ⟨x, rfl⟩ := hopened w stream hw
    exact Watched.keeps_entered (x := .closeStream) nofun _ _

end ObjectLookup
