import ObjectLookup.ContentSource
import ObjectLookup.Proofs.Storage.Supply

/-! # Content sources that are shared

Several parties share a content source. Each can ask it for its stream, read from a stream that was
given to any of them, close that, have the source read all that is left, or close the source
(`Move`), in any order and as often as it likes.

When a handle is asked for its stream can be seen from outside: a handle with a log puts it down
(`Handle.logged`). Nothing else comes of the log (`Sharing.move_logged`), so that the openings of a
sequence of moves are those in the log that the moves leave behind (`Sharing.openings`).
-/

namespace ObjectLookup

variable {σ : Type}

/-! ## Moves -/

/-- What is done with a content source, or with the stream that it gave as number `k`. -/
inductive Move where
  | newStream
  | readStream (k : Nat) (size : Option Nat)
  | closeStream (k : Nat)
  | read
  | close
deriving DecidableEq, Repr

/-- What a move shows. -/
inductive Shown (σ : Type) where
  | stream (result : Except Failure (Option (Stream σ)))
  /-- What came of reading so many bytes, or all that is left. -/
  | bytes (size : Option Nat) (result : Except Failure (List UInt8))
  | closed (result : Except Failure Unit)
  /-- There is no such stream. -/
  | nothing

namespace Shown

/-- The bytes that were read. -/
def data : Shown σ → List UInt8
  | .bytes _ (.ok bs) => bs
  | _ => []

/-- All the bytes that were read, in order. -/
def received (xs : List (Shown σ)) : List UInt8 := xs.flatMap data

theorem received_append (xs ys : List (Shown σ)) :
    received (xs ++ ys) = received xs ++ received ys := List.flatMap_append

end Shown

/-- A content source, and the streams that it has given so far. -/
structure Sharing (σ : Type) where
  source : ContentSource σ
  given : List (Stream σ) := []
  session : Session σ

namespace Sharing

/-- The source of a handle, before anything is done with it. -/
def ofHandle (h : Handle σ) (s : Session σ) : Sharing σ := ⟨⟨h, none, false⟩, [], s⟩

/-- The streams that a result brings. -/
def streamsOf : Except Failure (Option (Stream σ)) → List (Stream σ)
  | .ok (some stream) => [stream]
  | _ => []

def move (s : Sharing σ) : Move → Shown σ × Sharing σ
  | .newStream =>
    let step := s.source.newStream s.session
    (.stream step.result, ⟨step.self, s.given ++ streamsOf step.result, step.session⟩)
  | .readStream k size =>
    match s.given[k]? with
    | some stream =>
      let step := s.session.perform (stream.read size)
      (.bytes size step.1, { s with session := step.2 })
    | none => (.nothing, s)
  | .closeStream k =>
    match s.given[k]? with
    | some stream =>
      let step := s.session.perform stream.close
      (.closed step.1, { s with session := step.2 })
    | none => (.nothing, s)
  | .read =>
    let step := s.source.read s.session
    (.bytes none step.result, ⟨step.self, s.given, step.session⟩)
  | .close =>
    let step := s.source.close s.session
    (.closed step.result, ⟨step.self, s.given, step.session⟩)

/-- What becomes of the source under a sequence of moves. -/
def run (s : Sharing σ) (ms : List Move) : Sharing σ := ms.foldl (fun s m ↦ (s.move m).2) s

/-- What a sequence of moves shows. -/
def shown (s : Sharing σ) : List Move → List (Shown σ)
  | [] => []
  | m :: ms => (s.move m).1 :: shown (s.move m).2 ms

variable {s : Sharing σ}

@[simp] theorem run_nil (s : Sharing σ) : s.run [] = s := rfl

@[simp] theorem run_cons (s : Sharing σ) (m : Move) (ms : List Move) :
    s.run (m :: ms) = (s.move m).2.run ms := rfl

theorem run_append (s : Sharing σ) (ms ms' : List Move) :
    s.run (ms ++ ms') = (s.run ms).run ms' := List.foldl_append

theorem shown_append (s : Sharing σ) (ms ms' : List Move) :
    s.shown (ms ++ ms') = s.shown ms ++ (s.run ms).shown ms' := by
  induction ms generalizing s with
  | nil => rfl
  | cons m ms ih => simp only [List.cons_append, shown, ih, run_cons]

/-- What is shown is shown by one of the moves, after those before it. -/
theorem exists_of_mem_shown {ms : List Move} {x : Shown σ} (hx : x ∈ s.shown ms) :
    ∃ before m after, ms = before ++ m :: after ∧ ((s.run before).move m).1 = x := by
  induction ms generalizing s with
  | nil => cases hx
  | cons m ms ih =>
      rcases List.mem_cons.1 hx with rfl | hx
      · exact ⟨[], m, ms, rfl, rfl⟩
      · obtain ⟨before, m', after, rfl, hshown⟩ := ih hx
        exact ⟨m :: before, m', after, rfl, hshown⟩

end Sharing

/-! ## What an opening can come to -/

namespace ContentSource

variable {c : ContentSource σ} {s : Session σ}

theorem newStream_of_some {stream : Stream σ} (hc : c.closed = false)
    (hstream : c.stream = some stream) (s : Session σ) :
    c.newStream s = ⟨.ok (some stream), c, s⟩ := by
  simp [newStream, hc, hstream]

theorem newStream_of_error {e : Failure} {o : σ} (hc : c.closed = false) (hstream : c.stream = none)
    (hopen : c.handle.stream s.outside = (.error e, o)) :
    c.newStream s = ⟨.error (openFailure e), c, { s with outside := o }⟩ := by
  simp [newStream, hc, hstream, Session.perform, hopen]

theorem newStream_of_ok {stream : Option (Stream σ)} {o : σ} (hc : c.closed = false)
    (hstream : c.stream = none) (hopen : c.handle.stream s.outside = (.ok stream, o)) :
    c.newStream s = ⟨.ok stream, { c with stream }, { s with outside := o }⟩ := by
  simp [newStream, hc, hstream, Session.perform, hopen]

/-- A source that is closed gives no stream, and one that has its stream gives that one. Else the
handle is asked, and what it gives is kept. -/
theorem newStream_cases (c : ContentSource σ) (s : Session σ) :
    (c.closed = true ∧ c.newStream s = ⟨.error closedFailure, c, s⟩) ∨
    (c.closed = false ∧ ∃ stream, c.stream = some stream ∧
      c.newStream s = ⟨.ok (some stream), c, s⟩) ∨
    (c.closed = false ∧ c.stream = none ∧ ∃ e o, c.handle.stream s.outside = (.error e, o) ∧
      c.newStream s = ⟨.error (openFailure e), c, { s with outside := o }⟩) ∨
    (c.closed = false ∧ c.stream = none ∧ ∃ stream o, c.handle.stream s.outside = (.ok stream, o) ∧
      c.newStream s = ⟨.ok stream, { c with stream }, { s with outside := o }⟩) := by
  by_cases hc : c.closed = true
  · exact .inl ⟨hc, newStream_of_closed hc s⟩
  · have hc : c.closed = false := Bool.eq_false_iff.2 hc
    rcases hstream : c.stream with _ | stream
    · rcases hopen : c.handle.stream s.outside with ⟨e | stream, o⟩
      · exact .inr (.inr (.inl ⟨hc, rfl, e, o, rfl, newStream_of_error hc hstream hopen⟩))
      · exact .inr (.inr (.inr ⟨hc, rfl, stream, o, rfl, newStream_of_ok hc hstream hopen⟩))
    · exact .inr (.inl ⟨hc, stream, rfl, newStream_of_some hc hstream s⟩)

theorem result_newStream_of_none (hc : c.closed = false) (hstream : c.stream = none) :
    (c.newStream s).result = (c.handle.stream s.outside).1.mapError openFailure := by
  rcases hopen : c.handle.stream s.outside with ⟨e | stream, o⟩
  · rw [newStream_of_error hc hstream hopen]
    rfl
  · rw [newStream_of_ok hc hstream hopen]
    rfl

@[simp] theorem closed_newStream (c : ContentSource σ) (s : Session σ) :
    (c.newStream s).self.closed = c.closed := by
  rcases c.newStream_cases s with ⟨-, h⟩ | ⟨-, x, -, h⟩ | ⟨-, -, e, o, -, h⟩ |
    ⟨-, -, x, o, -, h⟩ <;> rw [h]

/-- A source keeps the stream that it has. -/
theorem stream_newStream {stream : Stream σ} (h : c.stream = some stream) (s : Session σ) :
    (c.newStream s).self.stream = some stream := by
  by_cases hc : c.closed = true
  · rw [newStream_of_closed hc, h]
  · rw [newStream_of_some (Bool.eq_false_iff.2 hc) h, h]

/-- Reading makes of the source what asking for its stream does. -/
theorem self_read (c : ContentSource σ) (s : Session σ) :
    (c.read s).self = (c.newStream s).self := by
  simp only [read]
  rcases (c.newStream s).result with e | _ | x <;> rfl

/-- Whether the handle is asked for its stream, and if so, whether it gives one. -/
def attempts (c : ContentSource σ) (s : Session σ) : List Bool :=
  match c.closed, c.stream with
  | false, none => [(c.handle.stream s.outside).1.isOk]
  | _, _ => []

theorem attempts_of_closed (h : c.closed = true) (s : Session σ) : c.attempts s = [] := by
  simp [attempts, h]

theorem attempts_of_stream {stream : Stream σ} (h : c.stream = some stream) (s : Session σ) :
    c.attempts s = [] := by
  simp [attempts, h]

theorem attempts_of_none (hc : c.closed = false) (h : c.stream = none) (s : Session σ) :
    c.attempts s = [(c.handle.stream s.outside).1.isOk] := by
  simp [attempts, hc, h]

end ContentSource

/-! ## Counting the openings -/

/-- The outside of a store, and for each time that a handle was asked for its stream whether it gave
one. -/
structure Logged (σ : Type) where
  outside : σ
  openings : List Bool

/-- The action, which opens nothing. -/
def Act.logged {α : Type} (a : Act σ α) : Act (Logged σ) α := .mk fun w ↦
  ((a w.outside).1, { w with outside := (a w.outside).2 })

def Stream.logged (stream : Stream σ) : Stream (Logged σ) where
  number := stream.number
  read size := (stream.read size).logged
  remaining w := stream.remaining w.outside
  close := stream.close.logged

/-- The handle, which puts down when it is asked for its stream. -/
def Handle.logged (h : Handle σ) : Handle (Logged σ) where
  contentType := h.contentType.logged
  contentLength := h.contentLength.logged
  openStream closed := .mk fun w ↦
    let (result, outside) := h.openStream closed w.outside
    (result.map (Option.map Stream.logged), ⟨outside, w.openings ++ [result.isOk]⟩)
  release closed := (h.release closed).logged
  closed := h.closed

def ContentSource.logged (c : ContentSource σ) : ContentSource (Logged σ) :=
  ⟨c.handle.logged, c.stream.map Stream.logged, c.closed⟩

/-- The session with a log. No content source asks for the client, so it is left out. -/
def Session.logged (openings : List Bool) (s : Session σ) : Session (Logged σ) where
  outside := ⟨s.outside, openings⟩
  journal := s.journal

def Shown.logged : Shown σ → Shown (Logged σ)
  | .stream result => .stream (result.map (Option.map Stream.logged))
  | .bytes size result => .bytes size result
  | .closed result => .closed result
  | .nothing => .nothing

namespace Sharing

def logged (openings : List Bool) (s : Sharing σ) : Sharing (Logged σ) :=
  ⟨s.source.logged, s.given.map Stream.logged, s.session.logged openings⟩

/-- For each time that the moves ask the handle for its stream, whether it gives one. -/
def openings (s : Sharing σ) (ms : List Move) : List Bool :=
  ((s.logged []).run ms).session.outside.openings

/-- The openings of a single move. -/
def attempts (s : Sharing σ) : Move → List Bool
  | .newStream | .read => s.source.attempts s.session
  | _ => []

end Sharing

namespace ContentSource

/-- A log changes nothing but itself. -/
theorem newStream_logged (c : ContentSource σ) (s : Session σ) (L : List Bool) :
    c.logged.newStream (s.logged L) =
      ⟨(c.newStream s).result.map (Option.map Stream.logged), (c.newStream s).self.logged,
        (c.newStream s).session.logged (L ++ c.attempts s)⟩ := by
  have hhandle : c.logged.handle.stream (s.logged L).outside =
      ((c.handle.stream s.outside).1.map (Option.map Stream.logged),
        ⟨(c.handle.stream s.outside).2, L ++ [(c.handle.stream s.outside).1.isOk]⟩) := rfl
  have hstream (hx : c.stream = none) : c.logged.stream = none := by
    rw [logged, hx]
    rfl
  rcases c.newStream_cases s with ⟨hc, hnew⟩ | ⟨hc, x, hx, hnew⟩ | ⟨hc, hx, e, o, hopen, hnew⟩ |
    ⟨hc, hx, x, o, hopen, hnew⟩
  · rw [hnew, attempts_of_closed hc, List.append_nil]
    exact newStream_of_closed (c := c.logged) hc _
  · have hlogged : c.logged.stream = some x.logged := by
      rw [logged, hx]
      rfl
    rw [hnew, attempts_of_stream hx, List.append_nil]
    exact newStream_of_some (c := c.logged) hc hlogged _
  · rw [hopen] at hhandle
    rw [hnew, attempts_of_none hc hx, hopen]
    exact newStream_of_error (c := c.logged) hc (hstream hx) hhandle
  · rw [hopen] at hhandle
    rw [hnew, attempts_of_none hc hx, hopen]
    exact newStream_of_ok (c := c.logged) hc (hstream hx) hhandle

theorem read_logged (c : ContentSource σ) (s : Session σ) (L : List Bool) :
    c.logged.read (s.logged L) =
      ⟨(c.read s).result, (c.read s).self.logged,
        (c.read s).session.logged (L ++ c.attempts s)⟩ := by
  simp only [read, newStream_logged]
  rcases (c.newStream s).result with e | _ | x <;> rfl

end ContentSource

namespace Sharing

theorem move_logged (s : Sharing σ) (L : List Bool) (m : Move) :
    (s.logged L).move m = ((s.move m).1.logged, (s.move m).2.logged (L ++ s.attempts m)) := by
  have hgiven (k : Nat) : (s.logged L).given[k]? = s.given[k]?.map Stream.logged :=
    List.getElem?_map
  cases m with
  | newStream =>
      have hnew : (s.logged L).source.newStream (s.logged L).session = _ :=
        s.source.newStream_logged s.session L
      simp only [move, hnew]
      rcases (s.source.newStream s.session).result with e | _ | x <;>
        simp [streamsOf, logged, Except.map, Shown.logged, attempts]
  | readStream k size =>
      simp only [move, hgiven, attempts, List.append_nil]
      cases s.given[k]? <;> rfl
  | closeStream k =>
      simp only [move, hgiven, attempts, List.append_nil]
      cases s.given[k]? <;> rfl
  | read =>
      have hread : (s.logged L).source.read (s.logged L).session = _ :=
        s.source.read_logged s.session L
      simp only [move, hread]
      rfl
  | close =>
      simp only [attempts, List.append_nil]
      rfl

/-- A log does not show. -/
theorem shown_logged (s : Sharing σ) (L : List Bool) (ms : List Move) :
    (s.logged L).shown ms = (s.shown ms).map Shown.logged := by
  induction ms generalizing s L with
  | nil => rfl
  | cons m ms ih => rw [shown, move_logged, ih, shown, List.map_cons]

/-- Only asking for the stream shows what comes of that. -/
theorem newStream_of_move {s : Sharing σ} {m : Move} {r : Except Failure (Option (Stream σ))}
    (h : (s.move m).1 = .stream r) :
    m = .newStream ∧ (s.source.newStream s.session).result = r := by
  cases m with
  | newStream => exact ⟨rfl, Shown.stream.inj h⟩
  | readStream k size | closeStream k =>
      simp only [move] at h
      cases hk : s.given[k]? <;> rw [hk] at h <;> cases h
  | read | close => cases h

/-- What a move makes of the source. -/
theorem source_move (s : Sharing σ) (m : Move) : (s.move m).2.source =
    match m with
    | .newStream | .read => (s.source.newStream s.session).self
    | .readStream .. | .closeStream .. => s.source
    | .close => (s.source.close s.session).self := by
  cases m with
  | newStream | close => rfl
  | readStream k size | closeStream k =>
      simp only [move]
      cases s.given[k]? <;> rfl
  | read => exact s.source.self_read s.session

theorem closed_move (s : Sharing σ) (m : Move) :
    (s.move m).2.source.closed = (s.source.closed || decide (m = .close)) := by
  rw [source_move]
  cases m <;> simp

/-- The source is closed once it was closed in any of the moves. -/
theorem closed_run (s : Sharing σ) (ms : List Move) :
    (s.run ms).source.closed = (s.source.closed || decide (.close ∈ ms)) := by
  induction ms generalizing s with
  | nil => simp
  | cons m ms ih =>
      rw [run_cons, ih, closed_move, Bool.or_assoc]
      by_cases hm : m = .close
      · simp [hm]
      · simp [hm, Ne.symm hm]

end Sharing

end ObjectLookup
