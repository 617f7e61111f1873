import ObjectLookup.Proofs.Scripted.Supply
import ObjectLookup.Proofs.Storage.Sharing

/-! # A shared object is read once, in order

The parties that share a content source have one stream between them: the one that the source has
opened (`Sharing.Sound.given`). So what they read, in the order in which they read it, is the front
of the data, and what is left of the data is left in the stream (`Sharing.Sound.left`). This is kept
by every move (`Sharing.Sound.move`), and so is the count of the openings: as long as the source has
no stream, none of them has succeeded, and then exactly one (`Sharing.Sound.unopened`,
`Sharing.Sound.opened`). `Sharing.reads_once` says what follows for all sequences of moves.
-/

namespace ObjectLookup

variable {σ : Type}

namespace Sharing

theorem stream_move {s : Sharing σ} {x : Stream σ} (hx : s.source.stream = some x) (m : Move) :
    (s.move m).2.source.stream = some x := by
  rw [source_move]
  cases m with
  | newStream | read => exact ContentSource.stream_newStream hx s.session
  | readStream | closeStream | close => exact hx

/-- The source keeps the stream that it has. -/
theorem stream_run {s : Sharing σ} {x : Stream σ} (hx : s.source.stream = some x)
    (ms : List Move) : (s.run ms).source.stream = some x := by
  induction ms generalizing s with
  | nil => exact hx
  | cons m ms ih => exact ih (stream_move hx m)

/-! ## What the moves keep -/

/-- The moves so far have read `bytes`, and have asked for openings that came to `L`. What is given
is the stream of the source, which was opened once and has the rest of the data left. -/
structure Sound (h : Handle σ) (data : List UInt8) (At : List UInt8 → σ → Prop)
    (bytes : List UInt8) (L : List Bool) (s : Sharing σ) : Prop where
  handle : s.source.closed = false → s.source.handle = h
  release : s.source.handle.release = h.release
  given : ∀ x ∈ s.given, s.source.stream = some x
  unopened : s.source.stream = none → bytes = [] ∧ true ∉ L
  opened : ∀ x, s.source.stream = some x → x.Yields At ∧ L.count true = 1
  left : ∃ rest, data = bytes ++ rest ∧ At rest s.session.outside

namespace Sound

variable {s : Sharing σ} {h : Handle σ} {data : List UInt8} {At : List UInt8 → σ → Prop}
  {bytes : List UInt8} {L : List Bool} (hs : Sound h data At bytes L s)
include hs

/-- The source without a stream has all the data left. -/
theorem at_data (hstream : s.source.stream = none) : At data s.session.outside := by
  obtain ⟨rest, hdata, hrest⟩ := hs.left
  obtain rfl := (hs.unopened hstream).1
  rwa [hdata]

/-- A read takes the next bytes, or leaves everything. -/
theorem reading {x : Stream σ} (hx : s.source.stream = some x) (size : Option Nat)
    {r : Except Failure (List UInt8)} {o : σ} (hr : x.read size s.session.outside = (r, o)) :
    Sound h data At (bytes ++ (Shown.bytes size r : Shown σ).data) L
        { s with session := { s.session with outside := o } } ∧
      (size = none → ∀ bs, r = .ok bs → data = bytes ++ bs) := by
  obtain ⟨rest, hdata, hrest⟩ := hs.left
  have hunopened (hstream : s.source.stream = none) : False := by
    rw [hx] at hstream
    cases hstream
  cases r with
  | error e =>
      have hleft := (hs.opened x hx).1.read_fails hrest hr
      refine ⟨⟨hs.handle, hs.release, hs.given, fun h ↦ (hunopened h).elim, hs.opened, ?_⟩, nofun⟩
      exact ⟨rest, by simpa [Shown.data] using hdata, hleft⟩
  | ok bs =>
      obtain ⟨left, rfl, hleft, hall⟩ := (hs.opened x hx).1.read hrest hr
      refine ⟨⟨hs.handle, hs.release, hs.given, fun h ↦ (hunopened h).elim, hs.opened, ?_⟩, ?_⟩
      · exact ⟨left, by simpa [Shown.data] using hdata, hleft⟩
      · rintro hsize _ ⟨⟩
        rw [hdata, hall hsize, List.append_nil]

/-- Asking for the stream reads nothing. What is given is the stream of the source from then on. -/
theorem opening (hoffers : h.Offers data At) :
    Sound h data At bytes (L ++ s.source.attempts s.session)
        ⟨(s.source.newStream s.session).self, s.given, (s.source.newStream s.session).session⟩ ∧
      ∀ x, (s.source.newStream s.session).result = .ok x →
        ∃ stream, x = some stream ∧ (s.source.newStream s.session).self.stream = some stream := by
  rcases s.source.newStream_cases s.session with ⟨hc, hnew⟩ | ⟨hc, x, hx, hnew⟩ |
    ⟨hc, hx, e, o, hopen, hnew⟩ | ⟨hc, hx, x, o, hopen, hnew⟩ <;> rw [hnew]
  · rw [ContentSource.attempts_of_closed hc, List.append_nil]
    exact ⟨hs, nofun⟩
  · rw [ContentSource.attempts_of_stream hx, List.append_nil]
    refine ⟨hs, ?_⟩
    rintro _ ⟨⟩
    exact ⟨x, rfl, hx⟩
  · -- Only here and below is the handle asked, and nothing was read before.
    have hdata := hs.at_data hx
    obtain ⟨hbytes, hnone⟩ := hs.unopened hx
    rw [ContentSource.attempts_of_none hc hx, hopen]
    rw [hs.handle hc] at hopen
    have hkept : At data o := hoffers.stream_fails hdata hopen
    refine ⟨⟨hs.handle, hs.release, hs.given, ?_, ?_, data, by simp [hbytes], hkept⟩, nofun⟩
    · exact fun _ ↦ ⟨hbytes, by simp [hnone, Except.isOk, Except.toBool]⟩
    · intro y hy
      rw [show s.source.stream = some y from hy] at hx
      cases hx
  · have hdata := hs.at_data hx
    obtain ⟨hbytes, hnone⟩ := hs.unopened hx
    rw [ContentSource.attempts_of_none hc hx, hopen]
    rw [hs.handle hc] at hopen
    obtain ⟨hkept, stream, rfl, hyields⟩ := hoffers.stream hdata hopen
    have hcount : (L ++ [true]).count true = 1 := by
      rw [List.count_append, List.count_eq_zero.2 hnone]
      rfl
    refine ⟨⟨hs.handle, hs.release, ?_, nofun, ?_, data, by simp [hbytes], hkept⟩, ?_⟩
    · intro y hy
      rw [hs.given y hy] at hx
      cases hx
    · rintro _ ⟨⟩
      exact ⟨hyields, hcount⟩
    · rintro _ ⟨⟩
      exact ⟨stream, rfl, rfl⟩

/-- An action that takes nothing keeps the rest as well. -/
theorem perform {α : Type} {a : Act σ α} (ha : ∀ rest, Act.Keeps (At rest) a) :
    Sound h data At bytes L { s with session := (s.session.perform a).2 } := by
  obtain ⟨rest, hdata, hrest⟩ := hs.left
  exact ⟨hs.handle, hs.release, hs.given, hs.unopened, hs.opened, rest, hdata, ha rest _ hrest⟩

/-- A move adds what it reads, and the openings that it asks for. -/
theorem move (hoffers : h.Offers data At) (m : Move) :
    Sound h data At (bytes ++ (s.move m).1.data) (L ++ s.attempts m) (s.move m).2 := by
  obtain ⟨hopening, hgives⟩ := hs.opening hoffers
  cases m with
  | newStream =>
      rw [show (s.move .newStream).1.data = [] from rfl, List.append_nil]
      refine { hopening with given := ?_ }
      intro x hx
      rcases List.mem_append.1 hx with hx | hx
      · exact hopening.given x hx
      · rcases hr : (s.source.newStream s.session).result with e | _ | y <;> rw [hr] at hx
        · cases hx
        · cases hx
        · obtain rfl := List.mem_singleton.1 hx
          obtain ⟨stream, heq, hstream⟩ := hgives _ hr
          cases heq
          exact hstream
  | readStream k size =>
      simp only [Sharing.move, Sharing.attempts, List.append_nil]
      rcases hk : s.given[k]? with _ | x
      · simpa [Shown.data] using hs
      · exact (hs.reading (hs.given x (List.mem_of_getElem? hk)) size rfl).1
  | closeStream k =>
      simp only [Sharing.move, Sharing.attempts, List.append_nil]
      rcases hk : s.given[k]? with _ | x
      · simpa [Shown.data] using hs
      · have hyields := (hs.opened x (hs.given x (List.mem_of_getElem? hk))).1
        simpa [Shown.data] using hs.perform hyields.close
  | read =>
      simp only [Sharing.move, Sharing.attempts, ContentSource.read]
      rcases hr : (s.source.newStream s.session).result with e | x
      · simpa [Shown.data] using hopening
      · obtain ⟨stream, rfl, hstream⟩ := hgives _ hr
        exact (hopening.reading hstream none rfl).1
  | close =>
      have hclose : s.source.handle.close = h.release s.source.handle.closed := by
        rw [Handle.close, hs.release]
      have hperform := hs.perform (a := s.source.handle.close) fun rest ↦ by
        rw [hclose]
        exact hoffers.release rest _
      simp only [Sharing.move, Sharing.attempts, List.append_nil, Shown.data]
      exact { hperform with handle := fun hopen ↦ absurd hopen (by simp) }

/-- A read without a size leaves nothing. -/
theorem complete (hoffers : h.Offers data At) {m : Move} {bs : List UInt8}
    (hm : (s.move m).1 = .bytes none (.ok bs)) : data = bytes ++ bs := by
  cases m with
  | newStream | close => cases hm
  | readStream k size =>
      simp only [Sharing.move] at hm
      rcases hk : s.given[k]? with _ | x <;> rw [hk] at hm
      · cases hm
      · obtain ⟨hsize, hbytes⟩ := Shown.bytes.inj hm
        exact (hs.reading (hs.given x (List.mem_of_getElem? hk)) size rfl).2 hsize bs hbytes
  | closeStream k =>
      simp only [Sharing.move] at hm
      rcases hk : s.given[k]? with _ | x <;> rw [hk] at hm <;> cases hm
  | read =>
      obtain ⟨hopening, hgives⟩ := hs.opening hoffers
      obtain ⟨-, hbytes⟩ := Shown.bytes.inj hm
      rcases hr : (s.source.newStream s.session).result with e | x <;>
        simp only [ContentSource.read, hr] at hbytes
      · cases hbytes
      · obtain ⟨stream, rfl, hstream⟩ := hgives _ hr
        exact (hopening.reading hstream none rfl).2 rfl bs hbytes

/-- The moves of a sequence add what they read, and a log beside them shows the openings that they
ask for. -/
theorem run (hoffers : h.Offers data At) (ms : List Move) :
    ∃ L', (s.logged L).run ms = (s.run ms).logged L' ∧
      Sound h data At (bytes ++ Shown.received (s.shown ms)) L' (s.run ms) := by
  induction ms generalizing s bytes L with
  | nil => exact ⟨L, rfl, by simpa [shown, Shown.received] using hs⟩
  | cons m ms ih =>
      obtain ⟨L', hrun, hsound⟩ := ih (hs.move hoffers m)
      refine ⟨L', ?_, ?_⟩
      · rw [run_cons, move_logged, hrun, run_cons]
      · simpa [shown, Shown.received] using hsound

/-- Every stream that was given is the stream that the source has in the end. -/
theorem stream_of_shown (hoffers : h.Offers data At) {ms : List Move} {x : Option (Stream σ)}
    (hx : .stream (.ok x) ∈ s.shown ms) :
    ∃ stream, x = some stream ∧ (s.run ms).source.stream = some stream := by
  obtain ⟨before, m, after, rfl, hshown⟩ := exists_of_mem_shown hx
  obtain ⟨L', -, hbefore⟩ := hs.run hoffers before
  obtain ⟨rfl, hresult⟩ := newStream_of_move hshown
  obtain ⟨stream, rfl, hstream⟩ := (hbefore.opening hoffers).2 _ hresult
  refine ⟨stream, rfl, ?_⟩
  rw [run_append, run_cons]
  exact stream_run hstream after

/-- What was read is the front of the data, and all of it once a read without a size succeeded. -/
theorem received (hoffers : h.Offers data At) (hbytes : bytes = []) (ms : List Move) :
    Shown.received (s.shown ms) <+: data ∧
      ∀ bs, .bytes none (.ok bs) ∈ s.shown ms → Shown.received (s.shown ms) = data := by
  subst hbytes
  obtain ⟨L', -, hend⟩ := hs.run hoffers ms
  obtain ⟨rest, hdata, -⟩ := hend.left
  rw [List.nil_append] at hdata
  refine ⟨⟨rest, hdata.symm⟩, fun bs hbs ↦ ?_⟩
  obtain ⟨before, m, after, rfl, hshown⟩ := exists_of_mem_shown hbs
  obtain ⟨L', -, hbefore⟩ := hs.run hoffers before
  have hall := hbefore.complete hoffers hshown
  have hmove : (Shown.data ((s.run before).move m).1) = bs := by rw [hshown, Shown.data]
  rw [List.nil_append] at hall
  have hreceived : Shown.received (s.shown (before ++ m :: after)) =
      data ++ Shown.received (((s.run before).move m).2.shown after) := by
    rw [shown_append, shown, Shown.received_append, hall, List.append_assoc, ← hmove]
    rfl
  -- What is read after that is the front of nothing.
  rw [hreceived, List.append_assoc] at hdata
  rw [hreceived, (List.append_eq_nil_iff.1 (List.self_eq_append_right.1 hdata)).1,
    List.append_nil]

end Sound

/-! ## Runs from the start -/

variable {h : Handle σ} {data : List UInt8} {At : List UInt8 → σ → Prop}

theorem sound_ofHandle {s : Session σ} (hs : At data s.outside) :
    Sound h data At [] [] (ofHandle h s) where
  handle _ := rfl
  release := rfl
  given _ := nofun
  unopened _ := ⟨rfl, nofun⟩
  opened _ := nofun
  left := ⟨data, rfl, hs⟩

/-- A source that is closed asks for no opening. -/
theorem run_logged_of_closed {s : Sharing σ} (hs : s.source.closed = true) (L : List Bool)
    (ms : List Move) : (s.logged L).run ms = (s.run ms).logged L := by
  induction ms generalizing s with
  | nil => rfl
  | cons m ms ih =>
      have hattempts : s.attempts m = [] := by
        cases m with
        | newStream | read => exact ContentSource.attempts_of_closed hs _
        | readStream | closeStream | close => rfl
      have hclosed : (s.move m).2.source.closed = true := by rw [closed_move, hs, Bool.true_or]
      rw [run_cons, move_logged, hattempts, List.append_nil, ih hclosed, run_cons]

/-- What a source raises when it is asked for its stream. -/
theorem isStorageFailure_of_newStream {c : ContentSource σ} {s : Session σ} {e : Failure}
    (h : (c.newStream s).result = .error e) : ∃ text, e.fault = .ofKind .storageFailure text := by
  rcases c.newStream_cases s with ⟨-, hnew⟩ | ⟨-, x, -, hnew⟩ | ⟨-, -, e', o, -, hnew⟩ |
    ⟨-, -, x, o, -, hnew⟩ <;> rw [hnew] at h <;> cases h
  · exact ⟨_, rfl⟩
  · exact ⟨_, rfl⟩

/-- Whatever is done, and in whichever order, with a content source whose handle offers the data: it
gives one stream, which the handle is asked for until it gives it and not once the source is closed.
The source raises nothing but storage failures for it. As long as it is not closed it asks again
after a failure, and once it is closed it gives and reads nothing more. All that was read is the
front of the data, and it is the data once something was read without a size. -/
theorem reads_once (hoffers : h.Offers data At) (s : Session σ) (hs : At data s.outside)
    (ms : List Move) :
    let start := ofHandle h s
    let now := start.run ms
    (start.logged []).shown ms = (start.shown ms).map Shown.logged ∧
    (∀ x y, .stream (.ok x) ∈ start.shown ms → .stream (.ok y) ∈ start.shown ms →
      x = y ∧ x.isSome) ∧
    (start.openings ms).count true ≤ 1 ∧
    (.close ∈ ms → ∀ ms', start.openings (ms ++ ms') = start.openings ms) ∧
    (.close ∈ ms → (now.move .newStream).1 = .stream (.error ContentSource.closedFailure) ∧
      (now.move .read).1 = .bytes none (.error ContentSource.closedFailure)) ∧
    (∀ e, .stream (.error e) ∈ start.shown ms → ∃ text, e.fault = .ofKind .storageFailure text) ∧
    (.close ∉ ms → true ∉ start.openings ms →
      let opening := (h.stream now.session.outside).1
      (now.move .newStream).1 = .stream (opening.mapError ContentSource.openFailure) ∧
        start.openings (ms ++ [.newStream]) = start.openings ms ++ [opening.isOk]) ∧
    Shown.received (start.shown ms) <+: data ∧
    ∀ bs, .bytes none (.ok bs) ∈ start.shown ms → Shown.received (start.shown ms) = data := by
  intro start now
  have hsound : Sound h data At [] [] start := sound_ofHandle hs
  obtain ⟨L, hrun, hnow⟩ := hsound.run hoffers ms
  have hopenings : start.openings ms = L := by rw [openings, hrun]; rfl
  have hclosed : now.source.closed = decide (.close ∈ ms) := closed_run start ms
  refine ⟨shown_logged start [] ms, ?same, ?once, ?closed, ?refused, ?raised, ?again, ?_⟩
  case same =>
    intro x y hx hy
    obtain ⟨stream, rfl, hstream⟩ := hsound.stream_of_shown hoffers hx
    obtain ⟨stream', rfl, hstream'⟩ := hsound.stream_of_shown hoffers hy
    rw [hstream] at hstream'
    exact ⟨hstream', rfl⟩
  case once =>
    rw [hopenings]
    rcases hstream : now.source.stream with _ | stream
    · rw [List.count_eq_zero.2 (hnow.unopened hstream).2]
      exact Nat.zero_le 1
    · exact Nat.le_of_eq (hnow.opened stream hstream).2
  case closed =>
    intro hclose ms'
    rw [decide_eq_true hclose] at hclosed
    rw [hopenings, openings, run_append, hrun, run_logged_of_closed hclosed]
    rfl
  case refused =>
    intro hclose
    rw [decide_eq_true hclose] at hclosed
    have hnew := ContentSource.newStream_of_closed hclosed now.session
    simp [move, ContentSource.read, hnew]
  case raised =>
    intro e he
    obtain ⟨before, m, after, -, hshown⟩ := exists_of_mem_shown he
    exact isStorageFailure_of_newStream (newStream_of_move hshown).2
  case again =>
    intro hclose hnone opening
    rw [decide_eq_false hclose] at hclosed
    have hstream : now.source.stream = none := by
      rcases hstream : now.source.stream with _ | stream
      · rfl
      · have hcount := (hnow.opened stream hstream).2
        rw [hopenings] at hnone
        rw [List.count_eq_zero.2 hnone] at hcount
        cases hcount
    have hresult := ContentSource.result_newStream_of_none (s := now.session) hclosed hstream
    have hattempts := ContentSource.attempts_of_none hclosed hstream now.session
    rw [hnow.handle hclosed] at hresult hattempts
    constructor
    · exact congrArg Shown.stream hresult
    · rw [hopenings, openings, run_append, hrun, run_cons, move_logged, run_nil]
      exact congrArg (L ++ ·) hattempts
  · exact hsound.received hoffers rfl ms

/-- A handle that does not open at the first try. -/
def reluctant : Handle Scripted.Stage :=
  { Scripted.handle 0 with
    openStream := fun closed ↦ .mk fun o ↦
      if (o.fetched[0]?).any (·.opens = 0) then (.error (.invalidValue "not yet"), o.asked 0)
      else Scripted.openHandle 0 closed o }

theorem offers_reluctant (data : List UInt8) : reluctant.Offers data (Scripted.IsLeft 0) where
  stream := by
    intro o o' x ho hopen
    change (if _ then _ else (Scripted.handle 0).stream o) = _ at hopen
    split at hopen
    · cases hopen
    · exact (Scripted.offers_handle 0 data).stream ho hopen
  stream_fails := by
    intro o o' e ho hopen
    change (if _ then _ else (Scripted.handle 0).stream o) = _ at hopen
    split at hopen
    · cases hopen
      exact Scripted.isLeft_change (fun _ ↦ rfl) ho
    · exact (Scripted.offers_handle 0 data).stream_fails ho hopen
  release := (Scripted.offers_handle 0 data).release

/-- Three bytes, of which a sized read returns two at most. -/
def threeBytes : Session Scripted.Stage :=
  let x : Scripted.StoredObject := { data := some [1, 2, 3], maxChunk := some 2 }
  { outside := { fetched := [x.fetched] } }

/-- A response with these bytes as its body. -/
def response : Handle Scripted.Stage :=
  S3.Object.handle ⟨⟨"images", "a.gif"⟩, { body := some (Scripted.stream 0) }, false⟩

/-- The second try opens what the first did not, and nothing is opened after that. Two parties that
were given the stream of a response share what it yields, until the source is closed. -/
theorem reads_once_reluctant :
    let start := ofHandle reluctant threeBytes
    let ms : List Move := [.newStream, .newStream, .readStream 0 (some 5), .read, .close]
    let shared := ofHandle response threeBytes
    let ms' : List Move := [.newStream, .readStream 0 (some 1), .newStream, .readStream 1 none]
    start.openings [.newStream, .newStream] = [false, true] ∧
    start.openings (ms ++ [.newStream, .read]) = [false, true] ∧
    Shown.received (start.shown ms) = [1, 2, 3] ∧
    Shown.received (shared.shown ms') = [1, 2, 3] ∧
    ((shared.run (ms' ++ [.close])).move .read).1 =
      .bytes none (.error ContentSource.closedFailure) := by
  intro start ms shared ms'
  have hleft : Scripted.IsLeft 0 [1, 2, 3] threeBytes.outside := ⟨_, rfl, rfl⟩
  have hresponse : response.Offers [1, 2, 3] (Scripted.IsLeft 0) :=
    S3.Object.offers_handle rfl rfl (Scripted.yields_stream 0)
  obtain ⟨-, -, -, -, -, -, hagain, -⟩ :=
    reads_once (offers_reluctant [1, 2, 3]) threeBytes hleft [.newStream]
  obtain ⟨-, -, -, hclosed, -, -, -, -, hall⟩ :=
    reads_once (offers_reluctant [1, 2, 3]) threeBytes hleft ms
  obtain ⟨-, -, -, -, -, -, -, -, hall'⟩ := reads_once hresponse threeBytes hleft ms'
  obtain ⟨-, -, -, -, hrefused, -⟩ := reads_once hresponse threeBytes hleft (ms' ++ [.close])
  refine ⟨?_, ?_, ?_, ?_, ?_⟩
  · exact (hagain (by decide) (by decide)).2
  · exact hclosed (by decide) _
  · exact hall [3] (.tail _ (.tail _ (.tail _ (.head _))))
  · exact hall' [2, 3] (.tail _ (.tail _ (.tail _ (.head _))))
  · exact (hrefused (by decide)).2

end Sharing

end ObjectLookup
