import ObjectLookup.Proofs.CommandLine.Transfer
import ObjectLookup.Proofs.Resolver.Ledger
import ObjectLookup.Proofs.Scripted.Closing

/-! # Every handle is closed

The command `fetch` opens the handle that it obtains, and reads and closes the stream. What a user
of a handle keeps without closing it (`Handle.UseKeeps`) holds until the command closes the handle,
which is the last thing it does (`outside_transfer`). So the row of the handle has no close but the
last entry (`ledger_carryOut_fetch`).
-/

namespace ObjectLookup

variable {σ : Type} {I : σ → Prop} {L : Ledger}

namespace CommandLine

variable {h : Handle σ} {dest : Path} {s : Session σ} {files : FileTree}

/-! ## The transfer -/

section Transfer

variable {stream : Stream σ} {opened : Option (Stream σ)}

theorem copy_keeps (hread : ∀ size, Act.Keeps I (stream.read size)) (dest : Path) (fuel : Nat)
    (hs : I s.outside) (files : FileTree) : I (copy stream dest fuel s files).2.1.outside := by
  induction fuel generalizing s files with
  | zero => exact hs
  | succ fuel ih =>
      have hs' : I (s.perform (stream.read (some chunkSize))).2.outside := hread _ _ hs
      rcases hr : s.perform (stream.read (some chunkSize)) with ⟨e | _ | ⟨b, bytes⟩, s'⟩ <;>
        rw [hr] at hs' <;> simp only [copy, hr]
      · exact hs'
      · exact hs'
      · exact ih hs' _

theorem save_keeps (hread : ∀ x, opened = some x → ∀ size, Act.Keeps I (x.read size))
    (dest : Path) (hs : I s.outside) (files : FileTree) :
    I (save opened dest s files).2.1.outside := by
  rcases hmake : files.ensureDirectories dest.parent with ⟨⟨problem, p⟩ | ⟨⟩, made⟩ <;>
    simp only [save, hmake]
  · exact hs
  · rcases made.create dest with problem | created
    · exact hs
    · rcases opened with _ | stream
      · exact hs
      · exact copy_keeps (hread stream rfl) dest _ hs created

theorem saveOrRemove_keeps (hread : ∀ x, opened = some x → ∀ size, Act.Keeps I (x.read size))
    (dest : Path) (hs : I s.outside) (files : FileTree) :
    I (saveOrRemove opened dest s files).2.1.outside := by
  have hsaved := save_keeps hread dest hs files
  rcases hsave : save opened dest s files with ⟨e | ⟨⟩, s', files'⟩ <;> rw [hsave] at hsaved <;>
    simp only [saveOrRemove, hsave]
  · rcases files'.unlink dest with problem | removed <;> exact hsaved
  · exact hsaved

theorem closeStream_keeps (hclose : ∀ x, opened = some x → Act.Keeps I x.close)
    (result : Except Failure Unit) (hs : I s.outside) :
    I (closeStream opened result s).2.outside := by
  rcases opened with _ | stream
  · exact hs
  · have hs' : I (s.perform stream.close).2.outside := hclose stream rfl _ hs
    rcases hc : s.perform stream.close with ⟨e | ⟨⟩, s'⟩ <;> rw [hc] at hs' <;>
      simp only [closeStream, hc] <;> exact hs'

/-- However the transfer ends, the last thing that it does is to close the handle, which was not
closed before. -/
theorem outside_transfer (hkeeps : h.UseKeeps I) (hs : I s.outside) (dest : Path)
    (files : FileTree) :
    ∃ o, I o ∧ (transfer ⟨h, none, false⟩ dest s files).2.1.outside = (h.close o).2 := by
  have ho : I (h.stream s.outside).2 := hkeeps.stream _ hs
  rcases hopen : h.stream s.outside with ⟨e | opened, o⟩ <;> rw [hopen] at ho
  · have hnew : ContentSource.newStream ⟨h, none, false⟩ s =
        ⟨.error (ContentSource.openFailure e), ⟨h, none, false⟩, { s with outside := o }⟩ := by
      simp [ContentSource.newStream, Session.perform, hopen]
    refine ⟨o, ho, ?_⟩
    simp only [transfer, hnew]
    split <;> rfl
  · have hnew : ContentSource.newStream ⟨h, none, false⟩ s =
        ⟨.ok opened, ⟨h, opened, false⟩, { s with outside := o }⟩ := by
      simp [ContentSource.newStream, Session.perform, hopen]
    have hopened (x : Stream σ) (hx : opened = some x) :
        (h.stream s.outside).1 = .ok (some x) := by rw [hopen, hx]
    let reading : Session σ := { s with outside := o }
    have hsaved : I (saveOrRemove opened dest reading files).2.1.outside :=
      saveOrRemove_keeps (fun x hx ↦ hkeeps.read _ x (hopened x hx)) dest ho files
    rcases hsave : saveOrRemove opened dest reading files with ⟨x, s₁, files₁⟩
    rw [hsave] at hsaved
    have hclosed := closeStream_keeps (fun x hx ↦ hkeeps.close _ x (hopened x hx)) x hsaved
    refine ⟨_, hclosed, ?_⟩
    simp only [reading] at hsave
    simp only [transfer, hnew, hsave]
    split <;> rfl

end Transfer

/-- The command leaves the session as its transfer does, if it obtains a handle. -/
theorem session_carryOut_fetch (host : Host σ) (identifier dest : String) (context : List String)
    (sh : Shell σ) :
    let ending := (carryOut host ⟨.fetch, [identifier, dest], context⟩ sh).2.session
    (∃ e s, fetched host identifier context sh = (.error e, s) ∧ ending = s) ∨
    (∃ h s, fetched host identifier context sh = (.ok h, s) ∧
      ending = (transfer ⟨h, none, false⟩ (.ofText dest) s sh.files).2.1) := by
  intro ending
  rcases hr : resolverOf host.importer identifier context sh with ⟨e | r, sh₁⟩
  · refine .inl ⟨e, sh₁.session, by simp only [fetched, hr], ?_⟩
    simp only [ending, carryOut, List.headD_cons, hr]
  · have hfiles : sh₁.files = sh.files := files_resolverOf hr
    have hdest : [identifier, dest].getLastD "" = dest := rfl
    rcases hk : (r.fetch host sh₁.session).result with e | k
    · refine .inl ⟨e, (r.fetch host sh₁.session).session, by simp only [fetched, hr, hk], ?_⟩
      simp only [ending, carryOut, List.headD_cons, hr, fetch, Resolver.openStream, hk, Except.map]
    · refine .inr ⟨k, (r.fetch host sh₁.session).session, by simp only [fetched, hr, hk], ?_⟩
      simp only [ending, carryOut, List.headD_cons, hr, fetch, Resolver.openStream, hk, Except.map,
        hdest, hfiles]

/-- The last thing that the command does outside is to close the handle that it obtains. -/
theorem outside_of_fetched {host : Host σ} {identifier : String} {context : List String}
    {sh : Shell σ} {h : Handle σ} {t : Session σ}
    (hobject : fetched host identifier context sh = (.ok h, t)) (hkeeps : h.UseKeeps I)
    (ht : I t.outside) (dest : String) :
    ∃ o, I o ∧ (carryOut host ⟨.fetch, [identifier, dest], context⟩ sh).2.session.outside =
      (h.close o).2 := by
  rcases session_carryOut_fetch host identifier dest context sh with ⟨_, _, hs, _⟩ |
    ⟨_, _, hs, hending⟩ <;> rw [hobject] at hs <;> cases hs
  rw [hending]
  exact outside_transfer hkeeps ht (.ofText dest) sh.files

end CommandLine

/-! ## The command over a watched store -/

namespace Application

def watched (a : Application σ) : Application (Watched σ) :=
  ⟨a.settings, a.delegate.map Delegate.watched⟩

theorem getDelegate_watched (importer : Importer σ) (a : Application σ) (s : Session σ)
    (L : Ledger) : a.watched.getDelegate importer.watched (s.watched L) =
      ((a.getDelegate importer s).1.watched, (a.getDelegate importer s).2.1.watched,
        (a.getDelegate importer s).2.2.watched L) := by
  rcases hd : a.delegate with _ | d
  · have hd' : a.watched.delegate = none := by simp [watched, hd]
    have hsettings : a.watched.settings = a.settings := rfl
    simp only [getDelegate, hd, hd', hsettings, Delegate.load_watched]
    rfl
  · have hd' : a.watched.delegate = some d.watched := by simp [watched, hd]
    simp only [getDelegate, hd, hd']

theorem resolverFor_watched (importer : Importer σ) (a : Application σ) (identifier : Identifier)
    (context : Context) (s : Session σ) (L : Ledger) :
    a.watched.resolverFor importer.watched identifier context (s.watched L) =
      ((a.resolverFor importer identifier context s).1.watched,
        (a.resolverFor importer identifier context s).2.1.watched,
        (a.resolverFor importer identifier context s).2.2.watched L) := by
  have hsettings : a.watched.settings = a.settings := rfl
  rcases hs : Selector.ofSettings? a.settings with _ | _ | _ <;>
    simp only [resolverFor, hsettings, hs]
  · rfl
  · rfl
  · simp only [getDelegate_watched]
    rfl

end Application

namespace CommandLine

def Shell.watched (sh : Shell σ) (L : Ledger) : Shell (Watched σ) :=
  ⟨sh.application.watched, sh.session.watched L, sh.files⟩

theorem resolverOf_watched (importer : Importer σ) (identifier : String) (context : List String)
    (sh : Shell σ) (L : Ledger) : resolverOf importer.watched identifier context (sh.watched L) =
      ((resolverOf importer identifier context sh).1.map Resolver.watched,
        (resolverOf importer identifier context sh).2.watched L) := by
  rcases hc : contextEntries context with e | entries
  · simp only [resolverOf, hc]
    rfl
  · have h := sh.application.resolverFor_watched importer ⟨identifier⟩ (entries.mapValues .text)
      sh.session L
    simp only [resolverOf, hc, Shell.watched, h, Except.map]

theorem fetched_watched (host : Host σ) (identifier : String) (context : List String)
    (sh : Shell σ) (L : Ledger) : fetched host.watched identifier context (sh.watched L) =
      ((fetched host identifier context sh).1.map (Handle.watched L.length),
        (fetched host identifier context sh).2.watched
          (L ++ .begun (fetched host identifier context sh).1)) := by
  have himporter : host.watched.importer = host.importer.watched := rfl
  simp only [fetched, himporter, resolverOf_watched]
  rcases resolverOf host.importer identifier context sh with ⟨e | r, sh₁⟩
  · simp only [Except.map, Ledger.begun, List.append_nil, Shell.watched]
  · simp only [Except.map, Shell.watched, Resolver.fetch_watched, Step.watched]

/-- The command begins a row if it obtains a handle, and the last entry of the row is the one close
in it. -/
theorem ledger_carryOut_fetch (host : Host σ) (identifier dest : String) (context : List String)
    (sh : Shell σ) (L : Ledger) :
    let ending :=
      (carryOut host.watched ⟨.fetch, [identifier, dest], context⟩ (sh.watched L)).2.session
    (∃ e, (fetched host identifier context sh).1 = .error e ∧ ending.outside.ledger = L) ∨
    (∃ h row, (fetched host identifier context sh).1 = .ok h ∧ Touch.close ∉ row ∧
      ending.outside.ledger = L ++ [row ++ [.close]]) := by
  intro ending
  have hwatched := fetched_watched host identifier context sh L
  rcases hobject : fetched host identifier context sh with ⟨e | h, s⟩ <;> rw [hobject] at hwatched
  · refine .inl ⟨e, rfl, ?_⟩
    rcases session_carryOut_fetch host.watched identifier dest context (sh.watched L) with
      ⟨_, _, hs, hending⟩ | ⟨_, _, hs, _⟩ <;> rw [hwatched] at hs <;> cases hs
    have hsame : ending = s.watched (L ++ []) := hending
    rw [hsame]
    exact List.append_nil L
  · have hbegun : Watched.IsUnclosed L (s.watched (L ++ [[]])).outside := ⟨[], nofun, rfl⟩
    obtain ⟨w, ⟨row, hrow, hledger⟩, hclose⟩ :=
      outside_of_fetched hwatched (h.useKeeps_watched L) hbegun dest
    have hclosed : ending.outside = ((h.watched L.length).close w).2 := hclose
    refine .inr ⟨h, row, rfl, hrow, ?_⟩
    rw [hclosed]
    change Ledger.enter L.length .close w.ledger = _
    rw [hledger, Ledger.enter_concat]

end CommandLine

/-! ## No handle leaks -/

/-- By its row, a handle was closed once, and neither was it opened nor its stream read. -/
structure IsReleased (row : List Touch) : Prop where
  closed : row.count .close = 1
  unopened : Touch.openStream ∉ row
  unread : Touch.read ∉ row

theorem isReleased_touches {q : Question} (hq : q = .checkAccess ∨ q = .resolveFormat) :
    IsReleased q.touches := by
  rcases hq with rfl | rfl <;> exact ⟨by decide, by decide, by decide⟩

open CommandLine Resolver in
/-- No handle leaks, whatever a store does. Over a watched store, a question in a run is answered as
it is without the ledger, and begins a row for the handle that it obtains. If it checks the access
or determines the format, the handle is released when it ends; if it opens the content, the handle
is left as it is. The row stays so for the rest of the run. The command `fetch` closes the handle
that it obtains as the last thing it does, and not before.

Where the handle is one of a response with a body, the last thing that is done is to close the body;
and the stream of a scripted object is closed in the end. The clients of a scripted stage hand out
handles of such objects only, save for those of responses without a body. -/
theorem no_handle_leaks {ι : Type} [DecidableEq ι] (host : Host σ) (rs : ι → Resolver σ)
    (s : Session σ) (L : Ledger) :
    (∀ before i q after,
      let start := askAll host.watched (fun i ↦ (rs i).watched) (s.watched L) before
      let ending :=
        (askAll host.watched (fun i ↦ (rs i).watched) (s.watched L) (before ++ (i, q) :: after)).2
      let plain := askAll host rs s before
      let ledger := start.2.outside.ledger
      ∃ rows later,
        (start.1 i).ask host.watched q start.2 =
          ((plain.1 i).ask host q plain.2).watched (Reply.watched ledger.length) (ledger ++ rows) ∧
        ending.outside.ledger = ledger ++ rows ++ later ∧
        rows.length = ((plain.1 i).obtained? host q plain.2).toList.length ∧
        ∀ row ∈ rows, (q = .checkAccess ∨ q = .resolveFormat → IsReleased row) ∧
          (q = .openStream → row = [])) ∧
    (∀ identifier dest context application files,
      let sh : Shell σ := ⟨application, s, files⟩
      let call : Call := ⟨.fetch, [identifier, dest], context⟩
      let ending := (carryOut host.watched call (sh.watched L)).2.session
      (∃ e, (fetched host identifier context sh).1 = .error e ∧ ending.outside.ledger = L) ∨
      (∃ h row, (fetched host identifier context sh).1 = .ok h ∧
        ending.outside.ledger = L ++ [row] ∧ row.count .close = 1 ∧ row.getLast? = some .close)) ∧
    (∀ l response body t, response.body = some body →
      let h : Handle σ := S3.Object.handle ⟨l, response, false⟩
      (∀ (r : Resolver σ) q, q = .checkAccess ∨ q = .resolveFormat →
        r.obtained? host q s = some (h, t) →
        (r.ask host q s).session.outside = (body.close t.outside).2) ∧
      ∀ identifier dest context application files,
        let sh : Shell σ := ⟨application, s, files⟩
        let call : Call := ⟨.fetch, [identifier, dest], context⟩
        fetched host identifier context sh = (.ok h, t) →
        ∃ o, (carryOut host call sh).2.session.outside = (body.close o).2) ∧
    (∀ (host : Host Scripted.Stage) (s : Session Scripted.Stage) k h t,
      Scripted.IsHandleOf k h → Scripted.IsFetched k t.outside →
      (∀ (r : Resolver Scripted.Stage) q, q = .checkAccess ∨ q = .resolveFormat →
        r.obtained? host q s = some (h, t) →
        Scripted.IsClosed k (r.ask host q s).session.outside) ∧
      ∀ identifier dest context application files,
        let sh : Shell Scripted.Stage := ⟨application, s, files⟩
        let call : Call := ⟨.fetch, [identifier, dest], context⟩
        fetched host identifier context sh = (.ok h, t) →
        Scripted.IsClosed k (carryOut host call sh).2.session.outside) ∧
    ∀ (c : Client Scripted.Stage) l h o p, Scripted.IsClient c → c.fetch l o = (.ok h, p) →
      (∃ k, Scripted.IsHandleOf k h ∧ Scripted.IsFetched k p) ∨
        ∃ response, response.body = none ∧ h = S3.Object.handle ⟨l, response, false⟩ := by
  refine ⟨?_, ?_, ?_, ?_, ?_⟩
  · intro before i q after start ending plain ledger
    obtain ⟨later, hstep, hending⟩ := ledger_askAll host rs s L before after i q
    refine ⟨_, later, hstep, hending, length_rows host (plain.1 i) q plain.2, ?_⟩
    intro row hrow
    rw [eq_touches_of_mem_rows hrow]
    constructor
    · exact isReleased_touches
    · rintro rfl
      rfl
  · intro identifier dest context application files sh call ending
    rcases ledger_carryOut_fetch host identifier dest context sh L with ⟨e, he, hledger⟩ |
      ⟨h, row, hh, hrow, hledger⟩
    · exact .inl ⟨e, he, hledger⟩
    · refine .inr ⟨h, row ++ [.close], hh, hledger, ?_, List.getLast?_concat⟩
      rw [List.count_append, List.count_eq_zero_of_not_mem hrow]
      rfl
  · intro l response body t hb h
    have hclose : h.close = body.close := S3.Object.close_handle hb
    constructor
    · intro r q hq hobtained
      rw [outside_of_obtained? hobtained, ← hclose]
      rcases hq with rfl | rfl <;> rfl
    · intro identifier dest context application files sh call hobject
      obtain ⟨o, _, ho⟩ := outside_of_fetched (I := fun _ ↦ True) hobject
        ⟨fun _ _ ↦ trivial, fun _ _ _ _ _ _ ↦ trivial, fun _ _ _ _ _ ↦ trivial⟩ trivial dest
      exact ⟨o, by rw [← hclose]; exact ho⟩
  · intro host s k h t hh ht
    constructor
    · intro r q hq hobtained
      rw [outside_of_obtained? hobtained]
      exact Scripted.closed_of_after hh ht hq
    · intro identifier dest context application files sh call hobject
      obtain ⟨o, ho, hending⟩ :=
        outside_of_fetched hobject (Scripted.useKeeps_of_isHandleOf hh) ht dest
      rw [hending]
      exact Scripted.closed_of_close hh ho
  · intro c l h o p hc hfetch
    exact Scripted.isHandleOf_of_fetch hc hfetch

/-- An object that fails at every point once it is fetched. -/
def broken : Scripted.StoredObject where
  data := some [0x64, 0x61]
  faults := {
    contentType := some (.invalidValue "type"), read := some (0, .invalidValue "read")
    bodyClose := some (.invalidValue "body"), close := some (.invalidValue "handle") }

/-- The shell of a process that reaches a store with that object only, directly. -/
def brokenShell : CommandLine.Shell Scripted.Stage where
  application := { settings := Scripted.directSettings }
  session := Scripted.session [⟨⟨"images", "c.jpg"⟩, .object broken⟩]
  files := ⟨[], []⟩

open CommandLine in
theorem fetched_brokenShell : ∃ t,
    fetched Scripted.host "c.jpg" [] brokenShell = (.ok (Scripted.handle 0), t) ∧
      Scripted.IsFetched 0 t.outside := by
  have hhandle : (fetched Scripted.host "c.jpg" [] brokenShell).1 = .ok (Scripted.handle 0) := rfl
  have hfetched : (fetched Scripted.host "c.jpg" [] brokenShell).2.outside.fetched[0]? =
      some broken.fetched := rfl
  exact ⟨_, Prod.ext hhandle rfl, _, hfetched⟩

open CommandLine Resolver in
/-- The handles of that object are released nevertheless, and its stream is closed. -/
theorem no_handle_leaks_broken :
    (askAll Scripted.host.watched (fun _ : Fin 2 ↦ (Scripted.direct "c.jpg").watched)
        (brokenShell.session.watched [])
        [(0, .checkAccess), (1, .openStream), (1, .resolveFormat)]).2.outside.ledger =
      [[.close], [], [.contentType, .close]] ∧
    Scripted.IsClosed 0 ((Scripted.direct "c.jpg").ask Scripted.host .resolveFormat
      brokenShell.session).session.outside ∧
    Scripted.IsClosed 0 (carryOut Scripted.host ⟨.fetch, ["c.jpg", "out.jpg"], []⟩
      brokenShell).2.session.outside := by
  have h := no_handle_leaks Scripted.host (fun _ : Fin 2 ↦ Scripted.direct "c.jpg")
    brokenShell.session []
  refine ⟨by decide +kernel, ?_, ?_⟩
  · let r := Scripted.direct "c.jpg"
    let fetching := r.fetch Scripted.host brokenShell.session
    have hobtained : r.obtained? Scripted.host .resolveFormat brokenShell.session =
        some (Scripted.handle 0, fetching.session) := obtained?_eq_some.2 ⟨rfl, rfl, rfl⟩
    have hfetched : fetching.session.outside.fetched[0]? = some broken.fetched := rfl
    exact (h.2.2.2.1 Scripted.host _ 0 _ _ .own ⟨_, hfetched⟩).1 r .resolveFormat (.inr rfl)
      hobtained
  · obtain ⟨t, hobject, ht⟩ := fetched_brokenShell
    exact (h.2.2.2.1 Scripted.host _ 0 _ t .own ht).2 "c.jpg" "out.jpg" [] brokenShell.application
      brokenShell.files hobject

end ObjectLookup
