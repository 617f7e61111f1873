import ObjectLookup.CommandLine
import ObjectLookup.Proofs.FileTree.Content
import ObjectLookup.Proofs.Resolver.Activity
import ObjectLookup.Proofs.Scripted.Playback

/-! # A copy is complete or it is not there

The command `fetch` copies the bytes of an object to a file. However the object fails, the file has
all of them in the end, or it is gone, or it is as it was before (`fetch_leaves_no_part`).

The copy makes one read more than there are chunks, since it takes a read that returns nothing to
see the end. So it breaks off if and only if the fault of the object is due within these reads, of
which the last one may be the one that fails. The induction is on the reads that may still be made
(`copy_of_plays`): the file has what was read so far, and the stream has the rest.
-/

namespace ObjectLookup.CommandLine

open FileTree (IsFree)

variable {σ : Type}

/-! ## Copying -/

section Copy

variable {stream : Stream σ} {b : Body} {Held : σ → Prop} {At : List UInt8 → Nat → σ → Prop}

variable {dest : Path} {rest content : List UInt8} {reads : Nat} {s : Session σ} {e : Failure}

/-- A read that fails ends the copy. -/
theorem copy_of_fault (hplays : stream.Plays b Held At) (dest : Path) (fuel : Nat)
    (files : FileTree) (hat : At rest reads s.outside) (hfault : b.faultAt reads = some e) :
    ∃ s', Held s'.outside ∧
      copy stream dest (fuel + 1) s files = (.error e, s', files) := by
  obtain ⟨o, hread, hat'⟩ := hplays.read_fails chunkSize hat hfault
  refine ⟨{ s with outside := o }, hplays.held hat', ?_⟩
  simp only [copy, Session.perform, hread]

/-- A read that returns nothing ends the copy. -/
theorem copy_of_end (hplays : stream.Plays b Held At) (dest : Path) (fuel : Nat)
    (files : FileTree) (hat : At [] reads s.outside) (hfault : b.faultAt reads = none) :
    ∃ s', Held s'.outside ∧
      copy stream dest (fuel + 1) s files = (.ok (), s', files) := by
  obtain ⟨o, hread, hat'⟩ := hplays.read chunkSize hat hfault
  rw [List.take_nil] at hread
  refine ⟨{ s with outside := o }, hplays.held hat', ?_⟩
  simp only [copy, Session.perform, hread]

/-- A chunk goes to the file, and the copy goes on with the rest. -/
theorem copy_of_chunk (hplays : stream.Plays b Held At) (dest : Path) (fuel : Nat)
    (files : FileTree) (hchunk : 0 < b.chunk chunkSize) (hat : At rest reads s.outside)
    (hrest : rest ≠ []) (hfault : b.faultAt reads = none) :
    ∃ s', At (rest.drop (b.chunk chunkSize)) (reads + 1) s'.outside ∧
      copy stream dest (fuel + 1) s files =
        copy stream dest fuel s' (files.append dest (rest.take (b.chunk chunkSize))) := by
  obtain ⟨o, hread, hat'⟩ := hplays.read chunkSize hat hfault
  refine ⟨{ s with outside := o }, hat', ?_⟩
  rcases htake : rest.take (b.chunk chunkSize) with _ | ⟨x, bytes⟩
  · rcases List.take_eq_nil_iff.1 htake with h | h
    · omega
    · exact absurd h hrest
  · rw [htake] at hread
    simp only [copy, Session.perform, hread]

/-- From where the stream is, the copy breaks off if one of the reads that it takes fails, and the
file has some of the bytes then; else the file has all that was left in the end. -/
theorem copy_of_plays {fuel : Nat} {files : FileTree} (hplays : stream.Plays b Held At)
    (hlimit : b.limit ≠ some 0) (hat : At rest reads s.outside)
    (hfile : files.content? dest = some content)
    (hfuel : b.readsFor chunkSize rest.length ≤ fuel) :
    (b.FailsWithin (reads + b.readsFor chunkSize rest.length) ∧
      ∃ e s' files' part, copy stream dest fuel s files = (.error e, s', files') ∧
        Held s'.outside ∧ files'.content? dest = some part) ∨
    (¬ b.FailsWithin (reads + b.readsFor chunkSize rest.length) ∧
      ∃ s' files', copy stream dest fuel s files = (.ok (), s', files') ∧
        Held s'.outside ∧ files'.content? dest = some (content ++ rest)) := by
  have hchunk : 0 < b.chunk chunkSize := Body.chunk_pos hlimit (by decide)
  induction fuel generalizing rest content reads s files with
  | zero =>
      have hpos := b.readsFor_pos chunkSize rest.length
      omega
  | succ fuel ih =>
      have hpos := b.readsFor_pos chunkSize rest.length
      rcases hfault : b.faultAt reads with _ | e
      · by_cases hrest : rest = []
        · -- The one read that it takes returns nothing.
          subst hrest
          obtain ⟨s', hheld, hcopy⟩ := copy_of_end hplays dest fuel files hat hfault
          refine .inr ⟨?_, s', files, hcopy, hheld, by rw [List.append_nil]; exact hfile⟩
          rintro ⟨n, e, hn, hlt⟩
          have hreads : reads < n := Body.lt_of_faultAt_eq_none hfault hn
          rw [List.length_nil, Body.readsFor_zero hchunk] at hlt
          omega
        · -- It takes one read less for what comes behind the chunk.
          obtain ⟨s', hat', hcopy⟩ := copy_of_chunk hplays dest fuel files hchunk hat hrest hfault
          have hless : b.readsFor chunkSize rest.length =
              b.readsFor chunkSize (rest.drop (b.chunk chunkSize)).length + 1 := by
            rw [Body.readsFor_eq_succ hchunk (List.length_pos_iff.2 hrest), List.length_drop]
          have h := ih hat' (FileTree.content?_append hfile (rest.take (b.chunk chunkSize)))
            (by omega)
          rw [List.append_assoc, List.take_append_drop] at h
          rw [hcopy, hless, ← Nat.add_assoc, Nat.add_right_comm]
          exact h
      · obtain ⟨s', hheld, hcopy⟩ := copy_of_fault hplays dest fuel files hat hfault
        obtain ⟨n, hn, hle⟩ := Body.exists_of_faultAt hfault
        exact .inl ⟨⟨n, e, hn, by omega⟩, e, s', files, content, hcopy, hheld, hfile⟩

end Copy

/-! ## Saving -/

section Save

variable {stream : Stream σ} {b : Body} {Held : σ → Prop} {At : List UInt8 → Nat → σ → Prop}
  {dest : Path} {s : Session σ} {files made : FileTree}

/-- Saving a stream from its start leaves the file with all its bytes, or no file. -/
theorem saveOrRemove_of_plays (hplays : stream.Plays b Held At) (hlimit : b.limit ≠ some 0)
    (hat : At b.data 0 s.outside) (hmade : files.ensureDirectories dest.parent = (.ok (), made))
    (hfree : made.IsFree dest) :
    (b.FailsWithin (b.readsFor chunkSize b.data.length) ∧
      ∃ e s' files', saveOrRemove (some stream) dest s files = (.error e, s', files') ∧
        Held s'.outside ∧ files'.at? dest = none) ∨
    (¬ b.FailsWithin (b.readsFor chunkSize b.data.length) ∧
      ∃ s' files', saveOrRemove (some stream) dest s files = (.ok (), s', files') ∧
        Held s'.outside ∧ files'.content? dest = some b.data) := by
  obtain ⟨created, hcreate, hempty⟩ := FileTree.content?_create hfree
  have hsave : save (some stream) dest s files =
      copy stream dest (stream.remaining s.outside + 1) s created := by
    simp only [save, hmade, hcreate]
  have h := copy_of_plays hplays hlimit hat hempty (hplays.remaining chunkSize hat)
  rw [Nat.zero_add] at h
  rcases h with ⟨hfails, e, s', files', part, hcopy, hheld, hpart⟩ |
    ⟨hfails, s', files', hcopy, hheld, hall⟩
  · obtain ⟨removed, hunlink, hgone⟩ := FileTree.at?_unlink hpart
    refine .inl ⟨hfails, e, s', removed, ?_, hheld, hgone⟩
    simp only [saveOrRemove, hsave, hcopy, hunlink]
  · refine .inr ⟨hfails, s', files', ?_, hheld, hall⟩
    simp only [saveOrRemove, hsave, hcopy]

/-- The stream and the handle are closed whatever came of saving, and the result is a success only
if all of it was. The files stay as they were saved. -/
theorem transfer_of_saved {h : Handle σ} {o : σ} {x : Except Failure Unit} {s' : Session σ}
    {files' : FileTree} (hplays : stream.Plays b Held At)
    (hclose : ∀ o, Held o → (h.close o).1 = Failure.raised b.handleFault)
    (hopen : h.stream s.outside = (.ok (some stream), o))
    (hsave : saveOrRemove (some stream) dest { s with outside := o } files = (x, s', files'))
    (hheld : Held s'.outside) :
    ∃ y s'', transfer ⟨h, none, false⟩ dest s files = (y, s'', files') ∧
      (y = .ok () ↔ x = .ok () ∧ b.streamFault = none ∧ b.handleFault = none) := by
  obtain ⟨p, hstream, hheld'⟩ := hplays.close hheld
  rcases hhandle : h.close p with ⟨z, p'⟩
  have hz : z = Failure.raised b.handleFault := by rw [← hclose p hheld', hhandle]
  subst hz
  have hnew : ContentSource.newStream ⟨h, none, false⟩ s =
      ⟨.ok (some stream), ⟨h, some stream, false⟩, { s with outside := o }⟩ := by
    simp [ContentSource.newStream, Session.perform, hopen]
  have hstream' : closeStream (some stream) x s' =
      ((Failure.raised b.streamFault).bind fun _ ↦ x, { s' with outside := p }) := by
    simp only [closeStream, Session.perform, hstream]
    rcases b.streamFault with _ | e <;> rfl
  refine ⟨(Failure.raised b.handleFault).bind fun _ ↦ (Failure.raised b.streamFault).bind fun _ ↦ x,
    { s' with outside := p' }, ?_, ?_⟩
  · simp only [transfer, hnew, hsave, hstream', ContentSource.close, Session.perform, hhandle]
    rcases b.handleFault with _ | e <;> rfl
  · rw [Failure.raised_bind_eq_ok, Failure.raised_bind_eq_ok]
    constructor
    · rintro ⟨hh, hs, hx⟩
      exact ⟨hx, hs, hh⟩
    · rintro ⟨hx, hs, hh⟩
      exact ⟨hh, hs, hx⟩

end Save

/-- There is no directory at the path, and those above it are there or can be made. -/
def IsWritable (files : FileTree) (dest : Path) : Prop :=
  ∃ made, files.ensureDirectories dest.parent = (.ok (), made) ∧ made.IsFree dest

/-- How a transfer of the body leaves the files, and whether it succeeds. -/
inductive Transferred (b : Body) (dest : Path) (files files' : FileTree) (succeeds : Prop) : Prop
    where
  /-- The stream could not be opened. -/
  | unopened (hopen : b.openFault ≠ none) (hfails : ¬ succeeds) (hfiles : files' = files)
  /-- A read failed, and the file was removed. -/
  | brokenOff (hopen : b.openFault = none)
      (hreads : b.FailsWithin (b.readsFor chunkSize b.data.length)) (hfails : ¬ succeeds)
      (hgone : files'.at? dest = none)
  /-- The file has all the data. The transfer still fails if something cannot be closed. -/
  | complete (hopen : b.openFault = none)
      (hreads : ¬ b.FailsWithin (b.readsFor chunkSize b.data.length))
      (hsucceeds : succeeds ↔ b.streamFault = none ∧ b.handleFault = none)
      (hall : files'.content? dest = some b.data)

/-- The file has all the data, or what it had before. -/
theorem Transferred.content?_eq {b : Body} {dest : Path} {files files' : FileTree} {succeeds : Prop}
    {content : List UInt8} (h : Transferred b dest files files' succeeds)
    (hcontent : files'.content? dest = some content) :
    content = b.data ∨ files.content? dest = some content := by
  cases h with
  | unopened _ _ hfiles => exact .inr (hfiles ▸ hcontent)
  | brokenOff _ _ _ hgone =>
      rw [FileTree.content?_of_at?_eq_none hgone] at hcontent
      cases hcontent
  | complete _ _ _ hall =>
      rw [hall] at hcontent
      cases hcontent
      exact .inl rfl

theorem transfer_of_serves {h : Handle σ} {b : Body} {dest : Path} {s : Session σ}
    {files : FileTree} (hserves : h.Serves b s.outside) (hlimit : b.limit ≠ some 0)
    (hdest : IsWritable files dest) :
    ∃ y s' files', transfer ⟨h, none, false⟩ dest s files = (y, s', files') ∧
      Transferred b dest files files' (y = .ok ()) := by
  obtain ⟨Held, At, hclose, hfault, hopens⟩ := hserves
  obtain ⟨made, hmade, hfree⟩ := hdest
  rcases ho : b.openFault with _ | e
  · obtain ⟨stream, o, hopen, hat, hplays⟩ := hopens ho
    rcases saveOrRemove_of_plays (s := { s with outside := o }) hplays hlimit hat hmade hfree with
      ⟨hreads, e, s', files', hsave, hheld, hgone⟩ | ⟨hreads, s', files', hsave, hheld, hall⟩
    · obtain ⟨y, s'', htransfer, hy⟩ := transfer_of_saved hplays hclose hopen hsave hheld
      refine ⟨y, s'', files', htransfer, .brokenOff ho hreads ?_ hgone⟩
      intro h
      cases (hy.1 h).1
    · obtain ⟨y, s'', htransfer, hy⟩ := transfer_of_saved hplays hclose hopen hsave hheld
      exact ⟨y, s'', files', htransfer, .complete ho hreads (by simpa using hy) hall⟩
  · obtain ⟨o, hopen, _⟩ := hfault e ho
    have hnew : ContentSource.newStream ⟨h, none, false⟩ s =
        ⟨.error (ContentSource.openFailure e), ⟨h, none, false⟩, { s with outside := o }⟩ := by
      simp [ContentSource.newStream, Session.perform, hopen]
    have hopen : b.openFault ≠ none := by simp [ho]
    rcases hhandle : h.close o with ⟨e' | ⟨⟩, p⟩
    · refine ⟨.error e', { s with outside := p }, files, ?_, .unopened hopen (by simp) rfl⟩
      simp only [transfer, hnew, ContentSource.close, Session.perform, hhandle]
    · refine ⟨.error (ContentSource.openFailure e), { s with outside := p }, files, ?_,
        .unopened hopen (by simp) rfl⟩
      simp only [transfer, hnew, ContentSource.close, Session.perform, hhandle]

/-! ## The command -/

/-- The object that a call is about, or why it cannot be fetched. -/
def fetched (host : Host σ) (identifier : String) (context : List String) (sh : Shell σ) :
    Except Failure (Handle σ) × Session σ :=
  match resolverOf host.importer identifier context sh with
  | (.error e, sh) => (.error e, sh.session)
  | (.ok r, sh) => ((r.fetch host sh.session).result, (r.fetch host sh.session).session)

theorem exitCode_pos (className : String) : 0 < exitCode className := by
  unfold exitCode
  split
  · decide
  · split
    · decide
    · split <;> decide

@[simp] theorem files_conclude (verbose : Bool) (x : Except Failure String × Shell σ) :
    (conclude verbose x).files = x.2.files := by
  rcases x with ⟨e | line, sh⟩ <;> rfl

/-- A run exits with `0` if and only if it does not fail. -/
theorem exitCode_conclude (verbose : Bool) (x : Except Failure Unit) (line : String)
    (sh : Shell σ) :
    (conclude verbose (x.map fun _ ↦ line, sh)).exitCode = 0 ↔ x = .ok () := by
  rcases x with e | ⟨⟩
  · have h := exitCode_pos e.fault.name
    refine iff_of_false ?_ nofun
    change exitCode e.fault.name ≠ 0
    omega
  · exact iff_of_true rfl rfl

theorem output_conclude (verbose : Bool) (x : Except Failure Unit) (line : String)
    (sh : Shell σ) :
    (conclude verbose (x.map fun _ ↦ line, sh)).output =
      if (conclude verbose (x.map fun _ ↦ line, sh)).exitCode = 0 then line else "" := by
  rcases x with e | ⟨⟩
  · rw [if_neg fun h ↦ nomatch (exitCode_conclude verbose (.error e) line sh).1 h]
    rfl
  · rw [if_pos ((exitCode_conclude verbose (.ok ()) line sh).2 rfl)]
    rfl

theorem files_resolverOf {importer : Importer σ} {identifier : String} {context : List String}
    {sh sh' : Shell σ} {x : Except Failure (Resolver σ)}
    (h : resolverOf importer identifier context sh = (x, sh')) : sh'.files = sh.files := by
  rcases hc : contextEntries context with e | entries <;> simp only [resolverOf, hc] at h <;>
    cases h <;> rfl

/-- The command transfers the object that it fetches, if it can fetch one. -/
theorem carryOut_fetch (host : Host σ) (identifier dest : String) (context : List String)
    (sh : Shell σ) :
    (∃ e s sh', fetched host identifier context sh = (.error e, s) ∧ sh'.files = sh.files ∧
      carryOut host ⟨.fetch, [identifier, dest], context⟩ sh = (.error e, sh')) ∨
    (∃ h s y s' files' sh', fetched host identifier context sh = (.ok h, s) ∧
      transfer ⟨h, none, false⟩ (.ofText dest) s sh.files = (y, s', files') ∧ sh'.files = files' ∧
      carryOut host ⟨.fetch, [identifier, dest], context⟩ sh =
        (y.map fun _ ↦ printed ("Wrote " ++ toString (files'.size (.ofText dest)) ++
          " bytes to " ++ (Path.ofText dest).text), sh')) := by
  rcases hr : resolverOf host.importer identifier context sh with ⟨e | r, sh₁⟩
  · refine .inl ⟨e, sh₁.session, sh₁, ?_, files_resolverOf hr, ?_⟩
    · simp only [fetched, hr]
    · simp only [carryOut, List.headD_cons, hr]
  · have hfiles : sh₁.files = sh.files := files_resolverOf hr
    have hdest : [identifier, dest].getLastD "" = dest := rfl
    rcases hk : (r.fetch host sh₁.session).result with e | k
    · refine .inl ⟨e, (r.fetch host sh₁.session).session,
        { sh₁ with session := (r.fetch host sh₁.session).session }, ?_, hfiles, ?_⟩
      · simp only [fetched, hr, hk]
      · simp only [carryOut, List.headD_cons, hr, fetch, Resolver.openStream, hk, Except.map]
    · rcases ht : transfer ⟨k, none, false⟩ (.ofText dest) (r.fetch host sh₁.session).session
        sh.files with ⟨y, s', files'⟩
      refine .inr ⟨k, _, y, s', files', { sh₁ with session := s', files := files' }, ?_, ht, rfl,
        ?_⟩
      · simp only [fetched, hr, hk]
      · simp only [carryOut, List.headD_cons, hr, fetch, Resolver.openStream, hk, Except.map,
          hdest, hfiles, ht]

section Command

variable {identifier dest : String} {context : List String} {sh : Shell σ} {b : Body}

/-- The command fails and leaves the files as they were, or it ends as the transfer does. -/
theorem ending_of_fetch (host : Host σ) (verbose : Bool) (hlimit : b.limit ≠ some 0)
    (hserves : ∀ h s, fetched host identifier context sh = (.ok h, s) → h.Serves b s.outside)
    (hdest : IsWritable sh.files (.ofText dest)) :
    let path := Path.ofText dest
    let object := (fetched host identifier context sh).1
    let ending := conclude verbose (carryOut host ⟨.fetch, [identifier, dest], context⟩ sh)
    (∃ e, object = .error e ∧ ending.exitCode ≠ 0 ∧ ending.files = sh.files) ∨
    (∃ h, object = .ok h ∧
      Transferred b path sh.files ending.files (ending.exitCode = 0) ∧
      ending.output = if ending.exitCode = 0 then
        printed ("Wrote " ++ toString (ending.files.size path) ++ " bytes to " ++ path.text)
        else "") := by
  intro path object ending
  rcases carryOut_fetch host identifier dest context sh with
    ⟨e, s, sh', hfetched, hfiles, hcarry⟩ | ⟨h, s, y, s', files', sh', hfetched, ht, hfiles, hcarry⟩
  · refine .inl ⟨e, congrArg Prod.fst hfetched, ?_, ?_⟩
    · simp only [ending, hcarry]
      exact fun h ↦ nomatch (exitCode_conclude verbose (.error e) "" sh').1 h
    · simp only [ending, hcarry, files_conclude, hfiles]
  · obtain ⟨y₁, s₁, files₁, ht₁, htransferred⟩ :=
      transfer_of_serves (hserves h s hfetched) hlimit hdest
    rw [ht] at ht₁
    cases ht₁
    have hsame : ending.files = files' := by simp only [ending, hcarry, files_conclude, hfiles]
    have hcode : ending.exitCode = 0 ↔ y = .ok () := by
      simp only [ending, hcarry]
      exact exitCode_conclude verbose y _ sh'
    refine .inr ⟨h, congrArg Prod.fst hfetched, ?_, ?_⟩
    · rw [hsame, hcode]
      exact htransferred
    · rw [hsame]
      simp only [ending, hcarry]
      exact output_conclude verbose y _ sh'

/-- However an object with a body fails, the command leaves all of its data in the file, or no file,
or the files as they were. The files are as they were if the object cannot be fetched or its stream
cannot be opened. The file is gone if one of the reads fails that it takes to see the end of the
data. Otherwise it has all the data, and the command succeeds if and only if what was opened can be
closed. So the file never has a part of the data that it did not have before. -/
theorem fetch_leaves_no_part (host : Host σ) (identifier dest : String) (context : List String)
    (sh : Shell σ) (verbose : Bool) {b : Body} (hlimit : b.limit ≠ some 0)
    (hserves : ∀ h s, fetched host identifier context sh = (.ok h, s) → h.Serves b s.outside)
    (hdest : IsWritable sh.files (.ofText dest)) :
    let path := Path.ofText dest
    let object := (fetched host identifier context sh).1
    let reads := b.readsFor chunkSize b.data.length
    let ending := conclude verbose (carryOut host ⟨.fetch, [identifier, dest], context⟩ sh)
    ((∃ e, object = .error e) ∨ b.openFault ≠ none →
      ending.exitCode ≠ 0 ∧ ending.files = sh.files) ∧
    ((∃ h, object = .ok h) → b.openFault = none → b.FailsWithin reads →
      ending.exitCode ≠ 0 ∧ ending.files.at? path = none) ∧
    ((∃ h, object = .ok h) → b.openFault = none → ¬ b.FailsWithin reads →
      ending.files.content? path = some b.data ∧
      (ending.exitCode = 0 ↔ b.streamFault = none ∧ b.handleFault = none) ∧
      ending.output = if ending.exitCode = 0 then
        printed ("Wrote " ++ toString b.data.length ++ " bytes to " ++ path.text) else "") ∧
    ∀ part, part <+: b.data → part ≠ b.data → ending.files.content? path = some part →
      sh.files.content? path = some part := by
  intro path object reads ending
  rcases ending_of_fetch host verbose hlimit hserves hdest with
    ⟨e, hobject, hcode, hfiles⟩ | ⟨h, hobject, htransferred, houtput⟩
  · refine ⟨fun _ ↦ ⟨hcode, hfiles⟩, ?_, ?_, fun part _ _ hpart ↦ hfiles ▸ hpart⟩
    · rintro ⟨h, hh⟩
      cases hobject.symm.trans hh
    · rintro ⟨h, hh⟩
      cases hobject.symm.trans hh
  · have herror : ¬ ∃ e, object = .error e := by
      rintro ⟨e, he⟩
      cases hobject.symm.trans he
    have hpart : ∀ part, part <+: b.data → part ≠ b.data →
        ending.files.content? path = some part → sh.files.content? path = some part :=
      fun part _ hne hpart ↦ (htransferred.content?_eq hpart).resolve_left hne
    cases htransferred with
    | unopened hopen hfails hfiles =>
        exact ⟨fun _ ↦ ⟨hfails, hfiles⟩, fun _ h ↦ absurd h hopen, fun _ h ↦ absurd h hopen, hpart⟩
    | brokenOff hopen hreads hfails hgone =>
        exact ⟨fun h ↦ absurd hopen (h.resolve_left herror), fun _ _ _ ↦ ⟨hfails, hgone⟩,
          fun _ _ h ↦ absurd hreads h, hpart⟩
    | complete hopen hreads hsucceeds hall =>
        rw [FileTree.size_of_content? hall] at houtput
        exact ⟨fun h ↦ absurd hopen (h.resolve_left herror), fun _ _ h ↦ absurd h hreads,
          fun _ _ _ ↦ ⟨hall, hsucceeds, houtput⟩, hpart⟩

end Command

/-- Three bytes that come two at a time, with a fault after some reads. -/
def torn (after : Nat) : Scripted.StoredObject where
  data := some [0x61, 0x62, 0x63]
  maxChunk := some 2
  faults := { read := some (after, .ofKind .storageFailure "torn") }

/-- A store with such an object, and a file to copy it to that is there already. -/
def tornShell (after : Nat) : Shell Scripted.Stage where
  application := { settings := Scripted.directSettings }
  session := { outside := { entries := [⟨⟨"images", "a.gif"⟩, .object (torn after)⟩] } }
  files := ⟨[], [(["out"], .file [[0x6f]])]⟩

theorem isWritable_tornShell (after : Nat) : IsWritable (tornShell after).files (.ofText "out") :=
  ⟨_, rfl, ["out"], rfl, nofun⟩

/-- The object takes three reads. A fault after two of them removes the file, though all the bytes
were there; one after three never comes up, and neither does it behind a service. -/
theorem fetch_leaves_no_part_torn :
    let ending (host : Host Scripted.Stage) (after : Nat) := conclude false
      (carryOut host ⟨.fetch, ["a.gif", "out"], []⟩ (tornShell after))
    ((ending Scripted.host 2).exitCode ≠ 0 ∧
      (ending Scripted.host 2).files.at? (.ofText "out") = none) ∧
    ((ending Scripted.host 3).exitCode = 0 ∧
      (ending Scripted.host 3).files.content? (.ofText "out") = some [0x61, 0x62, 0x63]) ∧
    ((ending Resolver.serviced 3).exitCode = 0 ∧
      (ending Resolver.serviced 3).files.content? (.ofText "out") = some [0x61, 0x62, 0x63]) := by
  have hlimit (after : Nat) : (torn after).body.limit ≠ some 0 := by
    intro h
    cases h
  have hstore {after : Nat} (hafter : after = 2 ∨ after = 3) (h : Handle Scripted.Stage)
      (s : Session Scripted.Stage)
      (hf : fetched Scripted.host "a.gif" [] (tornShell after) = (.ok h, s)) :
      h.Serves (torn after).body s.outside := by
    have hfirst : (fetched Scripted.host "a.gif" [] (tornShell after)).1 = .ok (Scripted.handle 0) ∧
        (fetched Scripted.host "a.gif" [] (tornShell after)).2.outside.fetched[0]? =
          some (torn after).fetched := by
      rcases hafter with rfl | rfl <;> exact ⟨rfl, rfl⟩
    rw [hf] at hfirst
    cases hfirst.1
    exact Scripted.serves_handle hfirst.2
  have hservice (h : Handle Scripted.Stage) (s : Session Scripted.Stage)
      (hf : fetched Resolver.serviced "a.gif" [] (tornShell 3) = (.ok h, s)) :
      h.Serves (torn 3).body s.outside := by
    cases hf
    exact S3.Object.serves_handle rfl rfl (Scripted.plays_stream 0 (torn 3)) rfl rfl
      ⟨(torn 3).fetched, rfl, rfl, rfl, rfl, rfl⟩
  have hfails : (torn 2).body.FailsWithin 3 := ⟨2, _, rfl, by decide⟩
  have hlasts : ¬ (torn 3).body.FailsWithin 3 := by
    rintro ⟨n, e, hn, hlt⟩
    cases hn
    omega
  have hcut := (fetch_leaves_no_part Scripted.host "a.gif" "out" [] (tornShell 2) false (hlimit 2)
    (hstore (.inl rfl)) (isWritable_tornShell 2)).2.1 ⟨_, rfl⟩ rfl hfails
  have hwhole := (fetch_leaves_no_part Scripted.host "a.gif" "out" [] (tornShell 3) false
    (hlimit 3) (hstore (.inr rfl)) (isWritable_tornShell 3)).2.2.1 ⟨_, rfl⟩ rfl hlasts
  have hserved := (fetch_leaves_no_part Resolver.serviced "a.gif" "out" [] (tornShell 3) false
    (hlimit 3) hservice (isWritable_tornShell 3)).2.2.1 ⟨_, rfl⟩ rfl hlasts
  exact ⟨hcut, ⟨hwhole.2.1.2 ⟨rfl, rfl⟩, hwhole.1⟩, hserved.2.1.2 ⟨rfl, rfl⟩, hserved.1⟩

/-- The object is copied and the command succeeds, but the line that it prints lacks the control
sequence in the name of the file. -/
theorem output_fetch_highlighted :
    let path := Path.ofText "o\x1b[1mut"
    let ending := conclude false (carryOut Scripted.host ⟨.fetch, ["a.gif", "o\x1b[1mut"], []⟩
      ⟨{ settings := Scripted.directSettings }, Scripted.session [Resolver.image], ⟨[], []⟩⟩)
    ending.exitCode = 0 ∧ ending.files.content? path = some [0x61] ∧
      ending.output ≠ "Wrote 1 bytes to " ++ path.text ++ "\n" := by
  refine ⟨rfl, rfl, ?_⟩
  have hline : printed ("Wrote " ++ toString 1 ++ " bytes to " ++ (Path.ofText "o\x1b[1mut").text) =
      "Wrote 1 bytes to out\n" := by
    decide +kernel
  change printed ("Wrote " ++ toString 1 ++ " bytes to " ++ (Path.ofText "o\x1b[1mut").text) ≠ _
  rw [hline]
  decide

end ObjectLookup.CommandLine
