import ObjectLookup.CommandLine
import ObjectLookup.Proofs.Resolver.Unlocated
import ObjectLookup.Proofs.Settings.Environment

/-! # Runs that fetch nothing

Settings that do not load and context entries that are none are refused as invalid values
(`Settings.isRefusal_of_ofVariables`, `isRefusal_of_contextEntries`). They are read before anything
else is done, so that a run which ends there has done nothing at all (`isRefused_of_unloaded`,
`isRefused_of_unread`).
-/

namespace ObjectLookup

variable {σ : Type} {e : Failure}

/-! ## Refusals -/

theorem CommandLine.exitCode_of_isRefusal (h : e.IsRefusal) : exitCode e.fault.name = 2 := by
  obtain ⟨text, rfl⟩ := h
  rfl

namespace CommandLine

theorem isRefusal_of_entry {text : String} (h : entry text = .error e) : e.IsRefusal := by
  rcases hx : entry? text with _ | x <;> simp only [entry, hx] at h <;> cases h
  exact ⟨_, rfl⟩

theorem isRefusal_of_contextEntries {pairs : List String} (h : contextEntries pairs = .error e) :
    e.IsRefusal := by
  have hmap : pairs.mapM entry = .error e := by
    rcases hp : pairs.mapM entry with e' | xs <;> simp only [contextEntries, hp] at h <;> cases h
    rfl
  clear h
  induction pairs with
  | nil => cases hmap
  | cons text pairs ih =>
      rw [List.mapM_cons] at hmap
      rcases ht : entry text with e' | x
      · rw [ht] at hmap
        cases hmap
        exact isRefusal_of_entry ht
      · rcases hp : pairs.mapM entry with e' | xs <;> rw [ht, hp] at hmap <;> cases hmap
        exact ih hp

/-! ## Runs that end there -/

/-- A run that was refused: it says so, exits with `2`, and has done nothing else. There is nothing
in its journal, and all outside of it is as it was. -/
structure Ending.IsRefused (ending : Ending σ) (e : Failure) (outside : σ) (files : FileTree) :
    Prop where
  exitCode : ending.exitCode = 2
  output : ending.output = ""
  errors : ending.errors = errorLine e
  session : ending.session = { outside }
  files : ending.files = files

variable {u : Surroundings σ} {env : Settings.Variables} {arguments rest : List String}
  {verbose : Bool} {verb : Verb} {settings : Settings} {call : Call}

theorem isRefused_of_unloaded (harguments : readProgram arguments = .ok (verbose, verb, rest))
    (he : Settings.ofVariables env = .error e) (outside : σ) (files : FileTree) :
    (run u env arguments outside files).IsRefused e outside files := by
  simp only [run, harguments, he]
  exact ⟨exitCode_of_isRefusal (Settings.isRefusal_of_ofVariables he), rfl, rfl, rfl, rfl⟩

/-- No resolver is made for a call whose context cannot be read. -/
theorem carryOut_of_unread (host : Host σ) (he : contextEntries call.context = .error e)
    (sh : Shell σ) : carryOut host call sh = (.error e, sh) := by
  simp only [carryOut, resolverOf, he]

theorem isRefused_of_unread (harguments : readProgram arguments = .ok (verbose, verb, rest))
    (hsettings : Settings.ofVariables env = .ok settings) (hcall : readCall verb rest = .ok call)
    (he : contextEntries call.context = .error e) (outside : σ) (files : FileTree) :
    (run u env arguments outside files).IsRefused e outside files := by
  simp only [run, harguments, hsettings, hcall, perform, carryOut_of_unread _ he]
  refine ⟨exitCode_of_isRefusal (isRefusal_of_contextEntries he), rfl, ?_, rfl, rfl⟩
  cases verbose <;> exact String.empty_append

end CommandLine

/-- Nothing is fetched where it is not known what to fetch. However the resolvers of a session
without a client are asked: if none of them finds a location, then nothing was requested, the
factory was not run, and there is no client. And a run of the program whose settings do not load, or
whose context entries cannot be read, is refused. -/
theorem nothing_fetched_of_unlocated {ι : Type} [DecidableEq ι] (host : Host σ)
    (rs : ι → Resolver σ) (s : Session σ) (calls : List (ι × Question))
    (u : CommandLine.Surroundings σ) (env : Settings.Variables) (arguments : List String)
    (outside : σ) (files : FileTree) :
    let (rs', s') := Resolver.askAll host rs s calls
    (s.client = none → (∀ i, (rs' i).resolved = none) →
      s'.requests = s.requests ∧ s'.built = s.built ∧ s'.initialized = false) ∧
    ∀ verbose verb rest e, CommandLine.readProgram arguments = .ok (verbose, verb, rest) →
      (Settings.ofVariables env = .error e ∨
        ∃ settings call, Settings.ofVariables env = .ok settings ∧
          CommandLine.readCall verb rest = .ok call ∧
          CommandLine.contextEntries call.context = .error e) →
      (CommandLine.run u env arguments outside files).IsRefused e outside files := by
  constructor
  · intro hclient hresolved
    obtain ⟨hclient', hbuilt, hrequests⟩ := Resolver.idle_askAll host rs s calls hresolved
    refine ⟨hrequests, hbuilt, ?_⟩
    rw [Session.initialized, hclient', hclient]
    rfl
  · rintro verbose verb rest e harguments (he | ⟨settings, call, hsettings, hcall, he⟩)
    · exact CommandLine.isRefused_of_unloaded harguments he outside files
    · exact CommandLine.isRefused_of_unread harguments hsettings hcall he outside files

/-- Resolvers that find no location: for want of a known strategy, of a bucket, of a delegate that
can be called, or of one that gives an answer that is of use. -/
def astray : Fin 9 → Resolver Scripted.Stage
  | 0 => { identifier := ⟨"a.gif"⟩, settings := {} }
  | 1 => { identifier := ⟨"a.gif"⟩, settings := { lookupStrategy := some " " } }
  | 2 => { identifier := ⟨"a.gif"⟩, settings := { lookupStrategy := some "Static" } }
  | 3 => { identifier := ⟨"a.gif"⟩, settings := { lookupStrategy := some "Direct" } }
  | 4 => { identifier := ⟨"a.gif"⟩, settings := { lookupStrategy := some "Dynamic" } }
  | 5 => {
      identifier := ⟨"a.gif"⟩
      settings := {
        lookupStrategy := some "Dynamic", delegateEnabled := true
        delegateTarget := some "zoo:find" } }
  | 6 => {
      identifier := ⟨"a.gif"⟩
      settings := { lookupStrategy := some "Dynamic", bucketName := some "images" }
      delegate := some (Scripted.delegate 0 (.raise (.invalidValue "closed on Mondays"))) }
  | 7 => {
      identifier := ⟨"a.gif"⟩
      settings := { lookupStrategy := some "Dynamic", bucketName := some "images" }
      delegate := some (Scripted.delegate 0 (.const .null)) }
  | 8 => {
      identifier := ⟨"a.gif"⟩
      settings := { lookupStrategy := some "Dynamic", bucketName := some "images" }
      delegate := some (Scripted.delegate 0 (.const (.int 3))) }

/-- None of these fetches anything, whatever they are asked. Neither does a run with half of the
credentials, nor one with a context entry that has no value. -/
theorem nothing_fetched_of_unlocated_astray :
    let questions : List Question := [.checkAccess, .location, .resolveFormat, .openStream]
    let calls := (List.finRange 9).flatMap fun i ↦ questions.map fun q ↦ (i, q)
    let s := (Resolver.askAll Scripted.host astray { outside := {} } calls).2
    let u : CommandLine.Surroundings Scripted.Stage :=
      ⟨Scripted.host.importer, Scripted.connect⟩
    let env : Settings.Variables := .ofPairs [("S3RESOLVER_SECRET_KEY", "xyzzy")]
    (s.requests = [] ∧ s.built = 0 ∧ s.initialized = false) ∧
      (CommandLine.run u env ["check", "a.gif"] {} ⟨[], []⟩).exitCode = 2 ∧
      (CommandLine.run u .empty ["fetch", "-c", "tenant", "a.gif", "out.gif"] {} ⟨[], []⟩).exitCode
        = 2 := by
  intro questions calls s u env
  have h := nothing_fetched_of_unlocated Scripted.host astray { outside := {} } calls u
  refine ⟨?_, ?_, ?_⟩
  · refine (h .empty [] {} ⟨[], []⟩).1 rfl ?_
    decide +kernel
  · have hunloaded : Settings.ofVariables env = .error Settings.Problem.keyMissing.failure := rfl
    exact ((h env ["check", "a.gif"] {} ⟨[], []⟩).2 _ _ _ _ rfl (.inl hunloaded)).exitCode
  · exact ((h .empty ["fetch", "-c", "tenant", "a.gif", "out.gif"] {} ⟨[], []⟩).2 _ _ _ _ rfl
      (.inr ⟨_, _, rfl, rfl, rfl⟩)).exitCode

end ObjectLookup
