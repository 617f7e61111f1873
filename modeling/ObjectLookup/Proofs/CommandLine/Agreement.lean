import ObjectLookup.CommandLine
import ObjectLookup.Proofs.Resolver.Supplied
import ObjectLookup.Proofs.Resolver.Taxonomy
import ObjectLookup.Scripted.Catalogue

/-! # The command line agrees with the resolver

The commands `check` and `format` go by resolvers that the application makes. They end as the
answers of a resolver have it that is made from the settings alone (`commands_agree`): they print
the answer and exit with `0`, or report its failure and exit with the code for the name of its
class. Where the handle that was fetched does not fail, that class is one of six, and its code is
the one for its kind.

What is printed is the line without its control sequences, as there is no terminal to read them. So
a location with such a sequence in its key is not printed as it is (`output_check_highlighted`).
-/

namespace ObjectLookup.CommandLine

variable {σ : Type}

/-! ## What is printed -/

theorem printed_of_not_mem {line : String} (h : Text.escape ∉ line.toList) :
    printed line = line ++ "\n" := by
  rw [printed, Text.withoutSequences, Text.dropSequences_of_not_mem h, String.ofList_toList]

/-- The line of a format is printed as it is. -/
theorem printed_format (f : Format) : printed (f.name ++ " " ++ f.mediaType.text) =
    f.name ++ " " ++ f.mediaType.text ++ "\n" := by
  apply printed_of_not_mem
  cases f <;> decide

/-! ## How a run ends -/

/-- The run ends as an answer has it that was given with the session `t`: it prints the answer, or
reports the failure. -/
structure EndsAs (verbose : Bool) (answer : Except Failure String) (t : Session σ)
    (ending : Ending σ) : Prop where
  session : ending.session.Matches t
  success : ∀ line, answer = .ok line →
    ending.exitCode = 0 ∧ ending.output = line ∧ ending.errors = shownLogs verbose t
  failure : ∀ e, answer = .error e → ending.exitCode = exitCode e.fault.name ∧
    ending.output = "" ∧ ending.errors = shownLogs verbose t ++ errorLine e

theorem endsAs_conclude (verbose : Bool) {answer : Except Failure String} {t : Session σ}
    {x : Except Failure String × Shell σ} (hx : x.1 = answer) (ht : x.2.session.Matches t) :
    EndsAs verbose answer t (conclude verbose x) := by
  obtain ⟨result, sh⟩ := x
  cases hx
  have hlogs : shownLogs verbose sh.session = shownLogs verbose t := by
    rw [shownLogs, shownLogs, ht.logs_eq]
  rcases result with e | line
  · refine ⟨ht, nofun, ?_⟩
    rintro _ ⟨⟩
    exact ⟨rfl, rfl, by rw [← hlogs]; rfl⟩
  · refine ⟨ht, ?_, nofun⟩
    rintro _ ⟨⟩
    exact ⟨rfl, rfl, hlogs⟩

/-- The fault is of one of the six classes, and the code for its name is the code for its kind. -/
def HasKindCode (e : Failure) : Prop :=
  ∃ k text, e.fault = .ofKind k text ∧ exitCode e.fault.name = kindCode k

theorem hasKindCode_of_isOfTaxonomy {e : Failure} (h : e.IsOfTaxonomy) : HasKindCode e := by
  obtain ⟨k, text, he⟩ := h
  refine ⟨k, text, he, ?_⟩
  rw [he]
  exact exitCode_className k

/-! ## The commands -/

/-- Checks the access to an object and asks for its location then. -/
def accessible (host : Host σ) (r : Resolver σ) (s : Session σ) :
    Step (Resolver σ) σ Location :=
  let access := r.checkAccess host s
  match access.result with
  | .error e => ⟨.error e, access.self, access.session⟩
  | .ok () => access.self.location host access.session

variable {host : Host σ} {q r : Resolver σ} {s t : Session σ}

theorem mirrors_accessible (h : (q.fetch host s).Mirrors (r.fetch host t)) :
    (accessible host q s).Mirrors (accessible host r t) := by
  obtain ⟨hresult, ⟨d, hself⟩, hsession⟩ := Resolver.mirrors_checkAccess h
  have hsettled : (r.checkAccess host t).self.IsSettled := by
    rw [Resolver.self_checkAccess]
    exact Resolver.isSettled_fetch host r t
  rcases hx : (r.checkAccess host t).result with e | ⟨⟩ <;> simp only [accessible, hresult, hx]
  · exact ⟨rfl, ⟨d, hself⟩, hsession⟩
  · rw [hself]
    exact Resolver.mirrors_location_of_settled host hsettled hsession d

/-- Once the access has been checked, the location is there. -/
theorem result_checkAccess_of_accessible {e : Failure}
    (h : (accessible host r s).result = .error e) :
    (r.checkAccess host s).result = .error e := by
  rcases hx : (r.checkAccess host s).result with e' | ⟨⟩ <;> simp only [accessible, hx] at h
  · cases h
    rfl
  · rcases hk : (r.fetch host s).result with e' | k
    · simp [Resolver.checkAccess, hk] at hx
    · obtain ⟨l, _, hl⟩ := Resolver.resolved_fetch hk
      have hf : (r.fetch host s).self.failure = none := by
        rw [Resolver.failure_fetch, hk]
        rfl
      rw [Resolver.self_checkAccess, Resolver.location_of_resolved hf hl] at h
      cases h

theorem check_eq (host : Host σ) (r : Resolver σ) (sh : Shell σ) :
    check host r sh = ((accessible host r sh.session).result.map fun l ↦ printed ("OK " ++ l.text),
      { sh with session := (accessible host r sh.session).session }) := by
  rcases hx : (r.checkAccess host sh.session).result with e | ⟨⟩ <;>
    simp only [check, accessible, hx]
  rfl

theorem format_eq (host : Host σ) (r : Resolver σ) (sh : Shell σ) :
    format host r sh = ((r.resolveFormat host sh.session).result.map
        fun f ↦ f.name ++ " " ++ f.mediaType.text ++ "\n",
      { sh with session := (r.resolveFormat host sh.session).session }) := by
  simp only [format, printed_format]

theorem endsAs_check (verbose : Bool) {identifier : String} {context : List String}
    {sh sh' : Shell σ} (hmade : resolverOf host.importer identifier context sh = (.ok q, sh'))
    (h : (q.fetch host sh'.session).Mirrors (r.fetch host t)) :
    EndsAs verbose ((accessible host r t).result.map fun l ↦ printed ("OK " ++ l.text))
      (accessible host r t).session
      (conclude verbose (carryOut host ⟨.check, [identifier], context⟩ sh)) := by
  have haccess : (accessible host q sh'.session).Mirrors (accessible host r t) :=
    mirrors_accessible h
  apply endsAs_conclude <;> simp only [carryOut, List.headD_cons, hmade, check_eq]
  · rw [haccess.result]
  · exact haccess.session

theorem endsAs_format (verbose : Bool) {identifier : String} {context : List String}
    {sh sh' : Shell σ} (hmade : resolverOf host.importer identifier context sh = (.ok q, sh'))
    (hq : q.recognised = none) (hr : r.recognised = none)
    (h : (q.fetch host sh'.session).Mirrors (r.fetch host t)) :
    EndsAs verbose
      ((r.resolveFormat host t).result.map fun f ↦ f.name ++ " " ++ f.mediaType.text ++ "\n")
      (r.resolveFormat host t).session
      (conclude verbose (carryOut host ⟨.format, [identifier], context⟩ sh)) := by
  have hformat : (q.resolveFormat host sh'.session).Mirrors (r.resolveFormat host t) :=
    Resolver.mirrors_resolveFormat hq hr h
  apply endsAs_conclude <;> simp only [carryOut, List.headD_cons, hmade, format_eq]
  · rw [hformat.result]
  · exact hformat.session

/-- The application loads a delegate for a resolver if and only if the settings select the dynamic
strategy. -/
theorem isSome_delegate_resolverFor (importer : Importer σ) (settings : Settings)
    (identifier : Identifier) (context : Context) (s : Session σ) :
    (Application.resolverFor importer { settings } identifier context s).2.1.delegate.isSome ↔
      ∃ d b, (Strategy.select importer settings none s).1 = .ok (.dynamic d b) := by
  rcases Strategy.select_cases importer settings none s with ⟨hs, hx⟩ | ⟨hs, hx⟩ | ⟨hs, d, hx⟩ <;>
    simp only [Application.resolverFor, Application.getDelegate, hs, hx]
  · simp
  · simp
  · exact iff_of_true rfl ⟨_, _, rfl⟩

theorem recognised_resolverFor {importer : Importer σ} {a a' : Application σ}
    {identifier : Identifier} {context : Context} {s' : Session σ}
    (h : a.resolverFor importer identifier context s = (q, a', s')) : q.recognised = none := by
  simp only [Application.resolverFor] at h
  split at h <;> cases h <;> rfl

/-- The commands `check` and `format` end as the answers of a resolver that is made from the
settings alone, in the same session: the first as its location once its access has been checked, the
second as its format. The application has loaded a delegate if and only if the settings select the
dynamic strategy. Where the handle of the object does not fail, no failure is of another class than
one of the six, and the exit code is the one for its kind. -/
theorem commands_agree (host : Host σ) (settings : Settings) (identifier : String)
    {context : List String} {entries : Entries String}
    (hcontext : contextEntries context = .ok entries) (s : Session σ) (files : FileTree)
    (verbose : Bool) :
    let direct : Resolver σ :=
      { identifier := ⟨identifier⟩, settings, context := entries.mapValues .text }
    let shell : Shell σ := ⟨{ settings }, s, files⟩
    let located := accessible host direct s
    let recognised := direct.resolveFormat host s
    ((Application.resolverFor host.importer { settings } ⟨identifier⟩ (entries.mapValues .text)
        s).2.1.delegate.isSome ↔
      ∃ d b, (Strategy.select host.importer settings none s).1 = .ok (.dynamic d b)) ∧
    EndsAs verbose (located.result.map fun l ↦ printed ("OK " ++ l.text)) located.session
      (conclude verbose (carryOut host ⟨.check, [identifier], context⟩ shell)) ∧
    EndsAs verbose (recognised.result.map fun f ↦ f.name ++ " " ++ f.mediaType.text ++ "\n")
      recognised.session
      (conclude verbose (carryOut host ⟨.format, [identifier], context⟩ shell)) ∧
    (direct.mishap? host .checkAccess s = none →
      ∀ e, located.result = .error e → HasKindCode e) ∧
    (direct.mishap? host .resolveFormat s = none →
      ∀ e, recognised.result = .error e → HasKindCode e) := by
  intro direct shell located recognised
  have hfresh : direct.IsFresh := ⟨rfl, rfl⟩
  refine ⟨isSome_delegate_resolverFor _ _ _ _ s, ?_⟩
  rcases hq : Application.resolverFor host.importer { settings } ⟨identifier⟩
    (entries.mapValues .text) s with ⟨q, a, s'⟩
  have hfetch : (q.fetch host s').Mirrors (direct.fetch host s) :=
    Resolver.mirrors_fetch (Resolver.mirrors_location_resolverFor hq)
  have hmade : resolverOf host.importer identifier context shell =
      (.ok q, { shell with application := a, session := s' }) := by
    simp only [resolverOf, hcontext, shell, hq]
  refine ⟨?_, ?_, ?_, ?_⟩
  · exact endsAs_check verbose hmade hfetch
  · exact endsAs_format verbose hmade (recognised_resolverFor hq) rfl hfetch
  · intro hm e he
    exact hasKindCode_of_isOfTaxonomy
      (Resolver.isOfTaxonomy_checkAccess hfresh hm (result_checkAccess_of_accessible he))
  · intro hm e he
    exact hasKindCode_of_isOfTaxonomy (Resolver.isOfTaxonomy_resolveFormat hfresh hm he)

/-- A host with one module to import, whose function makes the key of an identifier. -/
def zoo : Host Scripted.Stage where
  importer := Scripted.Catalogue.importModule [{
    name := "zoo"
    members := [("key", Scripted.function fun identifier _ ↦
      .ok (.text (identifier ++ ".gif")))] }]
  factory := ⟨[], Scripted.build Scripted.client⟩

/-- Settings that select the dynamic strategy and ask for the function of the module. -/
def zooSettings : Settings where
  lookupStrategy := some " Dynamic"
  bucketName := some "images"
  delegateEnabled := true
  delegateTarget := some "zoo:key"

/-- A session over a store with one image, and no client yet. -/
def zooSession : Session Scripted.Stage := { outside := { entries := [Resolver.image] } }

/-- Both commands succeed for the image whose key the delegate makes of `a`, and for `b` there is
none. -/
theorem commands_agree_zoo :
    let carried (verb : Verb) (identifier : String) := conclude false
      (carryOut zoo ⟨verb, [identifier], ["tenant=b=c"]⟩
        ⟨{ settings := zooSettings }, zooSession, ⟨[], []⟩⟩)
    contextEntries ["tenant=b=c"] = .ok ⟨[("tenant", "b=c")]⟩ ∧
    ((carried .check "a").exitCode = 0 ∧ (carried .check "a").output = "OK images/a.gif\n") ∧
    ((carried .format "a").exitCode = 0 ∧ (carried .format "a").output = "GIF image/gif\n") ∧
    ∃ e, HasKindCode e ∧ (carried .check "b").exitCode = exitCode e.fault.name := by
  have hcontext : contextEntries ["tenant=b=c"] = .ok ⟨[("tenant", "b=c")]⟩ := rfl
  obtain ⟨_, hcheck, hformat, _⟩ :=
    commands_agree zoo zooSettings "a" hcontext zooSession ⟨[], []⟩ false
  obtain ⟨_, hmissing, _, hkind, _⟩ :=
    commands_agree zoo zooSettings "b" hcontext zooSession ⟨[], []⟩ false
  have hline : printed ("OK " ++ Location.text ⟨"images", "a.gif"⟩) = "OK images/a.gif\n" :=
    printed_of_not_mem (by decide)
  obtain ⟨hc, ho, _⟩ := hcheck.success "OK images/a.gif\n" (by rw [← hline]; rfl)
  obtain ⟨hc', ho', _⟩ := hformat.success "GIF image/gif\n" rfl
  obtain ⟨hm, _⟩ := hmissing.failure _ rfl
  exact ⟨hcontext, ⟨hc, ho⟩, ⟨hc', ho'⟩, _, hkind rfl _ rfl, hm⟩

/-- An image whose key has a control sequence in it. -/
def highlighted : Scripted.Entry :=
  ⟨⟨"images", "a\x1b[1mb.gif"⟩, .object { data := some [0x61] }⟩

/-- The image is found and the command succeeds, but the line that it prints lacks the sequence. -/
theorem output_check_highlighted :
    let settings := Scripted.directSettings
    let direct : Resolver Scripted.Stage := { identifier := ⟨"a\x1b[1mb.gif"⟩, settings }
    let session := Scripted.session [highlighted]
    let ending := conclude false
      (carryOut Scripted.host ⟨.check, ["a\x1b[1mb.gif"], []⟩ ⟨{ settings }, session, ⟨[], []⟩⟩)
    (accessible Scripted.host direct session).result = .ok highlighted.location ∧
      ending.exitCode = 0 ∧ ending.output ≠ "OK " ++ highlighted.location.text ++ "\n" := by
  refine ⟨rfl, rfl, ?_⟩
  have hline : printed ("OK " ++ highlighted.location.text) = "OK images/ab.gif\n" := by
    decide +kernel
  change printed ("OK " ++ highlighted.location.text) ≠ _
  rw [hline]
  decide

end ObjectLookup.CommandLine
