import ObjectLookup.CommandLine
import ObjectLookup.Proofs.Resolver.Alike

/-! # Commands that run alike

A command is a lookup and perhaps a copy. Streams that are alike are copied alike: the files come
out equal (`alike_copy`, `alike_transfer`). So over alike surroundings, shells that are alike carry
out every call alike (`alike_perform`), and programs that are started with environments that differ
in their credentials end alike (`alike_run`).
-/

namespace ObjectLookup

variable {σ τ : Type} {S : σ → τ → Prop}

namespace CommandLine

variable {s : Session σ} {t : Session τ}

/-! ## Copying -/

/-- Copies that come to the same result and the same files, and leave alike sessions behind. -/
def AlikeCopies (S : σ → τ → Prop) (x : Except Failure Unit × Session σ × FileTree)
    (y : Except Failure Unit × Session τ × FileTree) : Prop :=
  ∃ result s' t' files, x = (result, s', files) ∧ y = (result, t', files) ∧ s'.Alike S t'

theorem alike_copy {x : Stream σ} {y : Stream τ} (hxy : x.Alike S y) (dest : Path) (fuel : Nat)
    (hst : s.Alike S t) (files : FileTree) :
    AlikeCopies S (copy x dest fuel s files) (copy y dest fuel t files) := by
  induction fuel generalizing s t files with
  | zero => exact ⟨_, _, _, _, rfl, rfl, hst⟩
  | succ fuel ih =>
      obtain ⟨_, _, s', t', hs, ht, @⟨bytes, _, rfl⟩ | e, h'⟩ :=
        RunAlike.perform (hxy.read (some chunkSize)) s t hst
      · rcases bytes with _ | ⟨b, bytes⟩ <;> simp only [copy, hs, ht]
        · exact ⟨_, _, _, _, rfl, rfl, h'⟩
        · exact ih h' (files.append dest (b :: bytes))
      · simp only [copy, hs, ht]
        exact ⟨_, _, _, _, rfl, rfl, h'⟩

variable {x : Option (Stream σ)} {y : Option (Stream τ)}

theorem alike_save (hxy : Option.Rel (Stream.Alike S) x y) (dest : Path) (hst : s.Alike S t)
    (files : FileTree) : AlikeCopies S (save x dest s files) (save y dest t files) := by
  unfold save
  split
  · exact ⟨_, _, _, _, rfl, rfl, hst⟩
  · split
    · exact ⟨_, _, _, _, rfl, rfl, hst⟩
    · cases hxy with
      | none => exact ⟨_, _, _, _, rfl, rfl, hst⟩
      | some hxy =>
          simp only [hxy.remaining _ _ hst.outside]
          exact alike_copy hxy dest _ hst _

theorem alike_saveOrRemove (hxy : Option.Rel (Stream.Alike S) x y) (dest : Path)
    (hst : s.Alike S t) (files : FileTree) :
    AlikeCopies S (saveOrRemove x dest s files) (saveOrRemove y dest t files) := by
  obtain ⟨result, s', t', files', hs, ht, h'⟩ := alike_save hxy dest hst files
  rcases result with e | ⟨⟩ <;> simp only [saveOrRemove, hs, ht]
  · split
    · exact ⟨_, _, _, _, rfl, rfl, h'⟩
    · exact ⟨_, _, _, _, rfl, rfl, h'⟩
  · exact ⟨_, _, _, _, rfl, rfl, h'⟩

theorem runAlike_closeStream (hxy : Option.Rel (Stream.Alike S) x y)
    (result : Except Failure Unit) :
    RunAlike S Eq (closeStream x result) (closeStream y result) := by
  intro s t hst
  cases hxy with
  | none => exact ⟨_, _, _, _, rfl, rfl, rfl, hst⟩
  | some hxy =>
      obtain ⟨_, _, s', t', hs, ht, _ | e, h'⟩ := RunAlike.perform hxy.close s t hst
      · simp only [closeStream, hs, ht]
        exact ⟨_, _, _, _, rfl, rfl, rfl, h'⟩
      · simp only [closeStream, hs, ht]
        exact ⟨_, _, _, _, rfl, rfl, rfl, h'⟩

/-- Closing a source at the end of a copy. -/
theorem alike_closing {c : ContentSource σ} {d : ContentSource τ} (h : c.Alike S d)
    (hst : s.Alike S t) (result : Except Failure Unit) (files : FileTree) :
    AlikeCopies S
      (match (c.close s).result with
        | .ok () => (result, (c.close s).session, files)
        | .error e => (.error e, (c.close s).session, files))
      (match (d.close t).result with
        | .ok () => (result, (d.close t).session, files)
        | .error e => (.error e, (d.close t).session, files)) := by
  obtain ⟨hresult, _, hsession⟩ := h.alike_close hst
  rw [hresult]
  rcases (d.close t).result with e | ⟨⟩
  · exact ⟨_, _, _, _, rfl, rfl, hsession⟩
  · exact ⟨_, _, _, _, rfl, rfl, hsession⟩

theorem alike_transfer {c : ContentSource σ} {d : ContentSource τ} (h : c.Alike S d) (dest : Path)
    (hst : s.Alike S t) (files : FileTree) :
    AlikeCopies S (transfer c dest s files) (transfer d dest t files) := by
  obtain ⟨hresult, hself, hsession⟩ := h.alike_newStream hst
  rcases hresult.cases with ⟨e, hx, hy⟩ | ⟨x, y, hx, hy, hxy⟩
  · simp only [transfer, hx, hy]
    exact alike_closing hself hsession _ files
  · obtain ⟨result, s₁, t₁, files', hs₁, ht₁, h₁⟩ := alike_saveOrRemove hxy dest hsession files
    obtain ⟨result', _, s₂, t₂, hs₂, ht₂, rfl, h₂⟩ := runAlike_closeStream hxy result s₁ t₁ h₁
    simp only [transfer, hx, hy, hs₁, ht₁, hs₂, ht₂]
    exact alike_closing hself h₂ result' files'

/-! ## Commands -/

/-- Shells of applications whose settings may differ in their credentials, with alike sessions and
the same files. -/
structure Shell.Alike (S : σ → τ → Prop) (sh : Shell σ) (sh' : Shell τ) : Prop where
  settings : sh.application.settings.SameButCredentials sh'.application.settings
  delegate : Option.Rel (Delegate.Alike S) sh.application.delegate sh'.application.delegate
  session : sh.session.Alike S sh'.session
  files : sh.files = sh'.files

/-- Commands that come to the same, and leave alike shells behind. -/
def AlikeCommands (S : σ → τ → Prop) (x : Except Failure String × Shell σ)
    (y : Except Failure String × Shell τ) : Prop :=
  x.1 = y.1 ∧ x.2.Alike S y.2

variable {host : Host σ} {host' : Host τ} {sh : Shell σ} {sh' : Shell τ} {r : Resolver σ}
  {q : Resolver τ}

/-- An application makes resolvers alike, whatever its credentials are. -/
theorem alike_resolverOf (hhost : host.Alike S host') (h : sh.Alike S sh') (identifier : String)
    (context : List String) :
    Agree (Resolver.Alike S) (resolverOf host.importer identifier context sh).1
        (resolverOf host'.importer identifier context sh').1 ∧
      (resolverOf host.importer identifier context sh).2.Alike S
        (resolverOf host'.importer identifier context sh').2 := by
  rcases sh with ⟨⟨a, d⟩, s, files⟩
  rcases sh' with ⟨⟨b, d'⟩, t, files'⟩
  obtain ⟨hab, hdelegate, hst, hfiles⟩ := h
  have hselector : Selector.ofSettings? a = Selector.ofSettings? b :=
    hab.apply_eq Selector.ofSettings? fun _ ↦ rfl
  unfold resolverOf
  rcases contextEntries context with e | entries
  · exact ⟨.error e, hab, hdelegate, hst, hfiles⟩
  · rcases hsel : Selector.ofSettings? b with _ | _ | _
    · simp only [Application.resolverFor, hselector, hsel]
      exact ⟨.ok ⟨rfl, hab, .none, .none, rfl, rfl, rfl, rfl⟩, hab, hdelegate, hst, hfiles⟩
    · simp only [Application.resolverFor, hselector, hsel]
      exact ⟨.ok ⟨rfl, hab, .none, .none, rfl, rfl, rfl, rfl⟩, hab, hdelegate, hst, hfiles⟩
    · cases hdelegate with
      | some hd =>
          simp only [Application.resolverFor, Application.getDelegate, hselector, hsel]
          exact ⟨.ok ⟨rfl, hab, .none, .some hd, rfl, rfl, rfl, rfl⟩, hab, .some hd, hst, hfiles⟩
      | none =>
          obtain ⟨x, y, s', t', hs, ht, hd, h'⟩ :=
            Delegate.runAlike_load hhost.importer hab s t hst
          simp only [Application.resolverFor, Application.getDelegate, hselector, hsel, hs, ht]
          exact ⟨.ok ⟨rfl, hab, .none, .some hd, rfl, rfl, rfl, rfl⟩, hab, .some hd, h', hfiles⟩

section Commands

variable (hhost : host.Alike S host') (h : sh.Alike S sh') (hr : r.Alike S q)
include hhost h hr

theorem alike_check : AlikeCommands S (check host r sh) (check host' q sh') := by
  obtain ⟨hresult, hself, hsession⟩ := hr.checkAccess hhost h.session
  rcases hresult.cases with ⟨e, hx, hy⟩ | ⟨_, _, hx, hy, _⟩
  · simp only [check, hx, hy]
    exact ⟨rfl, { h with session := hsession }⟩
  · obtain ⟨hresult', _, hsession'⟩ := hself.location hhost hsession
    simp only [check, hx, hy]
    exact ⟨by rw [hresult'.eq], { h with session := hsession' }⟩

theorem alike_format : AlikeCommands S (format host r sh) (format host' q sh') := by
  obtain ⟨hresult, _, hsession⟩ := hr.resolveFormat hhost h.session
  simp only [format]
  exact ⟨by rw [hresult.eq], { h with session := hsession }⟩

theorem alike_fetch (dest : Path) :
    AlikeCommands S (fetch host r dest sh) (fetch host' q dest sh') := by
  obtain ⟨hresult, _, hsession⟩ := hr.openStream hhost h.session
  rcases hresult.cases with ⟨e, hx, hy⟩ | ⟨c, d, hx, hy, hcd⟩
  · simp only [fetch, hx, hy]
    exact ⟨rfl, { h with session := hsession }⟩
  · obtain ⟨result, s', t', files, hs, ht, h'⟩ := alike_transfer hcd dest hsession sh'.files
    simp only [fetch, hx, hy, h.files, hs, ht]
    exact ⟨rfl, h.settings, h.delegate, h', rfl⟩

end Commands

theorem alike_carryOut (hhost : host.Alike S host') (h : sh.Alike S sh') (call : Call) :
    AlikeCommands S (carryOut host call sh) (carryOut host' call sh') := by
  obtain ⟨hresolver, hshell⟩ := alike_resolverOf hhost h (call.positional.headD "") call.context
  rcases hx : resolverOf host.importer (call.positional.headD "") call.context sh with ⟨x, sh₁⟩
  rcases hy : resolverOf host'.importer (call.positional.headD "") call.context sh' with ⟨y, sh₂⟩
  rw [hx, hy] at hresolver hshell
  rcases hresolver with hr | e <;> simp only [carryOut, hx, hy]
  · split
    · exact alike_check hhost hshell hr
    · exact alike_format hhost hshell hr
    · exact alike_fetch hhost hshell hr _
  · exact ⟨rfl, hshell⟩

/-! ## The program -/

/-- Surroundings that import alike, and connect alike whatever the credentials are. -/
structure Surroundings.Alike (S : σ → τ → Prop) (u : Surroundings σ) (v : Surroundings τ) : Prop
    where
  importer : Importer.Alike S u.importer v.importer
  connect : S3.ConnectsAlike S u.connect v.connect

variable {u : Surroundings σ} {v : Surroundings τ} {a b : Settings}

theorem Surroundings.Alike.alike_host (h : u.Alike S v) (hab : a.SameButCredentials b) :
    (u.host a).Alike S (v.host b) where
  importer := h.importer
  factory := S3.alike_factory h.connect hab

theorem alike_perform (huv : u.Alike S v) (h : sh.Alike S sh') (call : Call) :
    AlikeCommands S (perform u call sh) (perform v call sh') :=
  alike_carryOut (huv.alike_host h.settings) h call

/-- Endings that print the same, exit with the same code and leave the same files and alike
sessions behind. -/
structure Ending.Alike (S : σ → τ → Prop) (x : Ending σ) (y : Ending τ) : Prop where
  exitCode : x.exitCode = y.exitCode
  output : x.output = y.output
  errors : x.errors = y.errors
  misuse : x.misuse = y.misuse
  files : x.files = y.files
  session : x.session.Alike S y.session

theorem alike_conclude (verbose : Bool) {x : Except Failure String × Shell σ}
    {y : Except Failure String × Shell τ} (h : AlikeCommands S x y) :
    (conclude verbose x).Alike S (conclude verbose y) := by
  rcases x with ⟨x, sh⟩
  rcases y with ⟨y, sh'⟩
  obtain ⟨rfl, hshell⟩ := h
  have hjournal : sh.session.journal = sh'.session.journal := hshell.session.journal
  have hlogs : shownLogs verbose sh.session = shownLogs verbose sh'.session := by
    rw [shownLogs, shownLogs, Session.logs, Session.logs, Session.events, Session.events, hjournal]
  rcases x with e | text
  · exact ⟨rfl, rfl, by simp only [conclude, hlogs], rfl, hshell.files, hshell.session⟩
  · exact ⟨rfl, rfl, hlogs, rfl, hshell.files, hshell.session⟩

/-- The program ends alike in environments that differ in their credentials. -/
theorem alike_run (huv : u.Alike S v) {env env' : Settings.Variables}
    (henv : env.SameButCredentials env') (arguments : List String) {o : σ} {p : τ} (hop : S o p)
    (files : FileTree) :
    (run u env arguments o files).Alike S (run v env' arguments p files) := by
  have hstart : Session.Alike S { outside := o } { outside := p } := ⟨hop, .none, rfl⟩
  unfold run
  split
  · exact ⟨rfl, rfl, rfl, rfl, rfl, hstart⟩
  · rename_i verbose verb rest _
    rcases (Settings.agree_ofVariables henv).cases with ⟨e, hx, hy⟩ | ⟨a, b, hx, hy, hab⟩ <;>
      simp only [hx, hy]
    · exact ⟨rfl, rfl, rfl, rfl, rfl, hstart⟩
    · split
      · exact ⟨rfl, rfl, rfl, rfl, rfl, hstart⟩
      · exact alike_conclude verbose (alike_perform huv ⟨hab, .none, hstart, rfl⟩ _)

end CommandLine

end ObjectLookup
