import ObjectLookup.Proofs.CommandLine.Alike
import ObjectLookup.Proofs.Resolver.Scene
import ObjectLookup.Proofs.Scripted.Connection

/-! # Credentials do not show

Whether credentials are set is seen in a log line, and must be. Their values are handed to the
service, and to nothing else: two programs with settings that differ in the values alone show the
same to whoever asks questions, reads content, runs commands or follows the log
(`credentials_do_not_show`).

The service is outside, and may keep what it is given. So the two programs run over states that are
related, not equal, and it is assumed that the service answers alike from related states. Where the
states are equal, nothing else is assumed of what is outside. Where they are not, what is imported
or supplied must not look at the difference.
-/

namespace ObjectLookup

variable {σ : Type} {S : σ → σ → Prop}

/-- What the resolver was supplied with acts alike from related states. -/
structure Resolver.IsDiscreet (S : σ → σ → Prop) (r : Resolver σ) : Prop where
  strategy : Option.Rel (Strategy.Alike S) r.strategy r.strategy
  delegate : Option.Rel (Delegate.Alike S) r.delegate r.delegate

theorem Resolver.IsDiscreet.of_eq (r : Resolver σ) : r.IsDiscreet Eq where
  strategy := optionRel_refl Strategy.Alike.refl r.strategy
  delegate := optionRel_refl Delegate.Alike.refl r.delegate

/-- The scene of resolvers that are made with the settings, before anything is done. -/
def Scene.ofSettings (settings : Settings) (made : List (Resolver σ)) (outside : σ) : Scene σ where
  resolvers := made.map fun r ↦ { r with settings }
  session := { outside }

theorem Scene.alike_ofSettings {a b : Settings} (hab : a.SameButCredentials b)
    {made : List (Resolver σ)} (hmade : ∀ r ∈ made, r.IsDiscreet S) {o p : σ} (hop : S o p) :
    (Scene.ofSettings a made o).Alike S (Scene.ofSettings b made p) where
  resolvers := by
    rw [Scene.ofSettings, Scene.ofSettings, List.forall₂_map_left_iff, List.forall₂_map_right_iff,
      List.forall₂_same]
    intro r hr
    have h := hmade r hr
    exact ⟨rfl, hab, h.strategy, h.delegate, rfl, rfl, rfl, rfl⟩
  sources := .nil
  session := ⟨hop, .none, rfl⟩

namespace CommandLine

/-- Credentials do not show. Take surroundings whose connections act alike whatever the credentials
are, and related states outside, which are equal, or else have a difference that nothing else from
outside looks at. Then settings that differ in the values of their credentials alone are refused for
the same reason; in whatever order resolvers that are made with them are asked, and the content that
they open is used, it shows the same, and the journals, the log lines of every level included, are
the same. Environments that differ in these values alone are refused for the same reason; every
program run with them prints the same, exits with the same code, and leaves the same files and the
same journal. -/
theorem credentials_do_not_show (u : Surroundings σ) (made : List (Resolver σ))
    (hconnect : S3.ConnectsAlike S u.connect u.connect)
    (hrest : S = Eq ∨ Importer.Alike S u.importer u.importer ∧ ∀ r ∈ made, r.IsDiscreet S) :
    (∀ a b : Settings, a.SameButCredentials b →
      (∀ e, a.check = .error e ↔ b.check = .error e) ∧
      ∀ (o p : σ) (deeds : List Deed), S o p →
        let x := (Scene.ofSettings a made o).play (u.host a) deeds
        let y := (Scene.ofSettings b made p).play (u.host b) deeds
        x.1 = y.1 ∧ x.2.session.journal = y.2.session.journal ∧ x.2.Alike S y.2) ∧
    ∀ env env' : Settings.Variables, env.SameButCredentials env' →
      (∀ e, Settings.ofVariables env = .error e ↔ Settings.ofVariables env' = .error e) ∧
      ∀ (arguments : List String) (o p : σ) (files : FileTree), S o p →
        (run u env arguments o files).Alike S (run u env' arguments p files) := by
  have himporter : Importer.Alike S u.importer u.importer := by
    rcases hrest with rfl | h
    · exact .refl u.importer
    · exact h.1
  have hmade : ∀ r ∈ made, r.IsDiscreet S := by
    rcases hrest with rfl | h
    · exact fun r _ ↦ .of_eq r
    · exact h.2
  have hu : u.Alike S u := ⟨himporter, hconnect⟩
  have herror {α : Type} {R : α → α → Prop} {x y : Except Failure α} (h : Agree R x y)
      (e : Failure) : x = .error e ↔ y = .error e := by
    rcases h with h | e' <;> simp
  refine ⟨?_, ?_⟩
  · intro a b hab
    refine ⟨herror hab.check, ?_⟩
    intro o p deeds hop
    obtain ⟨hsights, hscene⟩ :=
      (Scene.alike_ofSettings hab hmade hop).play (hu.alike_host hab) deeds
    exact ⟨hsights, hscene.session.journal, hscene⟩
  · intro env env' henv
    refine ⟨herror (Settings.agree_ofVariables henv), ?_⟩
    intro arguments o p files hop
    exact alike_run hu henv arguments hop files

/-- Nothing to import, and a service that takes down what it is given. -/
def attentive : Surroundings Scripted.Stage :=
  ⟨Scripted.Catalogue.importModule [], Scripted.connect⟩

/-- An environment for the bucket `images`. -/
def signedEnvironment (key secret : String) : Settings.Variables :=
  .ofPairs [("S3RESOLVER_LOOKUP_STRATEGY", "Direct"), ("S3RESOLVER_BUCKET_NAME", "images"),
    ("S3RESOLVER_ACCESS_KEY_ID", key), ("S3RESOLVER_SECRET_KEY", secret)]

/-- The settings of that environment. -/
def signedSettings (key secret : String) : Settings :=
  { Scripted.directSettings with accessKeyId := some key, secretKey := some secret }

/-- The service was given two secrets, and nobody but the service can tell: not by the questions
that are asked nor by the content that is read, and not by the log that the program prints. -/
theorem credentials_do_not_show_attentive :
    let stage : Scripted.Stage :=
      { entries := [⟨⟨"images", "a.gif"⟩, .object { data := some [0x47, 0x49] }⟩] }
    let made : List (Resolver Scripted.Stage) := [{ identifier := ⟨"a.gif"⟩, settings := {} }]
    let deeds : List Deed := [.ask 0 .resolveFormat, .ask 0 .openStream, .use 0 .read]
    let play key secret :=
      let settings := signedSettings key secret
      (Scene.ofSettings settings made stage).play (attentive.host settings) deeds
    let secrets (scene : Scene Scripted.Stage) :=
      scene.session.outside.connections.map S3.Options.secretKey
    let run key secret :=
      run attentive (signedEnvironment key secret) ["-v", "check", "a.gif"] stage ⟨[], []⟩
    secrets (play "AKIA" "s3cr3t").2 = [some "s3cr3t"] ∧
      secrets (play "AKIB" "hunter2").2 = [some "hunter2"] ∧
      (play "AKIA" "s3cr3t").1 = (play "AKIB" "hunter2").1 ∧
      (run "AKIA" "s3cr3t").exitCode = (run "AKIB" "hunter2").exitCode ∧
      (run "AKIA" "s3cr3t").errors = (run "AKIB" "hunter2").errors := by
  intro stage made deeds play secrets run
  have hmade : ∀ r ∈ made, r.IsDiscreet Scripted.SameButConnections := by
    intro r hr
    cases List.mem_singleton.1 hr
    exact ⟨.none, .none⟩
  have hsettings : (signedSettings "AKIA" "s3cr3t").SameButCredentials
      (signedSettings "AKIB" "hunter2") := ⟨by decide, by decide, rfl⟩
  have henv : (signedEnvironment "AKIA" "s3cr3t").SameButCredentials
      (signedEnvironment "AKIB" "hunter2") := by
    refine ⟨by decide, by decide, ?_⟩
    intro v hkey hsecret
    cases v <;> first | rfl | contradiction
  obtain ⟨hsame, hrun⟩ := credentials_do_not_show attentive made Scripted.connectsAlike_connect
    (.inr ⟨Scripted.alike_importModule, hmade⟩)
  obtain ⟨hsights, _⟩ := (hsame _ _ hsettings).2 stage stage deeds rfl
  have hending := (hrun _ _ henv).2 ["-v", "check", "a.gif"] stage stage ⟨[], []⟩ rfl
  refine ⟨?_, ?_, hsights, hending.exitCode, hending.errors⟩
  · decide +kernel
  · decide +kernel

end CommandLine

end ObjectLookup
