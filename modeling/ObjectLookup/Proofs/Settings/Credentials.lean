import ObjectLookup.Proofs.Session.Alike
import ObjectLookup.Settings.Environment

/-! # Settings that differ in their credentials

Two settings that both have credentials, and differ in nothing else, are refused for the same reason
or not at all (`SameButCredentials.check`), and so are two environments (`agree_ofVariables`). What
is logged about the connection that they call for is the same, and the options that it is made with
differ in their credentials alone. So over connections that act alike whatever their credentials
are, the two factories build clients that act alike (`S3.alike_factory`).
-/

namespace ObjectLookup

namespace Settings

def withoutCredentials (s : Settings) : Settings :=
  { s with accessKeyId := none, secretKey := none }

/-- Credentials that are complete are no problem. -/
theorem credentials?_of_hasCredentials {s : Settings} (h : s.hasCredentials = true) :
    s.credentials? = none := by
  rw [hasCredentials, Bool.and_eq_true, Option.isSome_iff_exists, Option.isSome_iff_exists] at h
  obtain ⟨⟨key, hkey⟩, secret, hsecret⟩ := h
  simp only [credentials?, hkey, hsecret]

/-- Both settings have credentials, and they differ in nothing else. -/
structure SameButCredentials (a b : Settings) : Prop where
  left : a.hasCredentials = true
  right : b.hasCredentials = true
  rest : a.withoutCredentials = b.withoutCredentials

namespace SameButCredentials

variable {a b : Settings}

/-- What goes by the other settings is the same. -/
theorem apply_eq {α : Type} (h : a.SameButCredentials b) (f : Settings → α)
    (hf : ∀ s : Settings, f s.withoutCredentials = f s) : f a = f b := by
  rw [← hf a, h.rest, hf b]

theorem problem?_eq (h : a.SameButCredentials b) : a.problem? = b.problem? := by
  have hrest : a.timeouts?.or (a.endpoint?.or a.target?) =
      b.timeouts?.or (b.endpoint?.or b.target?) :=
    h.apply_eq (fun s ↦ s.timeouts?.or (s.endpoint?.or s.target?)) fun _ ↦ rfl
  rw [problem?, problem?, credentials?_of_hasCredentials h.left,
    credentials?_of_hasCredentials h.right, hrest]

theorem check (h : a.SameButCredentials b) : Agree SameButCredentials a.check b.check := by
  rw [Settings.check, Settings.check, h.problem?_eq]
  rcases b.problem? with _ | p
  · exact .ok h
  · exact .error p.failure

end SameButCredentials

/-! ## Environments -/

/-- Both environments have credentials, and every other variable has the same value in both. -/
structure Variables.SameButCredentials (env env' : Variables) : Prop where
  left : (text? env .accessKeyId).isSome = true ∧ (text? env .secretKey).isSome = true
  right : (text? env' .accessKeyId).isSome = true ∧ (text? env' .secretKey).isSome = true
  rest : ∀ v : Variable, v ≠ .accessKeyId → v ≠ .secretKey → env.get? v.name = env'.get? v.name

/-- The settings that the environments describe differ in their credentials alone, or are not made
for the same reason. -/
theorem agree_ofVariables {env env' : Variables} (h : env.SameButCredentials env') :
    Agree SameButCredentials (ofVariables env) (ofVariables env') := by
  have htext (v : Variable) (hv : v ≠ .accessKeyId ∧ v ≠ .secretKey) :
      text? env v = text? env' v := by
    rw [text?, text?, h.rest v hv.1 hv.2]
  have hseconds (v : Variable) (default : Decimal.Binary64)
      (hv : v ≠ .accessKeyId ∧ v ≠ .secretKey) :
      seconds env v default = seconds env' v default := by
    rw [seconds, seconds, htext v hv]
  have hcredentials {env : Variables}
      (h : (text? env .accessKeyId).isSome = true ∧ (text? env .secretKey).isSome = true) :
      ((given? (text? env .accessKeyId)).isSome && (given? (text? env .secretKey)).isSome) =
        true := by
    rw [text?, given?_given?, text?, given?_given?, Bool.and_eq_true]
    exact h
  unfold ofVariables
  rw [hseconds .connectTimeout _ (by decide), hseconds .readTimeout _ (by decide)]
  rcases seconds env' .connectTimeout (.ofDecimal false 10 0) with e | connectTimeout
  · exact .error e
  · rcases seconds env' .readTimeout (.ofDecimal false 60 0) with e | readTimeout
    · exact .error e
    · apply SameButCredentials.check
      refine ⟨hcredentials h.left, hcredentials h.right, ?_⟩
      simp only [withoutCredentials, htext .lookupStrategy (by decide),
        htext .bucketName (by decide), htext .bucketRegion (by decide),
        htext .endpoint (by decide), htext .delegate (by decide),
        h.rest .delegateEnabled (by decide) (by decide)]

end Settings

/-! ## Connections -/

namespace S3

variable {σ τ : Type} {S : σ → τ → Prop} {a b : Settings}

def Options.withoutCredentials (o : Options) : Options :=
  { o with accessKeyId := none, secretKey := none }

/-- The options have complete credentials. -/
def Options.hasCredentials (o : Options) : Bool :=
  (given? o.accessKeyId).isSome && (given? o.secretKey).isSome

/-- Both options have credentials, and they differ in nothing else. -/
structure Options.SameButCredentials (o p : Options) : Prop where
  left : o.hasCredentials = true
  right : p.hasCredentials = true
  rest : o.withoutCredentials = p.withoutCredentials

theorem Options.hasCredentials_ofSettings {s : Settings} (h : s.hasCredentials = true) :
    (ofSettings s).hasCredentials = true := by
  simp only [hasCredentials, ofSettings, h, if_true]
  exact h

theorem Options.sameButCredentials_ofSettings (h : a.SameButCredentials b) :
    (ofSettings a).SameButCredentials (ofSettings b) where
  left := hasCredentials_ofSettings h.left
  right := hasCredentials_ofSettings h.right
  rest := h.apply_eq (fun s ↦ (ofSettings s).withoutCredentials) fun _ ↦ rfl

/-- Connections are made alike, and they act alike, whatever their credentials are. -/
def ConnectsAlike (S : σ → τ → Prop) (connect : Options → Act σ (Connection σ))
    (connect' : Options → Act τ (Connection τ)) : Prop :=
  ∀ o p, o.SameButCredentials p → Act.Alike S (Connection.Alike S) (connect o) (connect' p)

/-- No note says more of credentials than that there are any. -/
theorem notes_eq (h : a.SameButCredentials b) : notes a = notes b := by
  have hregion : a.bucketRegion = b.bucketRegion := h.apply_eq Settings.bucketRegion fun _ ↦ rfl
  have hendpoint : a.endpointUrl = b.endpointUrl := h.apply_eq Settings.endpointUrl fun _ ↦ rfl
  simp only [notes, h.left, h.right, hregion, hendpoint]

theorem alike_factory {connect : Options → Act σ (Connection σ)}
    {connect' : Options → Act τ (Connection τ)} (hconnect : ConnectsAlike S connect connect')
    (h : a.SameButCredentials b) : (factory connect a).Alike S (factory connect' b) where
  notes := notes_eq h
  run := by
    apply (hconnect _ _ (Options.sameButCredentials_ofSettings h)).bind
    intro c d hcd
    exact .pure hcd.client

end S3

end ObjectLookup
