import ObjectLookup.Settings.Environment

/-! # Settings field by field

Each field is read from the variable of its own and from nothing else (`decoded`), and the settings
that load are those that were read so and have no problem (`ofVariables_eq_ok`). A variable that is
empty is read as one that is not there (`ofVariables_congr`), so that it can be taken away. What
cannot be read or does not pass the check is refused as an invalid value
(`isRefusal_of_ofVariables`).
-/

namespace ObjectLookup

/-! ## Refusals -/

/-- A refusal of a value that was put in from outside. -/
def Failure.IsRefusal (e : Failure) : Prop := ∃ text, e = .invalidValue text

/-! ## Taking entries away -/

namespace Entries

variable {α : Type} {name k : String}

/-- The entries of all other names. -/
def without (name : String) (es : Entries α) : Entries α :=
  ⟨es.toList.filter fun e ↦ e.1 ≠ name⟩

theorem get?_without (es : Entries α) :
    (es.without name).get? k = if k = name then none else es.get? k := by
  obtain ⟨es⟩ := es
  simp only [get?, without]
  induction es with
  | nil => simp [findList]
  | cons e es ih => by_cases he : e.1 = name <;> grind [findList]

end Entries

namespace Settings

variable {env env' : Variables} {v : Variable} {s s' : Settings} {e : Failure}

theorem isRefusal_of_seconds {default : Decimal.Binary64}
    (h : seconds env v default = .error e) : e.IsRefusal := by
  rcases ht : text? env v with _ | t
  · simp only [seconds, ht] at h
    cases h
  · rcases hr : Decimal.read? t with _ | x <;> simp only [seconds, ht, hr] at h <;> cases h
    exact ⟨_, rfl⟩

theorem isRefusal_of_check (h : s.check = .error e) : e.IsRefusal := by
  rcases hp : s.problem? with _ | p <;> simp only [check, hp] at h <;> cases h
  exact ⟨_, rfl⟩

theorem isRefusal_of_ofVariables (h : ofVariables env = .error e) : e.IsRefusal := by
  rcases hc : seconds env .connectTimeout (.ofDecimal false 10 0) with e' | x
  · simp only [ofVariables, hc] at h
    cases h
    exact isRefusal_of_seconds hc
  · rcases hr : seconds env .readTimeout (.ofDecimal false 60 0) with e' | y
    · simp only [ofVariables, hc, hr] at h
      cases h
      exact isRefusal_of_seconds hr
    · simp only [ofVariables, hc, hr] at h
      exact isRefusal_of_check h

/-! ## Fields -/

/-- The value of a field. -/
inductive Field where
  | text (t : Option String)
  | seconds (x : Decimal.Binary64)
  | switch (on : Bool)
deriving DecidableEq, Repr

/-- The field that a variable is for. -/
def field (s : Settings) : Variable → Field
  | .lookupStrategy => .text s.lookupStrategy
  | .bucketName => .text s.bucketName
  | .bucketRegion => .text s.bucketRegion
  | .accessKeyId => .text s.accessKeyId
  | .secretKey => .text s.secretKey
  | .endpoint => .text s.endpointUrl
  | .connectTimeout => .seconds s.connectTimeout
  | .readTimeout => .seconds s.readTimeout
  | .delegateEnabled => .switch s.delegateEnabled
  | .delegate => .text s.delegateTarget

/-- The fields are all that there is to settings. -/
theorem eq_of_field (h : ∀ v, s.field v = s'.field v) : s = s' := by
  have hstrategy := Field.text.inj (h .lookupStrategy)
  have hbucket := Field.text.inj (h .bucketName)
  have hregion := Field.text.inj (h .bucketRegion)
  have hkey := Field.text.inj (h .accessKeyId)
  have hsecret := Field.text.inj (h .secretKey)
  have hendpoint := Field.text.inj (h .endpoint)
  have hconnect := Field.seconds.inj (h .connectTimeout)
  have hread := Field.seconds.inj (h .readTimeout)
  have henabled := Field.switch.inj (h .delegateEnabled)
  have htarget := Field.text.inj (h .delegate)
  cases s
  cases s'
  simp_all

/-- The value that a variable gives its field, on its own. -/
def decoded (env : Variables) : Variable → Except Failure Field
  | .connectTimeout => (seconds env .connectTimeout (.ofDecimal false 10 0)).map .seconds
  | .readTimeout => (seconds env .readTimeout (.ofDecimal false 60 0)).map .seconds
  | .delegateEnabled =>
    .ok (.switch (isOn ((env.get? Variable.delegateEnabled.name).getD "false")))
  | v => .ok (.text (text? env v))

theorem decoded_congr (h : env.get? v.name = env'.get? v.name) :
    decoded env v = decoded env' v := by
  cases v <;> simp only [decoded, seconds, text?, h]

theorem seconds_of_decoded {x default : Decimal.Binary64}
    (h : (seconds env v default).map Field.seconds = .ok (.seconds x)) :
    seconds env v default = .ok x := by
  rcases hs : seconds env v default with e | y <;> rw [hs] at h <;> cases h
  rfl

/-- The settings that the variables describe, with timeouts that were read before. -/
def described (env : Variables) (connectTimeout readTimeout : Decimal.Binary64) : Settings where
  lookupStrategy := text? env .lookupStrategy
  bucketName := text? env .bucketName
  bucketRegion := text? env .bucketRegion
  accessKeyId := text? env .accessKeyId
  secretKey := text? env .secretKey
  endpointUrl := text? env .endpoint
  connectTimeout := connectTimeout
  readTimeout := readTimeout
  delegateEnabled := isOn ((env.get? Variable.delegateEnabled.name).getD "false")
  delegateTarget := text? env .delegate

section Described

variable {x y : Decimal.Binary64}
  (hconnect : seconds env .connectTimeout (.ofDecimal false 10 0) = .ok x)
  (hread : seconds env .readTimeout (.ofDecimal false 60 0) = .ok y)

include hconnect hread

theorem ofVariables_of_seconds : ofVariables env = (described env x y).check := by
  simp only [ofVariables, hconnect, hread]
  rfl

theorem decoded_of_seconds (v : Variable) :
    decoded env v = .ok ((described env x y).field v) := by
  cases v with
  | connectTimeout => simp only [decoded, hconnect, field, described, Except.map]
  | readTimeout => simp only [decoded, hread, field, described, Except.map]
  | _ => rfl

end Described

/-- The settings that load are read field by field, and have no problem. -/
theorem ofVariables_eq_ok : ofVariables env = .ok s ↔
    (∀ v, decoded env v = .ok (s.field v)) ∧ s.problem? = none := by
  constructor
  · intro h
    rcases hconnect : seconds env .connectTimeout (.ofDecimal false 10 0) with e | x
    · simp only [ofVariables, hconnect] at h
      cases h
    · rcases hread : seconds env .readTimeout (.ofDecimal false 60 0) with e | y
      · simp only [ofVariables, hconnect, hread] at h
        cases h
      · rw [ofVariables_of_seconds hconnect hread] at h
        obtain ⟨hproblem, rfl⟩ := check_eq_ok.1 h
        exact ⟨decoded_of_seconds hconnect hread, hproblem⟩
  · rintro ⟨hfields, hproblem⟩
    have hconnect := seconds_of_decoded (hfields .connectTimeout)
    have hread := seconds_of_decoded (hfields .readTimeout)
    have hs : described env s.connectTimeout s.readTimeout = s := by
      refine eq_of_field fun v ↦ ?_
      have hv := hfields v
      rw [decoded_of_seconds hconnect hread v] at hv
      exact Except.ok.inj hv
    rw [ofVariables_of_seconds hconnect hread, hs]
    exact check_eq_ok.2 ⟨hproblem, rfl⟩

theorem ofVariables_of_toOption (h : (ofVariables env).toOption = some s) :
    ofVariables env = .ok s := by
  rcases hx : ofVariables env with e | t <;> rw [hx] at h <;> cases h
  rfl

/-! ## What a variable can do -/

/-- A field is the same wherever its variable has the same value. -/
theorem field_eq_of_get?_eq (hs : ofVariables env = .ok s) (hs' : ofVariables env' = .ok s')
    (h : env.get? v.name = env'.get? v.name) : s.field v = s'.field v := by
  have hv := (ofVariables_eq_ok.1 hs).1 v
  rw [decoded_congr h, (ofVariables_eq_ok.1 hs').1 v] at hv
  exact (Except.ok.inj hv).symm

/-- An empty value switches nothing on, and neither does none. -/
theorem isOn_getD : isOn ((env.get? v.name).getD "false") = (text? env v).any isOn := by
  rcases h : env.get? v.name with _ | word
  · simp only [text?, h, given?_none]
    decide +kernel
  · by_cases hword : word = ""
    · subst hword
      simp only [text?, h, given?_empty]
      decide +kernel
    · simp only [text?, h, given?_of_ne hword, Option.getD_some, Option.any_some]

/-- Variables count by their values that are not empty. -/
theorem ofVariables_congr (h : ∀ v, text? env v = text? env' v) :
    ofVariables env = ofVariables env' := by
  simp only [ofVariables, seconds, isOn_getD, h]

theorem text?_without {name : String}
    (h : env.get? name = some "" ∨ ∀ v : Variable, v.name ≠ name) :
    text? (env.without name) v = text? env v := by
  rw [text?, text?, Entries.get?_without]
  split
  · rename_i hname
    rcases h with hempty | hother
    · rw [hname, hempty, given?_none, given?_empty]
    · exact absurd hname (hother v)
  · rfl

/-! ## What loads -/

theorem text?_ne_empty : text? env v ≠ some "" := fun h ↦ (given?_eq_some.1 h).2 rfl

theorem field_ne_empty (hs : ofVariables env = .ok s) : s.field v ≠ .text (some "") := by
  intro h
  have hv := (ofVariables_eq_ok.1 hs).1 v
  rw [h] at hv
  cases v with
  | connectTimeout | readTimeout | delegateEnabled => cases h
  | _ => exact text?_ne_empty (Field.text.inj (Except.ok.inj hv))

/-- Settings without empty texts have both credentials or none. -/
theorem credentials_together (hs : s.problem? = none) (hkey : s.accessKeyId ≠ some "")
    (hsecret : s.secretKey ≠ some "") : s.accessKeyId = none ↔ s.secretKey = none := by
  have hcredentials : s.credentials? = none := (problem?_eq_none.1 hs).1
  have hgiven {o : Option String} (h : o ≠ some "") : given? o = o := by
    rcases o with _ | t
    · rfl
    · exact given?_of_ne fun ht ↦ h (congrArg some ht)
  rw [credentials?, hgiven hkey, hgiven hsecret] at hcredentials
  rcases hk : s.accessKeyId with _ | k <;> rcases hx : s.secretKey with _ | x <;>
    simp [hk, hx] at hcredentials ⊢

theorem switch_of_ofVariables (hs : ofVariables env = .ok s) : s.delegateEnabled = true ↔
    ∃ word, env.get? Variable.delegateEnabled.name = some word ∧
      Text.lower word ∈ ["true", "1", "yes", "on"] := by
  have hfalse : isOn "false" = false := by decide +kernel
  have hv := Field.switch.inj (Except.ok.inj ((ofVariables_eq_ok.1 hs).1 .delegateEnabled))
  rw [← hv]
  rcases env.get? Variable.delegateEnabled.name with _ | word
  · simp [hfalse]
  · simp [isOn]

/-- Settings are read from variables field by field. What cannot be read, or is not allowed, is
refused as an invalid value. A variable that is empty, or that is none of the ten, can be taken away
and nothing changes. If two environments have the same value for a variable, and both load, then
they give its field the same value, whatever the other variables are. What loads has both
credentials or none, no empty text, and delegates switched on just if the variable has one of four
words for its value, in any case. -/
theorem ofVariables_by_field (env : Variables) :
    (∀ e, ofVariables env = .error e → e.IsRefusal) ∧
    (∀ name, env.get? name = some "" ∨ (∀ v : Variable, v.name ≠ name) →
      ofVariables (env.without name) = ofVariables env) ∧
    (∀ env' s s', ofVariables env = .ok s → ofVariables env' = .ok s' →
      ∀ v, (∀ w ≠ v, env.get? w.name = env'.get? w.name) → ∀ w ≠ v, s.field w = s'.field w) ∧
    ∀ s, ofVariables env = .ok s →
      (s.accessKeyId = none ↔ s.secretKey = none) ∧ (∀ v, s.field v ≠ .text (some "")) ∧
      (s.delegateEnabled = true ↔ ∃ word, env.get? Variable.delegateEnabled.name = some word ∧
        Text.lower word ∈ ["true", "1", "yes", "on"]) := by
  refine ⟨fun e ↦ isRefusal_of_ofVariables, ?_, ?_, ?_⟩
  · intro name h
    exact ofVariables_congr fun v ↦ text?_without h
  · intro env' s s' hs hs' v hsame w hw
    exact field_eq_of_get?_eq hs hs' (hsame w hw)
  · intro s hs
    have hne (v : Variable) : s.field v ≠ .text (some "") := field_ne_empty hs
    refine ⟨?_, hne, switch_of_ofVariables hs⟩
    exact credentials_together (ofVariables_eq_ok.1 hs).2
      (fun h ↦ hne .accessKeyId (congrArg Field.text h))
      fun h ↦ hne .secretKey (congrArg Field.text h)

/-- A bucket of a service of its own, with an empty region and a variable that is none of the
ten. -/
def localVariables (timeout : String) : Variables :=
  .ofPairs [("PATH", "/bin"), ("S3RESOLVER_BUCKET_NAME", "images"),
    ("S3RESOLVER_BUCKET_REGION", ""), ("S3RESOLVER_ACCESS_KEY_ID", "AKIA"),
    ("S3RESOLVER_SECRET_KEY", "xyzzy"),
    ("S3RESOLVER_ENDPOINT", "http://localhost:9000"), ("S3RESOLVER_CONNECT_TIMEOUT", timeout),
    ("S3RESOLVER_DELEGATE_ENABLED", "Yes")]

def localSettings (timeout : Decimal.Binary64) : Settings where
  bucketName := some "images"
  accessKeyId := some "AKIA"
  secretKey := some "xyzzy"
  endpointUrl := some "http://localhost:9000"
  connectTimeout := timeout
  delegateEnabled := true

/-- Two timeouts make a difference to the timeout and to nothing else, the empty region and the path
make none, and a timeout that is no number is refused. -/
theorem ofVariables_by_field_local :
    let s := localSettings (.ofDecimal false 25 (-1))
    let s' := localSettings (.ofDecimal false 100 0)
    (ofVariables (localVariables "2.5") = .ok s ∧ ofVariables (localVariables " 1e2\n") = .ok s') ∧
      (∀ w ≠ .connectTimeout, s.field w = s'.field w) ∧
      ofVariables ((localVariables "2.5").without "S3RESOLVER_BUCKET_REGION") = .ok s ∧
      ofVariables ((localVariables "2.5").without "PATH") = .ok s ∧
      (s.accessKeyId = none ↔ s.secretKey = none) ∧
      ∃ e, ofVariables (localVariables "soon") = .error e ∧ e.IsRefusal := by
  intro s s'
  have hs : ofVariables (localVariables "2.5") = .ok s :=
    ofVariables_of_toOption (by decide +kernel)
  have hs' : ofVariables (localVariables " 1e2\n") = .ok s' :=
    ofVariables_of_toOption (by decide +kernel)
  obtain ⟨-, hwithout, hfields, hloaded⟩ := ofVariables_by_field (localVariables "2.5")
  obtain ⟨hrefused, -, -, -⟩ := ofVariables_by_field (localVariables "soon")
  refine ⟨⟨hs, hs'⟩, ?_, ?_, ?_, (hloaded _ hs).1, ?_⟩
  · refine hfields _ _ _ hs hs' .connectTimeout fun w hw ↦ ?_
    cases w with
    | connectTimeout => exact absurd rfl hw
    | _ => rfl
  · rw [hwithout _ (.inl (by decide +kernel)), hs]
  · rw [hwithout _ (.inr fun v ↦ by cases v <;> decide), hs]
  · rcases hx : ofVariables (localVariables "soon") with e | t
    · exact ⟨e, rfl, hrefused _ hx⟩
    · have hnone : (ofVariables (localVariables "soon")).toOption = none := by decide +kernel
      rw [hx] at hnone
      cases hnone

end Settings

end ObjectLookup
