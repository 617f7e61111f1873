import ObjectLookup.Proofs.Resolver.Activity

/-! # How a failed request is classified

A request that an S3 service refuses, or that gets no answer, leaves evidence of what went wrong: a
code, which may be empty, and a status. By the evidence the object is missing (`SaysMissing`), or
refused (`SaysRefused`), or neither; the status counts only where the code is empty. What a resolver
reports of the failure goes by nothing else (`reported_of_failed_request`).

The evidence is read off the response (`codeIn`, `statusIn`) as long as its parts have fields or
count as missing (`IsReadable`).
-/

namespace ObjectLookup

/-! ## Numbers as integers -/

theorem Decimal.Binary64.eq_of_equalsInt {x : Decimal.Binary64} {m n : Int}
    (hm : x.equalsInt m = true) (hn : x.equalsInt n = true) : m = n := by
  rcases hx : x.fraction? with _ | ⟨a, b⟩ <;> simp only [equalsInt, hx, beq_iff_eq] at hm hn
  · cases hm
  · have hb : (b : Int) ≠ 0 := by
      cases x with
      | nan | infinite => cases hx
      | finite s k e =>
          simp only [fraction?, Option.some.injEq] at hx
          by_cases he : e < 0
          · rw [if_pos he] at hx
            cases hx
            exact Int.natCast_ne_zero.2 (Nat.ne_of_gt (Nat.pow_pos (show 0 < 2 by decide)))
          · rw [if_neg he] at hx
            cases hx
            decide
    exact Int.eq_of_mul_eq_mul_right hb (hm.symm.trans hn)

/-- A value equals one integer at most. -/
theorem Value.eq_of_equalsInt {v : Value} {m n : Int} (hm : v.equalsInt m = true)
    (hn : v.equalsInt n = true) : m = n := by
  cases v with
  | float x => exact Decimal.Binary64.eq_of_equalsInt hm hn
  | bool b => exact (beq_iff_eq.1 hm).symm.trans (beq_iff_eq.1 hn)
  | int k => exact (beq_iff_eq.1 hm).symm.trans (beq_iff_eq.1 hn)
  | null | text | bytes | list | tuple | dict | mapping => cases hm

/-! ## Codes and statuses -/

/-- The code names a missing object, or it is empty and the status is that of one. -/
def SaysMissing (code : String) (status : Value) : Prop :=
  code ∈ ["NoSuchKey", "NotFound", "404"] ∨ code = "" ∧ status.equalsInt 404 = true

/-- The code names a refusal, or it is empty and the status is that of one. -/
def SaysRefused (code : String) (status : Value) : Prop :=
  code ∈ ["AccessDenied", "Forbidden", "403", "AllAccessDisabled", "InvalidAccessKeyId",
      "SignatureDoesNotMatch"] ∨
    code = "" ∧ status.equalsInt 403 = true

theorem SaysMissing.not_saysRefused {code : String} {status : Value}
    (h : SaysMissing code status) : ¬ SaysRefused code status := by
  have hmissing : ∀ c ∈ ["NoSuchKey", "NotFound", "404"], c ∉ accessDeniedCodes ∧ c ≠ "" := by
    decide
  rcases h with h | ⟨rfl, h⟩ <;> rintro (h' | ⟨h'', h'⟩)
  · exact (hmissing code h).1 h'
  · exact (hmissing code h).2 h''
  · revert h'
    decide
  · cases Value.eq_of_equalsInt h h'

/-- The three kinds that a storage failure can have, by its code and its status. -/
theorem classify_cases (code : Option String) (status : Value) :
    (SaysMissing (code.getD "") status ∧ classify code status = .notFound) ∨
    (SaysRefused (code.getD "") status ∧ classify code status = .accessDenied) ∨
    (¬ SaysMissing (code.getD "") status ∧ ¬ SaysRefused (code.getD "") status ∧
      classify code status = .storageFailure) := by
  generalize hc : code.getD "" = c
  by_cases h₁ : c ∈ notFoundCodes
  · exact .inl ⟨.inl h₁, by simp only [classify, hc, if_pos h₁]⟩
  by_cases h₂ : c ∈ accessDeniedCodes
  · exact .inr (.inl ⟨.inl h₂, by simp only [classify, hc, if_neg h₁, if_pos h₂]⟩)
  by_cases h₃ : c = "" ∧ status.equalsInt 404 = true
  · exact .inl ⟨.inr h₃, by simp only [classify, hc, if_neg h₁, if_neg h₂, if_pos h₃]⟩
  by_cases h₄ : c = "" ∧ status.equalsInt 403 = true
  · refine .inr (.inl ⟨.inr h₄, ?_⟩)
    simp only [classify, hc, if_neg h₁, if_neg h₂, if_neg h₃, if_pos h₄]
  · refine .inr (.inr ⟨not_or.2 ⟨h₁, h₃⟩, not_or.2 ⟨h₂, h₄⟩, ?_⟩)
    simp only [classify, hc, if_neg h₁, if_neg h₂, if_neg h₃, if_neg h₄]

theorem classify_eq_notFound_iff {code : Option String} {status : Value} :
    classify code status = .notFound ↔ SaysMissing (code.getD "") status := by
  rcases classify_cases code status with ⟨hm, hk⟩ | ⟨hr, hk⟩ | ⟨hm, _, hk⟩ <;> rw [hk]
  · exact iff_of_true rfl hm
  · exact iff_of_false nofun fun hm ↦ hm.not_saysRefused hr
  · exact iff_of_false nofun hm

theorem classify_eq_accessDenied_iff {code : Option String} {status : Value} :
    classify code status = .accessDenied ↔ SaysRefused (code.getD "") status := by
  rcases classify_cases code status with ⟨hm, hk⟩ | ⟨hr, hk⟩ | ⟨_, hr, hk⟩ <;> rw [hk]
  · exact iff_of_false nofun hm.not_saysRefused
  · exact iff_of_true rfl hr
  · exact iff_of_false nofun hr

theorem classify_eq_storageFailure_iff {code : Option String} {status : Value} :
    classify code status = .storageFailure ↔
      ¬ SaysMissing (code.getD "") status ∧ ¬ SaysRefused (code.getD "") status := by
  rcases classify_cases code status with ⟨hm, hk⟩ | ⟨hr, hk⟩ | ⟨hm, hr, hk⟩ <;> rw [hk]
  · exact iff_of_false nofun fun h ↦ h.1 hm
  · exact iff_of_false nofun fun h ↦ h.2 hr
  · exact iff_of_true rfl ⟨hm, hr⟩

theorem ErrorKind.className_inj {k k' : ErrorKind} : k.className = k'.className ↔ k = k' := by
  cases k <;> cases k' <;> decide

namespace S3

/-! ## Responses -/

/-- A part of a response that has fields, or counts as missing. -/
def IsPart (v : Value) : Prop := v.isPresent = false ∨ ∃ es, v = .dict es ∨ v = .mapping es

/-- The value under a name, null if there is none. -/
def part (name : String) : Value → Value
  | .dict es | .mapping es => (Value.field? name es).getD .null
  | _ => .null

/-- A response in which code and status can be looked up: it and the parts that they are in have
fields, or count as missing. -/
structure IsReadable (response : Value) : Prop where
  whole : IsPart response
  error : IsPart (part "Error" response)
  metadata : IsPart (part "ResponseMetadata" response)

/-- The text of the code in a response, empty if the code counts as missing. -/
def codeIn (response : Value) : String :=
  let code := part "Code" (part "Error" response)
  if code.isPresent then code.display else ""

def statusIn (response : Value) : Value :=
  part "HTTPStatusCode" (part "ResponseMetadata" response)

theorem field_eq_part {v : Value} (h : IsPart v) (name : String) :
    field name v = .ok (part name v) := by
  rcases hp : v.isPresent with _ | _
  · have hnone : part name v = .null := by
      cases v with
      | dict es | mapping es =>
          have hes : es = [] := by simpa [Value.isPresent] using hp
          subst hes
          rfl
      | null | bool | int | float | text | bytes | list | tuple => rfl
    simp only [field, hp, hnone]
    rfl
  · rcases h with h | ⟨es, rfl | rfl⟩
    · rw [hp] at h
      cases h
    · simp only [field, hp]
      rfl
    · simp only [field, hp]
      rfl

theorem codeOf_eq {response : Value} (h : IsReadable response) :
    codeOf response = .ok (given? (some (codeIn response))) := by
  have hcode : codeOf response = .ok (if (part "Code" (part "Error" response)).isPresent then
      given? (some (part "Code" (part "Error" response)).display) else none) := by
    rw [codeOf, field_eq_part h.whole]
    change (field "Code" (part "Error" response)).bind _ = _
    rw [field_eq_part h.error]
    rfl
  rw [hcode, codeIn]
  split <;> rfl

theorem statusOf_eq {response : Value} (h : IsReadable response) :
    statusOf response = .ok (statusIn response) := by
  rw [statusOf, field_eq_part h.whole]
  exact field_eq_part h.metadata "HTTPStatusCode"

/-- What is known of a request that failed: the code and the status of the service's answer, or the
class of the failure if there was no answer. -/
def evidence? (e : Failure) : Option (String × Value) :=
  match e.fault.family with
  | .service response => some (codeIn response, statusIn response)
  | .transport => some (e.fault.name, .null)
  | _ => none

/-- What a failed request is reported with, as far as it is an error of the service's own. -/
def account (l : Location) (e : Failure) : String :=
  match e.fault.family with
  | .service _ => requestText l e
  | .transport => "S3 request failed for " ++ l.uri ++ ": " ++ e.text
  | _ => e.text

/-- A failure with evidence is reported as a neutral error with that evidence, whose cause it is. -/
theorem neutral_of_evidence {l : Location} {e : Failure} {code : String} {status : Value}
    (h : evidence? e = some (code, status))
    (hparts : ∀ response, e.fault.family = .service response → IsReadable response) :
    ∃ code', code'.getD "" = code ∧
      neutral l e = .because (storageFault (account l e) code' status) e := by
  have hcode (c : String) : (given? (some c)).getD "" = c := by
    by_cases hc : c = ""
    · subst hc
      rfl
    · rw [given?_of_ne hc]
      rfl
  cases hfamily : e.fault.family with
  | service response =>
      have hreadable := hparts response hfamily
      simp only [evidence?, hfamily, Option.some.injEq, Prod.mk.injEq] at h
      obtain ⟨rfl, rfl⟩ := h
      refine ⟨_, hcode _, ?_⟩
      have hfailure : storageFailure response l e = .ok (.because
          (storageFault (requestText l e) (given? (some (codeIn response))) (statusIn response))
          e) := by
        rw [storageFailure, codeOf_eq hreadable, statusOf_eq hreadable]
        rfl
      simp only [neutral, hfamily, hfailure, account]
  | transport =>
      simp only [evidence?, hfamily, Option.some.injEq, Prod.mk.injEq] at h
      obtain ⟨rfl, rfl⟩ := h
      exact ⟨some e.fault.name, rfl, by simp only [neutral, hfamily, account]⟩
  | lookup | storage | delegateDisabled | other =>
      simp only [evidence?, hfamily] at h
      cases h

/-- A failure without evidence is passed on as it is. -/
theorem neutral_of_no_evidence {l : Location} {e : Failure} (h : evidence? e = none) :
    neutral l e = e ∧ account l e = e.text := by
  cases hfamily : e.fault.family with
  | service | transport =>
      simp only [evidence?, hfamily] at h
      cases h
  | lookup | storage | delegateDisabled | other =>
      simp only [neutral, account, hfamily, and_self]

/-! ## Reports -/

/-- The failure `f` is what a resolver reports of the failure `e` of a request for `l`. -/
structure IsReport (l : Location) (e f : Failure) : Prop where
  /-- It is an error of the taxonomy whose message begins with the location. -/
  fault : ∃ k, f.fault = .ofKind k (l.text ++ ": " ++ account l e)
  missing : f.fault.name = "ObjectNotFound" ↔
    ∃ code status, evidence? e = some (code, status) ∧ SaysMissing code status
  refused : f.fault.name = "AccessDenied" ↔
    ∃ code status, evidence? e = some (code, status) ∧ SaysRefused code status
  other : f.fault.name = "StorageIOError" ↔
    ∀ code status, evidence? e = some (code, status) →
      ¬ SaysMissing code status ∧ ¬ SaysRefused code status
  /-- Its causes are those of the request, below a neutral error if there is evidence. -/
  causes : (evidence? e = none ∧ f.causes = e.chain) ∨
    (evidence? e).isSome ∧ ∃ g : Fault, g.name = "StorageClientError" ∧
      g.text = account l e ∧ f.causes = g :: e.chain

theorem isReport_of_evidence {l : Location} {e : Failure} {code : String} {status : Value}
    (h : evidence? e = some (code, status))
    (hparts : ∀ response, e.fault.family = .service response → IsReadable response) :
    IsReport l e (Resolver.fetchFailure l (neutral l e)) := by
  obtain ⟨code', rfl, hneutral⟩ := neutral_of_evidence (l := l) h hparts
  have hreport : Resolver.fetchFailure l (neutral l e) =
      .because (.ofKind (classify code' status) (l.text ++ ": " ++ account l e))
        (.because (storageFault (account l e) code' status) e) := by rw [hneutral]; rfl
  have hname (k : ErrorKind) : (Resolver.fetchFailure l (neutral l e)).fault.name = k.className ↔
      classify code' status = k := by
    rw [hreport]
    exact ErrorKind.className_inj
  have hevidence {code status'} : evidence? e = some (code, status') ↔
      code'.getD "" = code ∧ status = status' := by simp [h]
  constructor
  · rw [hreport]
    exact ⟨_, rfl⟩
  · refine (hname .notFound).trans (classify_eq_notFound_iff.trans ?_)
    exact ⟨fun hm ↦ ⟨_, _, h, hm⟩, fun ⟨_, _, h', hm⟩ ↦ by
      obtain ⟨rfl, rfl⟩ := hevidence.1 h'
      exact hm⟩
  · refine (hname .accessDenied).trans (classify_eq_accessDenied_iff.trans ?_)
    exact ⟨fun hr ↦ ⟨_, _, h, hr⟩, fun ⟨_, _, h', hr⟩ ↦ by
      obtain ⟨rfl, rfl⟩ := hevidence.1 h'
      exact hr⟩
  · refine (hname .storageFailure).trans (classify_eq_storageFailure_iff.trans ?_)
    exact ⟨fun hn _ _ h' ↦ by
      obtain ⟨rfl, rfl⟩ := hevidence.1 h'
      exact hn, fun hn ↦ hn _ _ h⟩
  · rw [hreport]
    exact .inr ⟨Option.isSome_iff_exists.2 ⟨_, h⟩, _, rfl, rfl, rfl⟩

theorem isReport_of_no_evidence {l : Location} {e : Failure} (h : evidence? e = none)
    (hstorage : ∀ code status, e.fault.family ≠ .storage code status) :
    IsReport l e (Resolver.fetchFailure l (neutral l e)) := by
  obtain ⟨hneutral, haccount⟩ := neutral_of_no_evidence (l := l) h
  have hkind : e.fetchKind = .storageFailure := by
    cases hfamily : e.fault.family with
    | storage code status => exact absurd hfamily (hstorage code status)
    | lookup | service | transport | delegateDisabled | other =>
        simp only [Failure.fetchKind, hfamily]
  have hreport : Resolver.fetchFailure l (neutral l e) =
      .because (.ofKind .storageFailure (l.text ++ ": " ++ account l e)) e := by
    rw [hneutral, haccount, Resolver.fetchFailure, hkind]
  have hname (k : ErrorKind) : (Resolver.fetchFailure l (neutral l e)).fault.name = k.className ↔
      ErrorKind.storageFailure = k := by
    rw [hreport]
    exact ErrorKind.className_inj (k := .storageFailure)
  constructor
  · rw [hreport]
    exact ⟨_, rfl⟩
  · exact (hname .notFound).trans (by simp [h])
  · exact (hname .accessDenied).trans (by simp [h])
  · exact (hname .storageFailure).trans (by simp [h])
  · rw [hreport]
    exact .inl ⟨h, rfl⟩

variable {σ : Type} {host : Host σ} {r : Resolver σ} {s s₁ : Session σ}

theorem fetch_client_apply (c : Connection σ) (l : Location) (o : σ) :
    c.client.fetch l o = match c.getObject l o with
      | (.ok response, o) => (.ok (Object.handle ⟨l, response, false⟩), o)
      | (.error e, o) => (.error (neutral l e), o) := by
  have hmap : c.client.fetch l = c.fetch l >>= fun x ↦ pure x.handle := rfl
  have hfetch : c.fetch l o = match c.getObject l o with
      | (.ok response, o) => (.ok ⟨l, response, false⟩, o)
      | (.error e, o) => (.error (neutral l e), o) := rfl
  rw [hmap, Act.bind_apply, hfetch]
  rcases c.getObject l o with ⟨e | response, p⟩ <;> rfl

theorem fst_fetch_client {c : Connection σ} {l : Location} {o : σ} {e : Failure}
    (h : (c.getObject l o).1 = .error e) : (c.client.fetch l o).1 = .error (neutral l e) := by
  rw [fetch_client_apply]
  rcases hg : c.getObject l o with ⟨e' | response, o'⟩ <;> rw [hg] at h <;> cases h
  rfl

/-- An answer with a numeric code that says one thing and a status that says another. -/
def conflicting : Value :=
  .dict [(.text "Error", .dict [(.text "Code", .int 404)]),
    (.text "ResponseMetadata", .dict [(.text "HTTPStatusCode", .int 403)])]

/-- A service that answers so. -/
def conflicted : Session Scripted.Stage where
  outside := { entries := [⟨⟨"images", "a.gif"⟩,
    .failure (Scripted.serviceFailure conflicting "GetObject")⟩] }

end S3

end ObjectLookup
