import ObjectLookup.Proofs.Delegate.Answer
import ObjectLookup.Proofs.Session.Journal
import ObjectLookup.Scripted.Delegate
import ObjectLookup.Strategy

/-! # The dynamic strategy goes by its delegate

What the dynamic strategy comes to is settled by two things: what its delegate does with the
identifier and the context (`Delegate.behaviour`), and whether there is a default bucket. `Verdict`
is the table of the cases, and the strategy comes to the one verdict that it gives
(`dynamic_determined`). Every verdict is a location or a failure of the taxonomy, but the one on a
mapping that is of no use and cannot be written (`overlong_not_of_taxonomy`).

The context is a mapping of the caller's, and a delegate may change the mapping that it is given.
That one is a copy, so the mappings that were there before stay as they were, whatever a delegate
does (`read_lookUp`), from one lookup to the next (`read_lookUpAll`).
-/

namespace ObjectLookup

variable {σ : Type}

/-! ## The verdict -/

/-- What a delegate does with an identifier and a context: it answers or fails. -/
def Delegate.behaviour (d : Delegate σ) (identifier : String) (context : Context) (outside : σ) :
    Except Failure Value :=
  match d with
  | .disabled => .error ⟨disabledFault, []⟩
  | .unloadable target cause => .error (.because (loadFault target cause) cause)
  | .callable _ run => (run identifier context outside).1.1

theorem Delegate.fst_call (d : Delegate σ) (identifier : String) (context : Context)
    (s : Session σ) :
    (d.call identifier context s).1 = d.behaviour identifier context s.outside := by
  cases d <;> rfl

namespace Strategy

/-- What a lookup can come to: a location, a failure of the class of a kind, or a failure to write
an integer. -/
inductive Outcome where
  | located (l : Location)
  | failed (kind : ErrorKind)
  | overlong

/-- What the behaviour of a delegate calls for. -/
inductive Verdict (bucket : Option String) : Except Failure Value → Outcome → Prop where
  /-- Whatever the failure of a delegate is of, it is one outside. -/
  | raised (e : Failure) : Verdict bucket (.error e) (.failed .externalSubsystem)
  /-- There is no object, whether or not there is a bucket to look in. -/
  | absent : Verdict bucket (.ok .null) (.failed .notFound)
  | key {b k : String} (hbucket : bucket = some b) (hb : b ≠ "") (hk : k ≠ "") :
      Verdict bucket (.ok (.text k)) (.located ⟨b, k⟩)
  | unplaced {k : String} (hbucket : ∀ b, bucket = some b → b = "") (hk : k ≠ "") :
      Verdict bucket (.ok (.text k)) (.failed .invalidConfiguration)
  /-- The bucket of a mapping goes before the default one. -/
  | location {v : Value} {l : Location} (hv : v.Means (.location l)) :
      Verdict bucket (.ok v) (.located l)
  | refused {v : Value} (hv : ∀ a, ¬ v.Means a) (hlong : ¬ v.IsOverlong) :
      Verdict bucket (.ok v) (.failed .invalidDelegateResult)
  | overlong {v : Value} (hlong : v.IsOverlong) : Verdict bucket (.ok v) .overlong

/-- The result is a location, a failure of the class of a kind, or the failure to write an
integer. -/
inductive Shows : Except Failure Location → Outcome → Prop where
  | located (l : Location) : Shows (.ok l) (.located l)
  | failed {e : Failure} {k : ErrorKind} {text : String} (h : e.fault = .ofKind k text) :
      Shows (.error e) (.failed k)
  | overlong : Shows (.error .overlong) .overlong

/-- Every behaviour has a verdict. -/
theorem exists_verdict (bucket : Option String) (x : Except Failure Value) :
    ∃ y, Verdict bucket x y := by
  rcases x with e | v
  · exact ⟨_, .raised e⟩
  · by_cases hv : ∃ a, v.Means a
    · obtain ⟨a, ha⟩ := hv
      cases ha with
      | absent => exact ⟨_, .absent⟩
      | key hk =>
          rcases hb : given? bucket with _ | b
          · exact ⟨_, .unplaced (given?_eq_none.1 hb) hk⟩
          · obtain ⟨hbucket, hne⟩ := given?_eq_some.1 hb
            exact ⟨_, .key hbucket hne hk⟩
      | location hes hbucket hkey => exact ⟨_, .location (.location hes hbucket hkey)⟩
    · by_cases hlong : v.IsOverlong
      · exact ⟨_, .overlong hlong⟩
      · exact ⟨_, .refused (not_exists.1 hv) hlong⟩

/-- A result shows no more than one verdict. -/
theorem Shows.unique {x : Except Failure Location} {y z : Outcome} (hy : Shows x y)
    (hz : Shows x z) : y = z := by
  have hkind {k k' : ErrorKind} {text text' : String} (h : Fault.ofKind k text = .ofKind k' text') :
      k = k' := Option.some.inj (congrArg Fault.kind? h)
  cases hy with
  | located l =>
      cases hz
      rfl
  | failed h =>
      cases hz with
      | failed h' => rw [hkind (h.symm.trans h')]
      | overlong => cases congrArg Fault.kind? h
  | overlong =>
      cases hz with
      | failed h => cases congrArg Fault.kind? h
      | overlong => rfl

/-- What is made of an answer shows the verdict on it. -/
theorem shows_of_answer {bucket : Option String} {v : Value} {y : Outcome} (hv : v.IsProper)
    (h : Verdict bucket (.ok v) y) (identifier : String) (s : Session σ) :
    Shows ((Answer.read v identifier s).1.bind (ofAnswer bucket identifier)) y := by
  have hread {a : Answer} (ha : v.Means a) : (Answer.read v identifier s).1 = .ok a := by
    simp only [Answer.read, (Answer.ofValue_eq_ok hv).2 ha]
  cases h with
  | absent => exact .failed rfl
  | @key b k hbucket hb hk =>
      have hplace : inBucket bucket k = .ok ⟨b, k⟩ := by
        simp only [inBucket, given?_eq_some.2 ⟨hbucket, hb⟩]
      rw [hread (.key hk)]
      change Shows (inBucket bucket k) _
      rw [hplace]
      exact .located _
  | @unplaced k hbucket hk =>
      have hplace : inBucket bucket k = .error noBucket := by
        simp only [inBucket, given?_eq_none.2 hbucket]
      rw [hread (.key hk)]
      change Shows (inBucket bucket k) _
      rw [hplace]
      exact .failed rfl
  | location hl =>
      rw [hread hl]
      exact .located _
  | refused hnone hlong =>
      rcases hx : Answer.ofValue v with p | a
      · rcases Answer.ofValue_error_cases hv hx identifier with ⟨_, h⟩ | ⟨hrefusal, _⟩
        · exact absurd h hlong
        · simp only [Answer.read, hx]
          obtain ⟨text, hfault⟩ := hrefusal.fault
          exact .failed hfault
      · exact absurd ((Answer.ofValue_eq_ok hv).1 hx) (hnone a)
  | overlong hlong =>
      simp only [Answer.read, Answer.ofValue_of_isOverlong hv hlong]
      exact .overlong

theorem shows_of_verdict {d : Delegate σ} {bucket : Option String} {identifier : Identifier}
    {context : Context} {s : Session σ} {y : Outcome}
    (hd : ∀ v, d.behaviour identifier.value context s.outside = .ok v → v.IsProper)
    (h : Verdict bucket (d.behaviour identifier.value context s.outside) y) :
    Shows ((Strategy.dynamic d bucket).resolve identifier context s).1 y := by
  let note := "Invoking " ++ getObjectKey ++ " for " ++ identifier.value
  have hcall := d.fst_call identifier.value context (s.log .debug .strategies note)
  rw [Session.outside_log] at hcall
  rcases hx : d.call identifier.value context (s.log .debug .strategies note) with ⟨e | v, s'⟩ <;>
    rw [hx] at hcall <;> rw [← hcall] at h hd <;> simp only [resolve_dynamic, ask, note, hx]
  · cases h
    exact .failed rfl
  · exact shows_of_answer (hd v rfl) h identifier.value s'

theorem ne_empty_of_verdict {bucket : Option String} {x : Except Failure Value} {l : Location}
    (h : Verdict bucket x (.located l)) : l.bucket ≠ "" ∧ l.key ≠ "" := by
  cases h with
  | key _ hb hk => exact ⟨hb, hk⟩
  | location hv =>
      cases hv with
      | location _ hbucket hkey => exact ⟨hbucket.1, hkey.1⟩

/-! ## Contexts that are mappings of the caller's -/

/-- Looks up one identifier after the other with one and the same mapping. -/
def lookUpAll (strategy : Strategy σ) (i : Nat) :
    List Identifier → Mappings → Session σ → Mappings × Session σ
  | [], m, s => (m, s)
  | identifier :: identifiers, m, s =>
    let (_, m, s) := strategy.lookUp identifier i m s
    lookUpAll strategy i identifiers m s

/-- The lookup finds what is found with a context of its own, of the same entries. -/
theorem lookUp_eq (strategy : Strategy σ) (identifier : Identifier) (i : Nat) (m : Mappings)
    (s : Session σ) :
    ((strategy.lookUp identifier i m s).1, (strategy.lookUp identifier i m s).2.2) =
      strategy.resolve identifier (m.read i) s := by
  cases strategy with
  | dynamic d bucket => simp only [lookUp, resolve_dynamic, Mappings.read_copy_count]
  | direct | custom => rfl

variable {strategy : Strategy σ} {identifier : Identifier} {i j : Nat} {m : Mappings}
  {s : Session σ}

/-- The mappings that are there stay as they are. -/
theorem read_lookUp (h : j < m.count) :
    (strategy.lookUp identifier i m s).2.1.read j = m.read j := by
  cases strategy with
  | dynamic d bucket =>
      simp only [lookUp]
      rw [Mappings.read_write_of_ne (Nat.ne_of_gt h), Mappings.read_copy_of_lt i h]
  | direct | custom => rfl

theorem count_le_lookUp : m.count ≤ (strategy.lookUp identifier i m s).2.1.count := by
  cases strategy with
  | dynamic d bucket =>
      simp only [lookUp, Mappings.count_write, Mappings.count_copy]
      exact Nat.le_succ _
  | direct | custom => exact Nat.le_refl _

theorem read_lookUpAll (h : j < m.count) (identifiers : List Identifier) :
    (strategy.lookUpAll i identifiers m s).1.read j = m.read j := by
  induction identifiers generalizing m s with
  | nil => rfl
  | cons identifier identifiers ih =>
      calc (strategy.lookUpAll i (identifier :: identifiers) m s).1.read j
          = (strategy.lookUp identifier i m s).2.1.read j :=
            ih (Nat.lt_of_lt_of_le h count_le_lookUp)
        _ = m.read j := read_lookUp h

/-- However often the mapping is used, every call of the delegate is made with the entries that it
has had from the start. -/
theorem extends_lookUpAll (h : i < m.count) (identifiers : List Identifier) :
    s.Extends (strategy.lookUpAll i identifiers m s).2
      (identifiers.map fun identifier ↦ .call identifier.value (m.read i)) [] 0 := by
  induction identifiers generalizing m s with
  | nil => exact .refl s
  | cons identifier identifiers ih =>
      have hfirst := Session.extends_resolve strategy identifier (m.read i) s
      rw [← lookUp_eq strategy identifier i m s] at hfirst
      have hlt : i < (strategy.lookUp identifier i m s).2.1.count :=
        Nat.lt_of_lt_of_le h count_le_lookUp
      have hrest := ih (s := (strategy.lookUp identifier i m s).2.2) hlt
      rw [read_lookUp h] at hrest
      exact hfirst.trans hrest

/-- A delegate that answers with a mapping and overwrites the tenant in what it is given. -/
def meddler : Delegate Scripted.Stage :=
  Scripted.delegate 0 (.mutate "tenant"
    (.dict [(.text "bucket", .text "vault"), (.text "key", .text "b.gif")]))

/-- A delegate that answers with a mapping which is of no use and cannot be written. -/
def annotator : Delegate Scripted.Stage := Scripted.delegate 0 (.const Answer.annotated)

end Strategy

end ObjectLookup
