import ObjectLookup.Proofs.Settings.Credentials
import ObjectLookup.Strategy

/-! # Lookups that run alike

Members, delegates and strategies from outside are alike if what they do to the outside is alike.
Then delegates are found, loaded and called alike, and strategies are selected and asked alike, also
from settings that differ in their credentials: neither reads them.
-/

namespace ObjectLookup

variable {σ τ : Type} {S : σ → τ → Prop}

/-! ## Delegates -/

/-- Lookups that answer alike. -/
def Lookup.Alike (S : σ → τ → Prop) (f : Lookup σ) (g : Lookup τ) : Prop :=
  ∀ identifier context, Act.Alike S Eq (f.answer identifier context) (g.answer identifier context)

/-- Members that are called alike, with members that are alike. -/
inductive Member.Alike (S : σ → τ → Prop) : Member σ → Member τ → Prop where
  | mk {call : Option (Lookup σ)} {call' : Option (Lookup τ)}
      {member : String → Except Failure (Member σ)} {member' : String → Except Failure (Member τ)}
      (hcall : Option.Rel (Lookup.Alike S) call call')
      (hmember : ∀ name, Agree (Member.Alike S) (member name) (member' name)) :
      Member.Alike S (.mk call member) (.mk call' member')

/-- Importers that give alike members. -/
def Importer.Alike (S : σ → τ → Prop) (f : Importer σ) (g : Importer τ) : Prop :=
  ∀ name, Act.Alike S (Member.Alike S) (f name) (g name)

/-- Delegates that answer alike. -/
inductive Delegate.Alike (S : σ → τ → Prop) : Delegate σ → Delegate τ → Prop where
  | disabled : Delegate.Alike S .disabled .disabled
  | unloadable (target : String) (cause : Failure) :
      Delegate.Alike S (.unloadable target cause) (.unloadable target cause)
  | callable (origin : Origin) {f : Lookup σ} {g : Lookup τ} (h : Lookup.Alike S f g) :
      Delegate.Alike S (.callable origin f) (.callable origin g)

namespace Member.Alike

variable {m : Member σ} {n : Member τ}

theorem call? (h : Member.Alike S m n) : Option.Rel (Lookup.Alike S) m.call? n.call? := by
  cases h with
  | mk hcall _ => exact hcall

theorem member (h : Member.Alike S m n) (name : String) :
    Agree (Member.Alike S) (m.member name) (n.member name) := by
  cases h with
  | mk _ hmember => exact hmember name

theorem follow (h : Member.Alike S m n) (path : List String) :
    Agree (Member.Alike S) (m.follow path) (n.follow path) := by
  induction path generalizing m n with
  | nil => exact .ok h
  | cons name path ih =>
      rcases (h.member name).cases with ⟨e, hx, hy⟩ | ⟨x, y, hx, hy, hxy⟩ <;>
        simp only [Member.follow, hx, hy]
      · exact .error e
      · exact ih hxy

end Member.Alike

namespace Delegate

variable {importer : Importer σ} {importer' : Importer τ} {a b : Settings}

theorem runAlike_find (h : Importer.Alike S importer importer') (target : String) :
    RunAlike S (Agree (Member.Alike S)) (find importer target) (find importer' target) := by
  intro s t hst
  obtain ⟨_, _, s', t', hs, ht, hmember | e, h'⟩ :=
    RunAlike.perform (h (targetModule target)) _ _ (hst.record (.imported target))
  · simp only [find, hs, ht]
    exact ⟨_, _, _, _, rfl, rfl, hmember.follow (targetPath target), h'⟩
  · simp only [find, hs, ht]
    exact ⟨_, _, _, _, rfl, rfl, .error e, h'⟩

theorem runAlike_load (h : Importer.Alike S importer importer') (hab : a.SameButCredentials b) :
    RunAlike S (Delegate.Alike S) (load importer a) (load importer' b) := by
  intro s t hst
  have hwanted : wanted? a = wanted? b := hab.apply_eq wanted? fun _ ↦ rfl
  rcases hw : wanted? b with _ | target <;> simp only [load, hwanted, hw]
  · exact ⟨_, _, _, _, rfl, rfl, .disabled, hst.log _ _ _⟩
  · obtain ⟨_, _, s', t', hs, ht, @⟨m, n, hmember⟩ | e, h'⟩ := runAlike_find h target s t hst
    · rcases optionRel_cases hmember.call? with ⟨hm, hn⟩ | ⟨f, g, hm, hn, hfg⟩ <;>
        simp only [hs, ht, hm, hn]
      · exact ⟨_, _, _, _, rfl, rfl, .unloadable target _, h'⟩
      · exact ⟨_, _, _, _, rfl, rfl, .callable _ hfg, h'.log _ _ _⟩
    · simp only [hs, ht]
      exact ⟨_, _, _, _, rfl, rfl, .unloadable target e, h'.log _ _ _⟩

theorem runAlike_call {d : Delegate σ} {d' : Delegate τ} (h : d.Alike S d') (identifier : String)
    (context : Context) :
    RunAlike S (Agree Eq) (d.call identifier context) (d'.call identifier context) := by
  cases h with
  | disabled => exact .pure (.error _)
  | unloadable target cause => exact .pure (.error _)
  | callable origin h =>
      intro s t hst
      exact RunAlike.perform (h identifier context) _ _
        (hst.record (.called origin identifier context))

end Delegate

theorem Answer.runAlike_read (v : Value) (identifier : String) :
    RunAlike S (Agree Eq) (Answer.read v identifier) (Answer.read v identifier) := by
  intro s t hst
  rcases hv : ofValue v with p | a <;> simp only [read, hv]
  · refine ⟨_, _, _, _, rfl, rfl, .error _, ?_⟩
    cases p with
    | unusable mapping => exact hst.log _ _ _
    | emptyKey | unsupported | overlong => exact hst
  · exact ⟨_, _, _, _, rfl, rfl, .ok rfl, hst⟩

/-! ## Strategies -/

/-- Strategies that find locations alike. -/
inductive Strategy.Alike (S : σ → τ → Prop) : Strategy σ → Strategy τ → Prop where
  | direct (bucket : Option String) : Strategy.Alike S (.direct bucket) (.direct bucket)
  | dynamic {d : Delegate σ} {d' : Delegate τ} (h : d.Alike S d') (bucket : Option String) :
      Strategy.Alike S (.dynamic d bucket) (.dynamic d' bucket)
  | custom {f : Identifier → Context → Act σ Location} {g : Identifier → Context → Act τ Location}
      (h : ∀ identifier context, Act.Alike S Eq (f identifier context) (g identifier context)) :
      Strategy.Alike S (.custom f) (.custom g)

namespace Strategy

theorem runAlike_ask {d : Delegate σ} {d' : Delegate τ} (h : d.Alike S d') (identifier : String)
    (context : Context) :
    RunAlike S (Agree Eq) (ask d identifier context) (ask d' identifier context) := by
  intro s t hst
  obtain ⟨_, _, s', t', hs, ht, @⟨v, _, rfl⟩ | e, h'⟩ :=
    Delegate.runAlike_call h identifier context _ _
      (hst.log .debug .strategies ("Invoking " ++ getObjectKey ++ " for " ++ identifier))
  · simp only [ask, hs, ht]
    exact Answer.runAlike_read v identifier s' t' h'
  · simp only [ask, hs, ht]
    exact ⟨_, _, _, _, rfl, rfl, .error _, h'.log _ _ _⟩

theorem runAlike_resolve {st : Strategy σ} {st' : Strategy τ} (h : st.Alike S st')
    (identifier : Identifier) (context : Context) :
    RunAlike S (Agree Eq) (st.resolve identifier context) (st'.resolve identifier context) := by
  cases h with
  | direct bucket => exact .pure (.of_eq rfl)
  | dynamic h bucket =>
      intro s t hst
      obtain ⟨x, y, s', t', hs, ht, hxy, h'⟩ := runAlike_ask h identifier.value context s t hst
      simp only [resolve_dynamic, hs, ht]
      exact ⟨_, _, _, _, rfl, rfl, .of_eq (by rw [hxy.eq]), h'⟩
  | custom h => exact .perform (h identifier context)

variable {importer : Importer σ} {importer' : Importer τ} {a b : Settings}
  {d : Option (Delegate σ)} {d' : Option (Delegate τ)}

theorem runAlike_select (h : Importer.Alike S importer importer') (hab : a.SameButCredentials b)
    (hd : Option.Rel (Delegate.Alike S) d d') :
    RunAlike S (Agree (Strategy.Alike S)) (select importer a d) (select importer' b d') := by
  intro s t hst
  have hselector : Selector.ofSettings? a = Selector.ofSettings? b :=
    hab.apply_eq Selector.ofSettings? fun _ ↦ rfl
  have hbucket : a.bucketName = b.bucketName := hab.apply_eq Settings.bucketName fun _ ↦ rfl
  have hunknown : unknownSelector a = unknownSelector b :=
    hab.apply_eq unknownSelector fun _ ↦ rfl
  have h' := hst.record .selected
  rcases hsel : Selector.ofSettings? b with _ | _ | _ <;>
    simp only [select, hselector, hsel, hbucket, hunknown]
  · exact ⟨_, _, _, _, rfl, rfl, .error _, h'⟩
  · exact ⟨_, _, _, _, rfl, rfl, .ok (.direct _), h'⟩
  · cases hd with
    | some hd => exact ⟨_, _, _, _, rfl, rfl, .ok (.dynamic hd _), h'⟩
    | none =>
        obtain ⟨x, y, s', t', hs, ht, hxy, h''⟩ := Delegate.runAlike_load h hab _ _ h'
        simp only [hs, ht]
        exact ⟨_, _, _, _, rfl, rfl, .ok (.dynamic hxy _), h''⟩

end Strategy

/-! ## From equal states -/

theorem Lookup.Alike.refl (f : Lookup σ) : Lookup.Alike Eq f f :=
  fun identifier context ↦ .refl (fun _ ↦ rfl) (f.answer identifier context)

/-- By induction on the members of the member. -/
theorem Member.Alike.refl (m : Member σ) : Member.Alike Eq m m :=
  @Member.rec σ (fun m ↦ Member.Alike Eq m m) (fun x ↦ Agree (Member.Alike Eq) x x)
    (fun call _ ih ↦ .mk (optionRel_refl Lookup.Alike.refl call) ih) (fun e ↦ .error e)
    (fun _ ih ↦ .ok ih) m

theorem Importer.Alike.refl (importer : Importer σ) : Importer.Alike Eq importer importer :=
  fun name ↦ .refl Member.Alike.refl (importer name)

theorem Delegate.Alike.refl (d : Delegate σ) : d.Alike Eq d := by
  cases d with
  | disabled => exact .disabled
  | unloadable target cause => exact .unloadable target cause
  | callable origin f => exact .callable origin (.refl f)

theorem Strategy.Alike.refl (st : Strategy σ) : st.Alike Eq st := by
  cases st with
  | direct bucket => exact .direct bucket
  | dynamic d bucket => exact .dynamic (.refl d) bucket
  | custom f => exact .custom fun identifier context ↦ .refl (fun _ ↦ rfl) (f identifier context)

end ObjectLookup
