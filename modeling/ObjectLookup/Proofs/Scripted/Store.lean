import ObjectLookup.Proofs.Storage.Steady
import ObjectLookup.Resolver
import ObjectLookup.Scripted.Catalogue
import ObjectLookup.Scripted.Delegate

/-! # Scripted stores are steady

A scripted store answers a location by its entries, whatever was fetched before. What an object
shows depends on the object that was fetched under its number and on nothing else, so that the
handles of two fetches of one entry are alike; and no action on a handle changes the entries. So the
store is steady as long as its entries stay (`isSteady_client`), and the scripted delegates are
predictable, all but those that give their answers in turn (`isPredictable_delegate`).
-/

namespace ObjectLookup.Scripted

open Act

/-! ## Entries stay -/

section Keeps

variable {I : Stage → Prop} {es : List Entry}

/-- The store has these entries. -/
def HasEntries (es : List Entry) (stage : Stage) : Prop := stage.entries = es

theorem keeps_raise? (e : Option Failure) : Keeps I (raise? e) := by
  cases e with
  | none => exact .pure ()
  | some e => exact .throw e

theorem keeps_fetchedObject (i : Nat) : Keeps I (fetchedObject i) := fun _ h ↦ h

theorem keeps_change (i : Nat) (g : Fetched → Fetched) :
    Keeps (HasEntries es) (modify (Stage.change i g) : Act Stage PUnit) := .modify fun _ h ↦ h

theorem keeps_contentType (i : Nat) : Keeps I (contentType i) :=
  (keeps_fetchedObject i).bind fun f ↦ (keeps_raise? f.object.faults.contentType).bind fun _ ↦
    .pure f.object.contentType

theorem keeps_closeStream (i : Nat) : Keeps (HasEntries es) (closeStream i) :=
  (keeps_fetchedObject i).bind fun f ↦ (keeps_change i _).bind fun _ ↦
    keeps_raise? f.object.faults.bodyClose

theorem keeps_closeHandle (i : Nat) : Keeps (HasEntries es) (closeHandle i) :=
  (keeps_fetchedObject i).bind fun f ↦ (keeps_change i _).bind fun _ ↦
    (keeps_closeStream i).bind fun _ ↦ keeps_raise? f.object.faults.close

end Keeps

/-! ## Objects of one entry are alike -/

section Alike

variable {S : Stage → Stage → Prop} {i j : Nat}

/-- In related stages the objects of the numbers `i` and `j` are equal, and stay related when they
are changed in the same way. -/
structure Tracks (S : Stage → Stage → Prop) (i j : Nat) : Prop where
  fetched : ∀ o p, S o p → o.fetched[i]? = p.fetched[j]?
  change : ∀ g o p, S o p → S (o.change i g) (p.change j g)

/-- Under the numbers `i` and `j` the stages have one and the same object, which has come equally
far in both. -/
def SameObject (i j : Nat) (o p : Stage) : Prop :=
  ∃ f, o.fetched[i]? = some f ∧ p.fetched[j]? = some f

theorem tracks_sameObject (i j : Nat) : Tracks (SameObject i j) i j where
  fetched := fun o p ⟨f, ho, hp⟩ ↦ ho.trans hp.symm
  change := by
    rintro g o p ⟨f, ho, hp⟩
    refine ⟨g f, ?_, ?_⟩
    · simp only [Stage.change, List.getElem?_modify_eq, ho]
      rfl
    · simp only [Stage.change, List.getElem?_modify_eq, hp]
      rfl

theorem alike_raise? (e : Option Failure) : Alike S Eq (raise? e) (raise? e) := by
  cases e with
  | none => exact .pure rfl
  | some e => exact .throw e

theorem fetchedObject_apply {f : Fetched} {o : Stage} (h : o.fetched[i]? = some f) :
    fetchedObject i o = (.ok f, o) := by
  change (Except.ok ((o.fetched[i]?).getD _), o) = _
  rw [h]
  rfl

section Tracks

variable (h : Tracks S i j)
include h

theorem alike_fetchedObject : Alike S Eq (fetchedObject i) (fetchedObject j) := by
  intro o p hop
  refine ⟨.ok ?_, hop⟩
  rw [h.fetched o p hop]

theorem alike_change (g : Fetched → Fetched) :
    Alike S Eq (modify (Stage.change i g) : Act Stage PUnit) (modify (Stage.change j g)) :=
  .modify (h.change g)

theorem alike_contentType : Alike S Eq (contentType i) (contentType j) := by
  refine (alike_fetchedObject h).bind ?_
  rintro f _ rfl
  exact (alike_raise? _).bind fun _ _ _ ↦ .pure rfl

theorem alike_contentLength : Alike S Eq (contentLength i) (contentLength j) := by
  refine (alike_fetchedObject h).bind ?_
  rintro f _ rfl
  exact (alike_raise? _).bind fun _ _ _ ↦ .pure rfl

theorem alike_closeStream : Alike S Eq (closeStream i) (closeStream j) := by
  refine (alike_fetchedObject h).bind ?_
  rintro f _ rfl
  exact (alike_change h _).bind fun _ _ _ ↦ alike_raise? _

theorem alike_closeHandle : Alike S Eq (closeHandle i) (closeHandle j) := by
  refine (alike_fetchedObject h).bind ?_
  rintro f _ rfl
  refine (alike_change h _).bind fun _ _ _ ↦ ?_
  exact (alike_closeStream h).bind fun _ _ _ ↦ alike_raise? _

theorem alike_readStream (size : Option Nat) :
    Alike S Eq (readStream i size) (readStream j size) := by
  refine (alike_fetchedObject h).bind ?_
  rintro f _ rfl
  refine .guard fun _ ↦ ?_
  rcases f.object.faults.read with _ | ⟨after, e⟩
  · exact (alike_change h _).bind fun _ _ _ ↦ .pure rfl
  · exact .guard fun _ ↦ (alike_change h _).bind fun _ _ _ ↦ .pure rfl

theorem alike_stream : (stream i).Alike S (stream j) where
  read := alike_readStream h
  remaining o p hop := by
    change remaining i o = remaining j p
    rw [remaining, remaining, h.fetched o p hop]
  close := alike_closeStream h

theorem alike_openHandle (closed : Bool) :
    Alike S (Option.Rel (Stream.Alike S)) (openHandle i closed) (openHandle j closed) := by
  refine (alike_fetchedObject h).bind ?_
  rintro f _ rfl
  refine (alike_change h _).bind fun _ _ _ ↦ .guard fun _ ↦ ?_
  exact (alike_raise? _).bind fun _ _ _ ↦ .pure (.some (alike_stream h))

theorem alike_handle : (handle i).Alike S (handle j) where
  contentType := alike_contentType h
  contentLength := alike_contentLength h
  openStream := alike_openHandle h
  release _ := alike_closeHandle h
  closed := rfl

end Tracks

end Alike

/-! ## Fetching -/

section Fetch

variable {es : List Entry}

/-- The object as it is when it has just been fetched. -/
def StoredObject.fetched (o : StoredObject) : Fetched := { object := o, rest := o.data.getD [] }

theorem fetch_apply (l : Location) (o : Stage) :
    fetch l o = match o.reply? l with
      | none => (.error (missing l), o)
      | some (.failure e) => (.error e, o)
      | some (.object x) =>
        (.ok (handle o.fetched.length), { o with fetched := o.fetched ++ [x.fetched] }) := by
  rw [fetch, bind_apply]
  change (match o.reply? l with
    | none => throw (missing l)
    | some (.failure e) => throw e
    | some (.object x) => do return handle (← addFetched x) : Act Stage (Handle Stage)) o = _
  rcases o.reply? l with _ | x | e <;> rfl

/-- What is fetched is the handle of a number. -/
theorem eq_handle_of_fetch {l : Location} {o : Stage} {h : Handle Stage}
    (hh : (fetch l o).1 = .ok h) : ∃ i, h = handle i := by
  rw [fetch_apply] at hh
  rcases hr : o.reply? l with _ | x | e <;> rw [hr] at hh <;> cases hh
  exact ⟨_, rfl⟩

theorem keeps_fetch (l : Location) : Keeps (HasEntries es) (fetch l) := by
  intro o ho
  rw [fetch_apply]
  rcases o.reply? l with _ | x | e <;> exact ho

/-- Stores with the same entries answer alike. -/
theorem answer_client_eq (n : Nat) (l : Location) {s t : Session Stage}
    (hst : s.outside.entries = t.outside.entries) :
    (client n).answer l s = (client n).answer l t := by
  have hreply : s.outside.reply? l = t.outside.reply? l := by rw [Stage.reply?, hst]; rfl
  simp only [Client.answer, client, Session.perform, fetch_apply, hreply]
  rcases t.outside.reply? l with _ | x | e
  · rfl
  · refine congrArg Except.ok ((alike_handle (tracks_sameObject _ _)).seen_eq ?_)
    refine ⟨x.fetched, ?_, ?_⟩ <;> exact List.getElem?_concat_length
  · rfl

/-- As long as its entries stay as they are, a scripted store is steady, whatever faults its
objects have. -/
theorem isSteady_client (n : Nat) (es : List Entry) : (client n).IsSteady (HasEntries es) where
  keeps_fetch := keeps_fetch
  keeps_contentType l o h hh := by
    obtain ⟨i, rfl⟩ := eq_handle_of_fetch hh
    exact keeps_contentType i
  keeps_close l o h hh := by
    obtain ⟨i, rfl⟩ := eq_handle_of_fetch hh
    exact keeps_closeHandle i
  answer_eq l s t hs ht := answer_client_eq n l (hs.trans ht.symm)

end Fetch

/-! ## Delegates -/

/-- A scripted delegate is predictable if it does not give its answers in turn. -/
theorem isPredictable_delegate (number : Nat) {script : Script} (es : List Entry)
    (h : ∀ answers, script ≠ .sequence answers) :
    (delegate number script).IsPredictable (HasEntries es) := by
  refine ⟨fun identifier context ↦ ((script.run number).answer identifier context {}).1, ?_⟩
  intro identifier context o ho
  cases script with
  | sequence answers => exact absurd rfl (h answers)
  | const v => exact ⟨rfl, ho⟩
  | affix before after => exact ⟨rfl, ho⟩
  | table rows default => exact ⟨rfl, ho⟩
  | mutate field v => exact ⟨rfl, ho⟩
  | raise e => exact ⟨rfl, ho⟩
  | context before field => exact ⟨rfl, ho⟩

/-! ## A session over a store -/

/-- A host without modules to import. -/
def host : Host Stage := ⟨Catalogue.importModule [], ⟨[], build client⟩⟩

/-- A session over a store of the given entries, with its client built. -/
def session (es : List Entry) : Session Stage :=
  { outside := { entries := es }, client := some (client 0) }

/-- A resolver that takes its identifier for a key in the bucket `images`. -/
def direct (identifier : String) : Resolver Stage :=
  { identifier := ⟨identifier⟩, settings := {}, strategy := some (.direct (some "images")) }

/-- Settings that select the direct strategy over that bucket. -/
def directSettings : Settings :=
  { lookupStrategy := some "Direct", bucketName := some "images" }

theorem isServedBy_session (es : List Entry) :
    (session es).IsServedBy (client 0) (HasEntries es) := ⟨rfl, rfl⟩

end ObjectLookup.Scripted
