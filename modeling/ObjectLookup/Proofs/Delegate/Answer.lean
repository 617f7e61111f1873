import Mathlib.Algebra.Group.Int.Defs
import Mathlib.Algebra.Group.Nat.Defs
import ObjectLookup.Delegate.Answer

/-! # Which answers of a delegate are of use

What a delegate answers is read by its shape: nothing, a text, or a mapping with a bucket and a key.
The shapes are stated here without the reader. A value counts as a text if it `Spells` one, and
entries have a text under a name if the value of that name spells it and it is not empty
(`Value.HasText`). The reader accepts these shapes and no others (`read_by_shape`).

Everything else is refused as an invalid answer, with one exception: a mapping that is of no use and
holds an integer that cannot be written (`Value.IsOverlong`). It is to be written to the log before
it is refused, and reading it ends there (`overlong_not_refused`).

The entries of a mapping have keys of which no two are equal, so that it does not matter in which
order a name is looked for (`field?_eq_some`). Entries that were put in one after the other are of
that kind (`distinctKeys_entriesOf`).
-/

namespace ObjectLookup

namespace Value

/-! ## Values that can be written -/

/-- An integer can be written if it is below the power of ten that has a digit too many. -/
theorem isShort_iff {n : Int} : isShort n = true ↔ n.natAbs < 10 ^ maxDigits := by
  rw [isShort, decide_eq_true_eq]
  exact Nat.length_toDigits_le_iff (by decide) (by decide)

theorem isWritable_of_mem {es : List (Value × Value)} (h : entriesAreWritable es = true)
    {e : Value × Value} (he : e ∈ es) : e.2.isWritable = true := by
  induction es with
  | nil => cases he
  | cons d es ih =>
      obtain ⟨⟨_, hd⟩, hes⟩ : (d.1.isWritable = true ∧ d.2.isWritable = true) ∧
          entriesAreWritable es = true := by
        simpa only [entriesAreWritable, Bool.and_eq_true] using h
      rcases List.mem_cons.1 he with rfl | he
      · exact hd
      · exact ih hes he

/-! ## Values that count as texts -/

/-- A text counts as itself, bytes as the text that they are the encoding of, and a number as its
written form, if it can be written. Truth values are no numbers here, and nothing else counts as a
text. -/
inductive Spells : Value → String → Prop where
  | text (t : String) : Spells (.text t) t
  | bytes (t : String) : Spells (.bytes t.toUTF8.data.toList) t
  | int {n : Int} (h : isShort n = true) : Spells (.int n) (toString n)
  | float (x : Decimal.Binary64) : Spells (.float x) x.text

/-- Bytes are decoded to the one text that they are the encoding of. -/
theorem fromUTF8?_eq_some {bs : List UInt8} {t : String} :
    String.fromUTF8? ⟨bs.toArray⟩ = some t ↔ bs = t.toUTF8.data.toList := by
  unfold String.fromUTF8?
  constructor
  · intro h
    split at h
    · cases h
      rfl
    · cases h
  · rintro rfl
    exact dif_pos t.isValidUTF8

theorem text?_eq_some {v : Value} {t : String} :
    Answer.text? v = .ok (some t) ↔ v.Spells t := by
  constructor
  · intro h
    cases v with
    | text s =>
        cases h
        exact .text t
    | bytes bs =>
        obtain rfl := fromUTF8?_eq_some.1 (Except.ok.inj h)
        exact .bytes t
    | int n =>
        simp only [Answer.text?] at h
        split at h <;> cases h
        exact .int ‹_›
    | float x =>
        cases h
        exact .float x
    | null | bool | list | tuple | dict | mapping => cases h
  · intro h
    cases h with
    | text | float => rfl
    | bytes => exact congrArg Except.ok (fromUTF8?_eq_some.2 rfl)
    | int h => exact if_pos h

theorem of_text?_eq_error {v : Value} {p : Answer.Problem} (h : Answer.text? v = .error p) :
    p = .overlong ∧ v.isWritable = false := by
  cases v with
  | int n =>
      simp only [Answer.text?] at h
      split at h <;> cases h
      exact ⟨rfl, Bool.eq_false_iff.2 ‹_›⟩
  | text | bytes | float | null | bool | list | tuple | dict | mapping => cases h

/-! ## Entries under distinct keys -/

/-- No two of the entries have equal keys. -/
def DistinctKeys (es : List (Value × Value)) : Prop :=
  es.Pairwise fun a b ↦ a.1.sameKey b.1 = false

instance (es : List (Value × Value)) : Decidable (DistinctKeys es) :=
  inferInstanceAs (Decidable (es.Pairwise _))

theorem mem_put {k v : Value} {es : List (Value × Value)} {e : Value × Value}
    (h : e ∈ put k v es) : (∃ w, (e.1, w) ∈ es) ∨ e = (k, v) := by
  induction es with
  | nil => exact .inr (List.mem_singleton.1 h)
  | cons d es ih =>
      rw [put] at h
      split at h
      · rcases List.mem_cons.1 h with rfl | h
        · exact .inl ⟨d.2, List.mem_cons_self⟩
        · exact .inl ⟨e.2, List.mem_cons_of_mem _ h⟩
      · rcases List.mem_cons.1 h with rfl | h
        · exact .inl ⟨e.2, List.mem_cons_self⟩
        · exact (ih h).imp_left fun ⟨w, hw⟩ ↦ ⟨w, List.mem_cons_of_mem _ hw⟩

theorem distinctKeys_put {es : List (Value × Value)} (h : DistinctKeys es) (k v : Value) :
    DistinctKeys (put k v es) := by
  induction es with
  | nil => exact List.pairwise_singleton _ _
  | cons d es ih =>
      obtain ⟨hd, hes⟩ := List.pairwise_cons.1 h
      rw [put]
      split
      · exact List.pairwise_cons.2 ⟨hd, hes⟩
      · rename_i hk
        refine List.pairwise_cons.2 ⟨?_, ih hes⟩
        intro e he
        rcases mem_put he with ⟨w, hw⟩ | rfl
        · exact hd (e.1, w) hw
        · exact Bool.eq_false_iff.2 hk

/-- Entries that were put in one after the other have distinct keys. -/
theorem distinctKeys_entriesOf (pairs : List (Value × Value)) :
    DistinctKeys (entriesOf pairs) := by
  have hput (es : List (Value × Value)) (h : DistinctKeys es) :
      DistinctKeys (pairs.foldl (fun es p ↦ put p.1 p.2 es) es) := by
    induction pairs generalizing es with
    | nil => exact h
    | cons p pairs ih => exact ih _ (distinctKeys_put h p.1 p.2)
  exact hput [] List.Pairwise.nil

/-- Under distinct keys, the value of a name is the one that is listed with it. -/
theorem field?_eq_some {name : String} {es : List (Value × Value)} (h : DistinctKeys es)
    {v : Value} : field? name es = some v ↔ (.text name, v) ∈ es := by
  induction es with
  | nil => simp [field?]
  | cons e es ih =>
      obtain ⟨he, hes⟩ := List.pairwise_cons.1 h
      obtain ⟨k, w⟩ := e
      by_cases hk : k = .text name
      · subst hk
        have hfirst : field? name ((.text name, w) :: es) = some w := by simp [field?]
        have hrest : (.text name, v) ∉ es := by
          intro hv
          have hne := he _ hv
          simp [sameKey] at hne
        rw [hfirst, List.mem_cons, Option.some_inj]
        constructor
        · rintro rfl
          exact .inl rfl
        · rintro (hv | hv)
          · exact (Prod.mk.inj hv).2.symm
          · exact absurd hv hrest
      · have hfirst : field? name ((k, w) :: es) = field? name es := by
          cases k <;> simp_all [field?]
        have hne : (.text name, v) ≠ (k, w) := fun heq ↦ hk (Prod.mk.inj heq).1.symm
        rw [hfirst, ih hes, List.mem_cons, or_iff_right hne]

theorem mem_of_field?_eq_some {name : String} {es : List (Value × Value)} {v : Value}
    (h : field? name es = some v) : ∃ k, (k, v) ∈ es := by
  obtain ⟨e, he, rfl⟩ := Option.map_eq_some_iff.1 h
  exact ⟨e.1, List.mem_of_find?_eq_some he⟩

/-! ## Mappings -/

/-- The value is a mapping with the given entries, whether it can be changed or not. -/
inductive HasEntries : Value → List (Value × Value) → Prop where
  | dict (es : List (Value × Value)) : HasEntries (.dict es) es
  | mapping (es : List (Value × Value)) : HasEntries (.mapping es) es

theorem HasEntries.isWritable_eq {v : Value} {es : List (Value × Value)} (h : v.HasEntries es) :
    v.isWritable = entriesAreWritable es := by
  cases h <;> rfl

/-- If the value is a mapping, no two of its keys are equal. -/
def IsProper (v : Value) : Prop := ∀ es, v.HasEntries es → DistinctKeys es

/-- The entries have a text under the name, and it is not empty. -/
def HasText (name : String) (es : List (Value × Value)) (t : String) : Prop :=
  t ≠ "" ∧ ∃ v, (.text name, v) ∈ es ∧ v.Spells t

/-- The entry is one of the two that make up a location. -/
def Places (e : Value × Value) : Bool := e.1.sameKey (.text "bucket") || e.1.sameKey (.text "key")

/-- What a value of one of the shapes that are of use stands for. -/
inductive Means : Value → Answer → Prop where
  | absent : Means .null .absent
  | key {k : String} (hk : k ≠ "") : Means (.text k) (.key k)
  | location {v : Value} {es : List (Value × Value)} {l : Location} (hv : v.HasEntries es)
      (hbucket : HasText "bucket" es l.bucket) (hkey : HasText "key" es l.key) :
      Means v (.location l)

/-- The value is a mapping that is of no use, and it holds an integer that cannot be written. -/
structure IsOverlong (v : Value) : Prop where
  mapping : ∃ es, v.HasEntries es
  meaningless : ∀ a, ¬ v.Means a
  unwritable : v.isWritable = false

end Value

namespace Answer

open Value

/-! ## Reading by shape -/

theorem field?_eq_some {name t : String} {es : List (Value × Value)} (h : DistinctKeys es) :
    field? name es = .ok (some t) ↔ HasText name es t := by
  have hmem (v : Value) : (.text name, v) ∈ es ↔ Value.field? name es = some v :=
    (Value.field?_eq_some h).symm
  simp only [HasText, hmem, ← text?_eq_some]
  rcases hf : Value.field? name es with _ | v
  · simp [field?, hf]
  · rcases hv : text? v with p | x <;> simp [field?, hf, hv, Except.map, given?_eq_some, and_comm]

theorem of_field?_eq_error {name : String} {es : List (Value × Value)} {p : Problem}
    (h : field? name es = .error p) : p = .overlong ∧ entriesAreWritable es = false := by
  rcases hf : Value.field? name es with _ | v <;> simp only [field?, hf] at h
  · cases h
  · rcases hv : text? v with q | x <;> rw [hv] at h <;> cases h
    obtain ⟨rfl, hwritable⟩ := of_text?_eq_error hv
    obtain ⟨k, hmem⟩ := mem_of_field?_eq_some hf
    refine ⟨rfl, Bool.eq_false_iff.2 fun hes ↦ ?_⟩
    rw [isWritable_of_mem hes hmem] at hwritable
    cases hwritable

theorem location?_eq_some {es : List (Value × Value)} (h : DistinctKeys es) {l : Location} :
    location? es = .ok (some l) ↔ HasText "bucket" es l.bucket ∧ HasText "key" es l.key := by
  obtain ⟨b, k⟩ := l
  rw [← field?_eq_some h, ← field?_eq_some h, location?]
  rcases field? "bucket" es with p | _ | b' <;> rcases field? "key" es with q | _ | k' <;>
    simp [bind, pure, Except.bind, Except.pure]

/-- Whether a mapping gives a location or not, reading it comes to the same in both kinds. -/
theorem ofValue_cases {v : Value} {es : List (Value × Value)} (h : v.HasEntries es) :
    (∃ l, location? es = .ok (some l) ∧ ofValue v = .ok (.location l)) ∨
    (∀ l, location? es ≠ .ok (some l)) ∧
      ofValue v = .error (if v.isWritable then .unusable v else .overlong) := by
  rcases hl : location? es with p | _ | l
  · -- One of the two fields is an integer that cannot be written.
    have hfield : p = .overlong ∧ entriesAreWritable es = false := by
      rw [location?] at hl
      rcases hb : field? "bucket" es with q | b
      · rw [hb] at hl
        cases hl
        exact of_field?_eq_error hb
      · rcases hk : field? "key" es with q | k <;> rw [hb, hk] at hl <;> cases hl
        exact of_field?_eq_error hk
    obtain ⟨rfl, hes⟩ := hfield
    refine .inr ⟨nofun, ?_⟩
    rw [h.isWritable_eq, hes]
    cases h <;> simp only [ofValue, hl] <;> rfl
  · refine .inr ⟨nofun, ?_⟩
    cases h <;> simp only [ofValue, hl] <;> split <;> rfl
  · refine .inl ⟨l, rfl, ?_⟩
    cases h <;> simp only [ofValue, hl]

/-- The reader goes by what a value means. -/
theorem ofValue_eq_ok {v : Value} (hv : v.IsProper) {a : Answer} :
    ofValue v = .ok a ↔ v.Means a := by
  constructor
  · intro h
    -- Both kinds of mapping are read in the same way.
    have hmapping {es : List (Value × Value)} (hes : v.HasEntries es) : v.Means a := by
      rcases ofValue_cases hes with ⟨l, hl, hv'⟩ | ⟨_, hv'⟩ <;> rw [hv'] at h <;> cases h
      obtain ⟨hbucket, hkey⟩ := (location?_eq_some (hv es hes)).1 hl
      exact .location hes hbucket hkey
    cases v with
    | null =>
        cases h
        exact .absent
    | text s =>
        simp only [ofValue] at h
        split at h <;> cases h
        exact .key ‹_›
    | dict es => exact hmapping (.dict es)
    | mapping es => exact hmapping (.mapping es)
    | bool | int | float | bytes | list | tuple => cases h
  · intro h
    cases h with
    | absent => rfl
    | key hk => exact if_neg hk
    | location hes hbucket hkey =>
        have hl := (location?_eq_some (hv _ hes)).2 ⟨hbucket, hkey⟩
        rcases ofValue_cases hes with ⟨l', hl', h⟩ | ⟨hnone, _⟩
        · rw [hl] at hl'
          cases hl'
          exact h
        · exact absurd hl (hnone _)

/-- A mapping that gives no location cannot be read if it cannot be written. -/
theorem isOverlong_iff {v : Value} {es : List (Value × Value)} (hv : v.IsProper)
    (hes : v.HasEntries es) (hnone : ∀ l, location? es ≠ .ok (some l)) :
    v.IsOverlong ↔ v.isWritable = false := by
  refine ⟨fun h ↦ h.unwritable, fun h ↦ ⟨⟨es, hes⟩, fun a ha ↦ ?_, h⟩⟩
  rcases ofValue_cases hes with ⟨l, hl, _⟩ | ⟨_, herror⟩
  · exact hnone l hl
  · rw [(ofValue_eq_ok hv).2 ha] at herror
    cases herror

/-! ## Refusals -/

/-- The failure for an answer that is of no use. A mapping is refused because its fields did not
pass their check, all else without a further cause. -/
structure IsRefusalOf (e : Failure) (v : Value) : Prop where
  fault : ∃ text, e.fault = .ofKind .invalidDelegateResult text
  causes : ((∃ es, v.HasEntries es) ∧ e.causes.map Fault.name = ["ValidationError"]) ∨
    (∀ es, ¬ v.HasEntries es) ∧ e.causes = []

/-- Reading fails for want of a way to write an integer, or with a refusal. -/
theorem ofValue_error_cases {v : Value} {p : Problem} (hv : v.IsProper) (h : ofValue v = .error p)
    (identifier : String) :
    (p = .overlong ∧ v.IsOverlong) ∨ (IsRefusalOf (p.failure identifier) v ∧ ¬ v.IsOverlong) := by
  have hmapping {es : List (Value × Value)} (hes : v.HasEntries es) :
      (p = .overlong ∧ v.IsOverlong) ∨
        (IsRefusalOf (p.failure identifier) v ∧ ¬ v.IsOverlong) := by
    rcases ofValue_cases hes with ⟨l, _, hread⟩ | ⟨hnone, hread⟩ <;> rw [hread] at h
    · cases h
    · rw [isOverlong_iff hv hes hnone]
      rcases hwritable : v.isWritable with _ | _ <;> rw [hwritable] at h <;> cases h
      · exact .inl ⟨rfl, rfl⟩
      · exact .inr ⟨⟨⟨_, rfl⟩, .inl ⟨⟨es, hes⟩, rfl⟩⟩, nofun⟩
  have hother (hnone : ∀ es, ¬ v.HasEntries es) : ¬ v.IsOverlong := fun hlong ↦
    hlong.mapping.elim hnone
  cases v with
  | dict es => exact hmapping (.dict es)
  | mapping es => exact hmapping (.mapping es)
  | null => cases h
  | text s =>
      simp only [ofValue] at h
      split at h <;> cases h
      exact .inr ⟨⟨⟨_, rfl⟩, .inr ⟨nofun, rfl⟩⟩, hother nofun⟩
  | bool | int | float | bytes | list | tuple =>
      cases h
      exact .inr ⟨⟨⟨_, rfl⟩, .inr ⟨nofun, rfl⟩⟩, hother nofun⟩

theorem ofValue_of_isOverlong {v : Value} (hv : v.IsProper) (h : v.IsOverlong) :
    ofValue v = .error .overlong := by
  rcases hread : ofValue v with p | a
  · rcases ofValue_error_cases hv hread "" with ⟨rfl, _⟩ | ⟨_, hnot⟩
    · rfl
    · exact absurd h hnot
  · exact absurd ((ofValue_eq_ok hv).1 hread) (h.meaningless a)

/-- A refusal is of the taxonomy, and so it is not that an integer cannot be written. -/
theorem IsRefusalOf.ne_overlong {e : Failure} {v : Value} (h : IsRefusalOf e v) :
    e ≠ .overlong := by
  rintro rfl
  obtain ⟨text, hfault⟩ := h.fault
  cases congrArg Fault.kind? hfault

/-! ## Entries that do not count -/

theorem mem_iff_of_places {es es' : List (Value × Value)}
    (h : (es.filter Places).Perm (es'.filter Places)) {name : String}
    (hname : name = "bucket" ∨ name = "key") (v : Value) :
    (.text name, v) ∈ es ↔ (.text name, v) ∈ es' := by
  have hplaces : Places (.text name, v) = true := by
    rcases hname with rfl | rfl <;> rfl
  have hmem := h.mem_iff (a := (.text name, v))
  simpa only [List.mem_filter, hplaces, and_true] using hmem

/-- Other entries than the two of a location do not matter, and the order of these two does not
either. -/
theorem location?_eq_some_of_places {es es' : List (Value × Value)} (h : DistinctKeys es)
    (h' : DistinctKeys es') (hperm : (es.filter Places).Perm (es'.filter Places)) (l : Location) :
    location? es = .ok (some l) ↔ location? es' = .ok (some l) := by
  have hfield {name : String} (hname : name = "bucket" ∨ name = "key") (t : String) :
      HasText name es t ↔ HasText name es' t := by
    simp only [HasText, mem_iff_of_places hperm hname]
  rw [location?_eq_some h, location?_eq_some h', hfield (.inl rfl), hfield (.inr rfl)]

variable {σ : Type}

/-- What reading comes to does not depend on the session. -/
theorem fst_read (v : Value) (identifier : String) (s : Session σ) :
    (read v identifier s).1 = (ofValue v).mapError (·.failure identifier) := by
  rcases h : ofValue v with p | a <;> simp only [read, h] <;> rfl

/-- A bucket that is a number and a key in bytes, with an entry between them whose key is the truth
value that counts as one. -/
def numbered : Value :=
  .dict (entriesOf
    [(.text "bucket", .int 7), (.bool true, .null), (.text "key", .bytes [0xC3, 0xA9])])

/-- The same location, the other way round and without the entry between. -/
def turned : Value := .mapping [(.text "key", .bytes [0xC3, 0xA9]), (.text "bucket", .int 7)]

/-- A truth value where a bucket should be. -/
def unnamed : Value := .dict [(.text "bucket", .bool true), (.text "key", .text "k")]

/-- A note of one digit more than can be written, without a bucket and a key. -/
def annotated : Value := .dict [(.text "note", .int (10 ^ maxDigits))]

theorem hasEntries_annotated :
    annotated.HasEntries [(.text "note", .int (10 ^ maxDigits))] := .dict _

theorem isProper_annotated : annotated.IsProper := by
  rintro _ ⟨⟩
  exact List.pairwise_singleton _ _

theorem isOverlong_annotated : annotated.IsOverlong := by
  refine (isOverlong_iff isProper_annotated hasEntries_annotated nofun).2 ?_
  refine Bool.eq_false_iff.2 fun h ↦ ?_
  rw [hasEntries_annotated.isWritable_eq] at h
  have hlt := isShort_iff.1 (isWritable_of_mem h (.head _))
  have hten : (10 : Int).natAbs = 10 := rfl
  rw [Int.natAbs_pow, hten] at hlt
  exact Nat.lt_irrefl _ hlt

end Answer

end ObjectLookup
