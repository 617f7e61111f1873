import ObjectLookup.CommandLine.ContextEntries
import ObjectLookup.Proofs.Entries
import ObjectLookup.Proofs.Text.Trimming

/-! # Context entries as they are written

Of a text that is an entry (`IsEntry`) the key stands before the first equals sign, with blanks
around it that do not count, and the value behind it (`entry_of_isEntry`). Texts that are all entries
give the entries of their pairs, and the first that is none is the failure of them all
(`contextEntries_eq_ok_iff`, `contextEntries_eq_error_iff`). An entry that is written from a key and
a value is an entry (`isEntry_writtenEntry`), and all entries can be written down and read back
(`contextEntries_writtenEntry`).
-/

namespace ObjectLookup.CommandLine

variable {s : String} {xs : List String} {es : Entries String}

/-! ## The parts of an entry -/

/-- There is an equals sign, and what stands before the first one is not blank. -/
structure IsEntry (s : String) : Prop where
  sign : '=' ∈ s.toList
  key : ∃ c ∈ Text.upTo '=' s.toList, Text.isBlank c = false

/-- What stands before the first equals sign, without the blanks around it. -/
def keyOf (s : String) : String := String.ofList (Text.trimChars (Text.upTo '=' s.toList))

/-- All that follows the first equals sign. -/
def valueOf (s : String) : String := String.ofList (s.toList.dropWhile (· ≠ '=')).tail

def pairOf (s : String) : String × String := (keyOf s, valueOf s)

@[simp] theorem fst_pairOf (s : String) : (pairOf s).1 = keyOf s := rfl

/-- A text that can be read back as a key. -/
structure IsKey (k : String) : Prop where
  ne_empty : k ≠ ""
  sign : '=' ∉ k.toList
  trimmed : Text.IsTrimmed k.toList

/-- The entry of a key and a value. -/
def writtenEntry (e : String × String) : String := e.1 ++ "=" ++ e.2

/-- Where a text is cut at its first equals sign. -/
theorem parts_of_cut {a b : List Char} (h : s.toList = a ++ '=' :: b) (ha : '=' ∉ a) :
    Text.upTo '=' s.toList = a ∧ valueOf s = String.ofList b := by
  have hbefore : ∀ c ∈ a, decide (c ≠ '=') = true := by
    intro c hc
    refine decide_eq_true ?_
    rintro rfl
    exact ha hc
  have hbehind : Text.Parts (· ≠ '=') ('=' :: b) := by
    rintro _ ⟨⟩
    rfl
  constructor
  · rw [Text.upTo, h]
    exact Text.takeWhile_append_of_parts hbefore hbehind
  · rw [valueOf, h, Text.dropWhile_append_of_parts hbefore hbehind, List.tail_cons]

/-- An entry is its key between blanks, an equals sign, and its value. -/
theorem exists_append_of_isEntry (h : IsEntry s) :
    ∃ a b, s.toList = a ++ (keyOf s).toList ++ b ++ '=' :: (valueOf s).toList ∧
      (∀ c ∈ a, Text.isBlank c = true) ∧ ∀ c ∈ b, Text.isBlank c = true := by
  rcases hcut : Text.cutFirst? '=' s.toList with _ | ⟨left, right⟩
  · exact absurd h.sign (Text.cutFirst?_eq_none.1 hcut)
  · obtain ⟨hs, hleft⟩ := Text.cutFirst?_eq_some.1 hcut
    obtain ⟨hupTo, hvalue⟩ := parts_of_cut hs hleft
    obtain ⟨a, b, htrim, ha, hb⟩ := Text.exists_append_trimChars left
    refine ⟨a, b, ?_, ha, hb⟩
    rw [keyOf, hupTo, hvalue, String.toList_ofList, String.toList_ofList, ← htrim, hs]

/-- An entry is read as its key and its value. -/
theorem entry_of_isEntry (h : IsEntry s) : entry s = .ok (pairOf s) := by
  rcases hcut : Text.cutFirst? '=' s.toList with _ | ⟨a, b⟩
  · exact absurd h.sign (Text.cutFirst?_eq_none.1 hcut)
  · obtain ⟨hs, ha⟩ := Text.cutFirst?_eq_some.1 hcut
    obtain ⟨hupTo, hvalue⟩ := parts_of_cut hs ha
    have hkey : Text.trimChars a ≠ [] := by
      rw [← hupTo]
      exact Text.trimChars_ne_nil.2 h.key
    simp only [entry, entry?, hcut, if_neg hkey]
    rw [pairOf, keyOf, hupTo, hvalue]

theorem entry_of_not_isEntry (h : ¬ IsEntry s) : entry s = .error (entryFailure s) := by
  rcases hcut : Text.cutFirst? '=' s.toList with _ | ⟨a, b⟩
  · simp only [entry, entry?, hcut]
  · obtain ⟨hs, ha⟩ := Text.cutFirst?_eq_some.1 hcut
    obtain ⟨hupTo, -⟩ := parts_of_cut hs ha
    have hkey : Text.trimChars a = [] := by
      rw [← hupTo]
      by_contra hne
      exact h ⟨by simp [hs], Text.trimChars_ne_nil.1 hne⟩
    simp only [entry, entry?, hcut, if_pos hkey]

/-- The key of an entry is one. -/
theorem isKey_keyOf (h : IsEntry s) : IsKey (keyOf s) where
  ne_empty := by
    intro hempty
    have hnil : Text.trimChars (Text.upTo '=' s.toList) = [] :=
      String.ofList_injective (hempty.trans String.ofList_nil.symm)
    exact Text.trimChars_ne_nil.2 h.key hnil
  sign := by
    rw [keyOf, String.toList_ofList]
    intro hmem
    simpa using Text.mem_takeWhile (Text.mem_of_mem_trimChars hmem)
  trimmed := by
    rw [keyOf, String.toList_ofList]
    exact Text.isTrimmed_trimChars _

/-! ## Reading -/

/-- Texts that are all entries are read as their keys and values. -/
theorem contextEntries_of_isEntry (h : ∀ s ∈ xs, IsEntry s) :
    contextEntries xs = .ok (.ofPairs (xs.map pairOf)) := by
  have hmap : xs.mapM entry = .ok (xs.map pairOf) := by
    induction xs with
    | nil => rfl
    | cons s xs ih =>
        rw [List.mapM_cons, entry_of_isEntry (h s (.head xs)),
          ih fun t ht ↦ h t (.tail s ht)]
        rfl
  rw [contextEntries, hmap]
  rfl

/-- The first text that is no entry is what reading fails with. -/
theorem contextEntries_of_not_isEntry {before after : List String}
    (hbefore : ∀ t ∈ before, IsEntry t) (hs : ¬ IsEntry s) :
    contextEntries (before ++ s :: after) = .error (entryFailure s) := by
  have hmap : (before ++ s :: after).mapM entry = .error (entryFailure s) := by
    induction before with
    | nil =>
        rw [List.nil_append, List.mapM_cons, entry_of_not_isEntry hs]
        rfl
    | cons t before ih =>
        rw [List.cons_append, List.mapM_cons, entry_of_isEntry (hbefore t (.head before)),
          ih fun u hu ↦ hbefore u (.tail t hu)]
        rfl
  rw [contextEntries, hmap]
  rfl

/-- Texts are all entries, or one of them is the first that is none. -/
theorem forall_isEntry_or (xs : List String) :
    (∀ s ∈ xs, IsEntry s) ∨
    ∃ before s after, xs = before ++ s :: after ∧ (∀ t ∈ before, IsEntry t) ∧ ¬ IsEntry s := by
  induction xs with
  | nil => exact .inl nofun
  | cons s xs ih =>
      by_cases hs : IsEntry s
      · rcases ih with hall | ⟨before, t, after, rfl, hbefore, ht⟩
        · exact .inl (List.forall_mem_cons.2 ⟨hs, hall⟩)
        · exact .inr ⟨s :: before, t, after, rfl, List.forall_mem_cons.2 ⟨hs, hbefore⟩, ht⟩
      · exact .inr ⟨[], s, xs, rfl, nofun, hs⟩

theorem contextEntries_eq_ok_iff :
    contextEntries xs = .ok es ↔
      (∀ s ∈ xs, IsEntry s) ∧ es = .ofPairs (xs.map pairOf) := by
  constructor
  · intro h
    rcases forall_isEntry_or xs with hall | ⟨before, s, after, rfl, hbefore, hs⟩
    · rw [contextEntries_of_isEntry hall] at h
      cases h
      exact ⟨hall, rfl⟩
    · rw [contextEntries_of_not_isEntry hbefore hs] at h
      cases h
  · rintro ⟨hall, rfl⟩
    exact contextEntries_of_isEntry hall

theorem contextEntries_eq_error_iff {e : Failure} :
    contextEntries xs = .error e ↔
      ∃ before s after, xs = before ++ s :: after ∧ (∀ t ∈ before, IsEntry t) ∧ ¬ IsEntry s ∧
        e = entryFailure s := by
  constructor
  · intro h
    rcases forall_isEntry_or xs with hall | ⟨before, s, after, rfl, hbefore, hs⟩
    · rw [contextEntries_of_isEntry hall] at h
      cases h
    · rw [contextEntries_of_not_isEntry hbefore hs] at h
      cases h
      exact ⟨before, s, after, rfl, hbefore, hs, rfl⟩
  · rintro ⟨before, s, after, rfl, hbefore, hs, rfl⟩
    exact contextEntries_of_not_isEntry hbefore hs

/-! ## Writing -/

theorem toList_writtenEntry (e : String × String) :
    (writtenEntry e).toList = e.1.toList ++ '=' :: e.2.toList := by
  simp [writtenEntry]

/-- What is written with a key is an entry of that key and the value. -/
theorem isEntry_writtenEntry {e : String × String} (h : IsKey e.1) :
    IsEntry (writtenEntry e) ∧ pairOf (writtenEntry e) = e := by
  obtain ⟨hupTo, hvalue⟩ := parts_of_cut (toList_writtenEntry e) h.sign
  have htrim : Text.trimChars e.1.toList = e.1.toList := Text.trimChars_of_isTrimmed h.trimmed
  refine ⟨⟨by simp [toList_writtenEntry], ?_⟩, ?_⟩
  · rw [hupTo, ← Text.trimChars_ne_nil, htrim]
    simpa using h.ne_empty
  · rw [pairOf, keyOf, hupTo, hvalue, htrim, String.ofList_toList, String.ofList_toList]

theorem contextEntries_writtenEntry (hnames : es.names.Nodup) (h : ∀ k ∈ es.names, IsKey k) :
    contextEntries (es.toList.map writtenEntry) = .ok es := by
  have hwritten (e : String × String) (he : e ∈ es.toList) :
      IsEntry (writtenEntry e) ∧ pairOf (writtenEntry e) = e :=
    isEntry_writtenEntry (h e.1 (List.mem_map_of_mem he))
  have hpairs : (es.toList.map writtenEntry).map pairOf = es.toList := by
    rw [List.map_map]
    exact (List.map_congr_left fun e he ↦ (hwritten e he).2).trans (List.map_id es.toList)
  rw [contextEntries_of_isEntry, hpairs, Entries.ofPairs_toList hnames]
  intro s hs
  obtain ⟨e, he, rfl⟩ := List.mem_map.1 hs
  exact (hwritten e he).1

/-! ## All together -/

/-- Texts are read if and only if every one of them is an entry, and the first that is none is
named otherwise. The names that are read are the keys of the texts, where they came first; under
each stands the value of the last text with that key. A key is the text between the blanks in front
of the first equals sign, and a value all that follows it. What is read from one list after another
is the update of the first by the second, and what is written down from entries is read as those
entries. -/
theorem contextEntries_by_entry (xs : List String) :
    ((∃ es, contextEntries xs = .ok es) ↔ ∀ s ∈ xs, IsEntry s) ∧
    (∀ e, contextEntries xs = .error e ↔
      ∃ before s after, xs = before ++ s :: after ∧ (∀ t ∈ before, IsEntry t) ∧ ¬ IsEntry s ∧
        e = .invalidValue ("Invalid context entry, expected KEY=VALUE: " ++ s)) ∧
    (∀ es, contextEntries xs = .ok es →
      es.names = (xs.map keyOf).eraseDups ∧ (∀ k ∈ es.names, IsKey k) ∧
      (∀ k, es.get? k = (xs.filter (keyOf · = k)).getLast?.map valueOf) ∧
      ∀ s ∈ xs, ∃ a b, s.toList = a ++ (keyOf s).toList ++ b ++ '=' :: (valueOf s).toList ∧
        (∀ c ∈ a, Text.isBlank c = true) ∧ ∀ c ∈ b, Text.isBlank c = true) ∧
    (∀ ys es new, contextEntries xs = .ok es → contextEntries ys = .ok new →
      contextEntries (xs ++ ys) = .ok (es.update new)) ∧
    ∀ es : Entries String, es.names.Nodup → (∀ k ∈ es.names, IsKey k) →
      contextEntries (es.toList.map writtenEntry) = .ok es := by
  refine ⟨?_, fun e ↦ contextEntries_eq_error_iff, ?_, ?_, fun es ↦ contextEntries_writtenEntry⟩
  · constructor
    · rintro ⟨es, h⟩
      exact (contextEntries_eq_ok_iff.1 h).1
    · intro h
      exact ⟨_, contextEntries_of_isEntry h⟩
  · intro es h
    obtain ⟨hall, rfl⟩ := contextEntries_eq_ok_iff.1 h
    have hkeys : (xs.map pairOf).map Prod.fst = xs.map keyOf := by
      simp only [List.map_map, Function.comp_def, fst_pairOf]
    have hnames : (Entries.ofPairs (xs.map pairOf)).names = (xs.map keyOf).eraseDups := by
      rw [Entries.names_ofPairs, hkeys]
    refine ⟨hnames, ?_, ?_, fun s hs ↦ exists_append_of_isEntry (hall s hs)⟩
    · intro k hk
      rw [hnames, List.mem_eraseDups] at hk
      obtain ⟨s, hs, rfl⟩ := List.mem_map.1 hk
      exact isKey_keyOf (hall s hs)
    · intro k
      have hfilter : (xs.map pairOf).filter (·.1 = k) = (xs.filter (keyOf · = k)).map pairOf := by
        rw [List.filter_map]
        refine congrArg (List.map pairOf) (List.filter_congr fun s _ ↦ ?_)
        rw [Function.comp_apply, fst_pairOf]
      rw [Entries.get?_ofPairs, hfilter, List.getLast?_map, Option.map_map]
      rfl
  · intro ys es new hxs hys
    obtain ⟨hall, rfl⟩ := contextEntries_eq_ok_iff.1 hxs
    obtain ⟨hall', rfl⟩ := contextEntries_eq_ok_iff.1 hys
    have hboth : ∀ s ∈ xs ++ ys, IsEntry s := List.forall_mem_append.2 ⟨hall, hall'⟩
    rw [contextEntries_of_isEntry hboth, List.map_append, Entries.ofPairs_append]

/-- A key twice, with other blanks around it, and an equals sign in a value. -/
def tenants : List String := [" tenant =a=b", "page= 1", "tenant\u3000= c "]

/-- The key that is there twice keeps its first place and takes its last value. -/
theorem contextEntries_by_entry_tenants :
    let es : Entries String := ⟨[("tenant", " c "), ("page", " 1")]⟩
    contextEntries tenants = .ok es ∧ es.names = (tenants.map keyOf).eraseDups ∧
      contextEntries (tenants ++ ["page=2", "=x"]) =
        .error (.invalidValue "Invalid context entry, expected KEY=VALUE: =x") ∧
      contextEntries (tenants ++ ["page=2"]) = .ok (es.update ⟨[("page", "2")]⟩) ∧
      contextEntries (es.toList.map writtenEntry) = .ok es := by
  obtain ⟨hok, -, hread, happend, hwritten⟩ := contextEntries_by_entry tenants
  have htenants : contextEntries tenants = .ok ⟨[("tenant", " c "), ("page", " 1")]⟩ := rfl
  have hall : ∀ s ∈ tenants ++ ["page=2"], IsEntry s :=
    (contextEntries_by_entry _).1.1 ⟨⟨[("tenant", " c "), ("page", "2")]⟩, rfl⟩
  have hnone : ¬ IsEntry "=x" := fun h ↦ by
    obtain ⟨c, hc, -⟩ := h.key
    cases hc
  obtain ⟨hnames, hkeys, -, -⟩ := hread _ htenants
  refine ⟨htenants, hnames, ?_, happend _ _ _ htenants rfl, hwritten _ (by decide) hkeys⟩
  exact ((contextEntries_by_entry _).2.1 _).2 ⟨_, "=x", [], rfl, hall, hnone, rfl⟩

end ObjectLookup.CommandLine
