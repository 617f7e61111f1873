import Mathlib.Data.List.Induction
import Mathlib.Data.List.Nodup
import ObjectLookup.Entries

/-! # Laws of entries in order

Entries that are made of pairs have the names of the pairs, each where it came first
(`names_ofPairs`), and under a name the value that came last (`get?_ofPairs`). Updating goes pair by
pair, whether a name comes once or again and again (`update_ofPairs`): so pairs can be put into
entries in portions (`ofPairs_append`). Entries in which every name stands once are those of their
own list (`ofPairs_toList`).
-/

namespace ObjectLookup.Entries

variable {α : Type} {j k : String} {v w : α} {es : Entries α} {ps : List (String × α)}

/-! ## Putting one value after another -/

/-- A value under a new name comes last. -/
theorem put_of_notMem (h : k ∉ es.names) (v : α) : es.put k v = ⟨es.toList ++ [(k, v)]⟩ := by
  obtain ⟨es⟩ := es
  refine congrArg Entries.mk ?_
  induction es with
  | nil => rfl
  | cons e es ih =>
      obtain ⟨hne, hnotMem⟩ := not_or.1 (mt List.mem_cons.2 h)
      rw [putList, if_neg (Ne.symm hne), ih hnotMem]
      rfl

/-- Of two values under one name the second stays. -/
theorem put_put_self (es : Entries α) (k : String) (w v : α) :
    (es.put k w).put k v = es.put k v := by
  obtain ⟨es⟩ := es
  refine congrArg Entries.mk ?_
  simp only [toList_put]
  induction es with
  | nil => simp [putList]
  | cons e es ih => by_cases h : e.1 = k <;> simp [putList, h, ih]

/-- A value under a name that is there can be put before or after one under another name. -/
theorem put_put_comm (hk : k ∈ es.names) (hne : j ≠ k) (w v : α) :
    (es.put j w).put k v = (es.put k v).put j w := by
  obtain ⟨es⟩ := es
  refine congrArg Entries.mk ?_
  simp only [toList_put]
  induction es with
  | nil => cases hk
  | cons e es ih =>
      by_cases hek : e.1 = k
      · simp [putList, hek, Ne.symm hne]
      · have hrest : k ∈ (⟨es⟩ : Entries α).names := by
          rcases List.mem_cons.1 hk with rfl | hrest
          · exact absurd rfl hek
          · exact hrest
        by_cases hej : e.1 = j
        · simp [putList, hej, hne]
        · simp [putList, hek, hej, ih hrest]

theorem mem_names_put (h : k ∈ es.names) (j : String) (w : α) : k ∈ (es.put j w).names := by
  rw [names_put]
  split
  · exact h
  · exact List.mem_append_left _ h

theorem self_mem_names_put (es : Entries α) (k : String) (v : α) : k ∈ (es.put k v).names := by
  rw [names_put]
  split
  · assumption
  · exact List.mem_append_right _ (List.mem_singleton_self k)

theorem nodup_names_put (h : es.names.Nodup) (k : String) (v : α) : (es.put k v).names.Nodup := by
  rw [names_put]
  split
  · exact h
  · rename_i hk
    exact List.nodup_append.2 ⟨h, List.nodup_singleton k, by
      rintro a ha b hb rfl
      exact hk (List.mem_singleton.1 hb ▸ ha)⟩

/-! ## Updating -/

@[simp] theorem update_cons (es : Entries α) (e : String × α) (ps : List (String × α)) :
    es.update ⟨e :: ps⟩ = (es.put e.1 e.2).update ⟨ps⟩ := rfl

/-- A value under a name that is there can be put before or after an update under other names. -/
theorem put_update (hk : k ∈ es.names) (hps : k ∉ ps.map Prod.fst) (v : α) :
    (es.update ⟨ps⟩).put k v = (es.put k v).update ⟨ps⟩ := by
  induction ps generalizing es with
  | nil => rfl
  | cons e ps ih =>
      obtain ⟨hne, hrest⟩ := not_or.1 (mt List.mem_cons.2 hps)
      rw [update_cons, ih (mem_names_put hk e.1 e.2) hrest, put_put_comm hk (Ne.symm hne)]
      rfl

/-- A value can be put into the entries of an update, or after the update. -/
theorem update_put {new : Entries α} (h : new.names.Nodup) (es : Entries α) (k : String) (v : α) :
    es.update (new.put k v) = (es.update new).put k v := by
  obtain ⟨ps⟩ := new
  change es.update ⟨putList k v ps⟩ = _
  induction ps generalizing es with
  | nil => rfl
  | cons e ps ih =>
      obtain ⟨hnotMem, hrest⟩ := List.nodup_cons.1 h
      by_cases hk : e.1 = k
      · subst hk
        -- The name is in the first entry, and in none of the others that are put after it.
        have hthere : e.1 ∈ (es.put e.1 e.2).names := self_mem_names_put es e.1 e.2
        rw [putList, if_pos rfl, update_cons, update_cons, put_update hthere hnotMem, put_put_self]
      · rw [putList, if_neg hk, update_cons, update_cons, ih (es.put e.1 e.2) hrest]

/-! ## Entries of pairs -/

theorem ofPairs_concat (ps : List (String × α)) (e : String × α) :
    ofPairs (ps ++ [e]) = (ofPairs ps).put e.1 e.2 := by
  simp [ofPairs, update]

theorem nodup_names_ofPairs (ps : List (String × α)) : (ofPairs ps).names.Nodup := by
  induction ps using List.reverseRecOn with
  | nil => exact List.nodup_nil
  | append_singleton ps e ih =>
      rw [ofPairs_concat]
      exact nodup_names_put ih e.1 e.2

/-- The names of pairs stand in the order in which they came first. -/
theorem names_ofPairs (ps : List (String × α)) :
    (ofPairs ps).names = (ps.map Prod.fst).eraseDups := by
  induction ps using List.reverseRecOn with
  | nil => rfl
  | append_singleton ps e ih =>
      have hmem : e.1 ∈ (ps.map Prod.fst).eraseDups ↔ e.1 ∈ ps.map Prod.fst := List.mem_eraseDups
      rw [ofPairs_concat, names_put, ih, List.map_append, List.eraseDups_append]
      by_cases h : e.1 ∈ ps.map Prod.fst
      · have hnone : ([e].map Prod.fst).removeAll (ps.map Prod.fst) = [] := by
          simpa [List.removeAll] using h
        rw [if_pos (hmem.2 h), hnone]
        exact (List.append_nil _).symm
      · have hone : ([e].map Prod.fst).removeAll (ps.map Prod.fst) = [e.1] := by
          simpa [List.removeAll] using h
        rw [if_neg (mt hmem.1 h), hone]
        rfl

/-- Under a name stands the value of the last pair of that name. -/
theorem get?_ofPairs (ps : List (String × α)) (k : String) :
    (ofPairs ps).get? k = (ps.filter (·.1 = k)).getLast?.map Prod.snd := by
  induction ps using List.reverseRecOn with
  | nil => rfl
  | append_singleton ps e ih =>
      rw [ofPairs_concat, get?_put, ih, List.filter_append, List.getLast?_append]
      by_cases h : k = e.1
      · simp [h]
      · simp [h, Ne.symm h]

/-- Updating by the entries of pairs is updating by one pair after the other. -/
theorem update_ofPairs (es : Entries α) (ps : List (String × α)) :
    es.update (ofPairs ps) = es.update ⟨ps⟩ := by
  induction ps using List.reverseRecOn with
  | nil => rfl
  | append_singleton ps e ih =>
      rw [ofPairs_concat, update_put (nodup_names_ofPairs ps), ih]
      simp [update]

theorem ofPairs_append (ps qs : List (String × α)) :
    ofPairs (ps ++ qs) = (ofPairs ps).update (ofPairs qs) := by
  rw [update_ofPairs]
  simp [ofPairs, update]

/-- Entries in which every name stands once are those of their list. -/
theorem ofPairs_toList (h : es.names.Nodup) : ofPairs es.toList = es := by
  obtain ⟨ps⟩ := es
  induction ps using List.reverseRecOn with
  | nil => rfl
  | append_singleton ps e ih =>
      have hnames : (⟨ps ++ [e]⟩ : Entries α).names = (⟨ps⟩ : Entries α).names ++ [e.1] := by
        simp [names]
      rw [hnames, List.nodup_append] at h
      obtain ⟨hps, -, hapart⟩ := h
      have hnotMem : e.1 ∉ (⟨ps⟩ : Entries α).names := fun hmem ↦
        hapart e.1 hmem e.1 (List.mem_singleton_self _) rfl
      rw [ofPairs_concat, ih hps, put_of_notMem hnotMem]

end ObjectLookup.Entries
