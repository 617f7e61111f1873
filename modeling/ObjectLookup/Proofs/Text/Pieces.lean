import ObjectLookup.Text.Split

/-! # Laws of cutting into pieces

The pieces of a text have no separator in them (`notMem_of_mem_pieces`), and put together again with
separators between them they are the text (`intercalate_pieces`). They are the only texts of that
kind (`pieces_intercalate`).
-/

namespace ObjectLookup.Text

variable {sep : Char} {a b p s : List Char} {ps : List (List Char)}

theorem pieces_eq_splitOn (sep : Char) (s : List Char) : pieces sep s = s.splitOn sep := by
  induction s with
  | nil => rfl
  | cons c s ih =>
      rw [List.splitOn, List.splitOnP_cons_eq_if_modifyHead, ← List.splitOn, ← ih, pieces]
      by_cases h : c = sep
      · rw [if_pos h, if_pos (beq_iff_eq.2 h)]
      · rw [if_neg h, if_neg (mt beq_iff_eq.1 h)]
        rcases hs : pieces sep s with _ | ⟨p, ps⟩
        · exact absurd (ih.symm.trans hs) (List.splitOn_ne_nil sep s)
        · rfl

theorem pieces_ne_nil (sep : Char) (s : List Char) : pieces sep s ≠ [] := by
  rw [pieces_eq_splitOn]
  exact List.splitOn_ne_nil sep s

theorem intercalate_pieces (sep : Char) (s : List Char) : [sep].intercalate (pieces sep s) = s := by
  rw [pieces_eq_splitOn, List.intercalate_splitOn]

theorem pieces_intercalate (h : ∀ p ∈ ps, sep ∉ p) (hne : ps ≠ []) :
    pieces sep ([sep].intercalate ps) = ps := by
  rw [pieces_eq_splitOn, List.splitOn_intercalate sep h hne]

theorem pieces_append_cons (a b : List Char) :
    pieces sep (a ++ sep :: b) = pieces sep a ++ pieces sep b := by
  simp only [pieces_eq_splitOn, List.splitOn]
  exact List.splitOnP_append_cons a b (beq_self_eq_true sep)

theorem pieces_of_notMem (h : sep ∉ s) : pieces sep s = [s] := by
  rw [pieces_eq_splitOn]
  refine List.splitOnP_eq_singleton fun c hc ↦ ?_
  rw [beq_eq_false_iff_ne]
  rintro rfl
  exact h hc

theorem notMem_of_mem_pieces (h : p ∈ pieces sep s) : sep ∉ p := by
  induction s generalizing p with
  | nil =>
      rw [List.mem_singleton.1 h]
      exact List.not_mem_nil
  | cons c s ih =>
      rw [pieces] at h
      split at h
      · rcases List.mem_cons.1 h with rfl | h
        · exact List.not_mem_nil
        · exact ih h
      · rename_i hc
        rcases hs : pieces sep s with _ | ⟨q, qs⟩
        · exact absurd hs (pieces_ne_nil sep s)
        · rw [hs] at h ih
          rcases List.mem_cons.1 h with rfl | h
          · intro hmem
            rcases List.mem_cons.1 hmem with hc' | hmem
            · exact hc hc'.symm
            · exact ih (.head _) hmem
          · exact ih (.tail _ h)

theorem subset_intercalate (h : p ∈ ps) : p ⊆ [sep].intercalate ps := by
  induction ps with
  | nil => cases h
  | cons q qs ih =>
      by_cases hqs : qs = []
      · subst hqs
        rw [List.mem_singleton.1 h, List.intercalate_singleton]
        exact List.Subset.refl q
      · rw [List.intercalate_cons_of_ne_nil hqs]
        rcases List.mem_cons.1 h with rfl | h
        · exact List.subset_append_of_subset_left _ (List.subset_append_left p _)
        · exact List.subset_append_of_subset_right _ (ih h)

theorem subset_of_mem_pieces (h : p ∈ pieces sep s) : p ⊆ s := by
  have hsubset : p ⊆ [sep].intercalate (pieces sep s) := subset_intercalate h
  rwa [intercalate_pieces] at hsubset

end ObjectLookup.Text
