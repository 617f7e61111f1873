import ObjectLookup.Proofs.Text.Rows
import ObjectLookup.Text.Blank

/-! # Laws of trimming

A text is trimmed if it neither begins nor ends in a blank. Trimming makes a text so
(`isTrimmed_trimChars`) and leaves one alone that is so already (`trimChars_of_isTrimmed`). Which
blanks stand around a text makes no difference (`trimChars_append`).
-/

namespace ObjectLookup.Text

variable {a b s : List Char}

/-- Neither the first nor the last character is blank. -/
structure IsTrimmed (s : List Char) : Prop where
  head : s.head?.map isBlank ≠ some true
  last : s.getLast?.map isBlank ≠ some true

theorem trimLeft_of_head (h : s.head?.map isBlank ≠ some true) : trimLeft s = s := by
  cases s with
  | nil => rfl
  | cons c s =>
      have hc : ¬ isBlank c = true := by simpa using h
      rw [trimLeft_cons, if_neg hc]

theorem trimRight_of_last (h : s.getLast?.map isBlank ≠ some true) : trimRight s = s := by
  have hreverse : trimLeft s.reverse = s.reverse := trimLeft_of_head (by rwa [List.head?_reverse])
  change (trimLeft s.reverse).reverse = s
  rw [hreverse, List.reverse_reverse]

theorem trimChars_of_isTrimmed (h : IsTrimmed s) : trimChars s = s := by
  rw [trimChars, trimLeft_of_head h.head, trimRight_of_last h.last]

theorem head?_trimLeft (s : List Char) : (trimLeft s).head?.map isBlank ≠ some true := by
  intro h
  obtain ⟨c, hc, hblank⟩ := Option.map_eq_some_iff.1 h
  have hstop := List.head?_dropWhile_not isBlank s
  rw [show (s.dropWhile isBlank).head? = some c from hc] at hstop
  rw [show isBlank c = false from hstop] at hblank
  cases hblank

theorem isTrimmed_trimChars (s : List Char) : IsTrimmed (trimChars s) where
  head := by
    -- Blanks at the end are taken off last, and that leaves the first character, unless all go.
    have hstart : trimChars s <+: trimLeft s := by
      rw [trimChars, trimRight, ← List.reverse_suffix, List.reverse_reverse]
      exact List.dropWhile_suffix isBlank
    rcases hs : trimChars s with _ | ⟨c, t⟩
    · nofun
    · obtain ⟨u, hu⟩ := hs ▸ hstart
      have hhead := head?_trimLeft s
      rw [← hu] at hhead
      exact hhead
  last := by
    have hhead := head?_trimLeft (trimLeft s).reverse
    rwa [← List.getLast?_reverse] at hhead

theorem trimLeft_append (ha : ∀ c ∈ a, isBlank c = true) : trimLeft (a ++ s) = trimLeft s :=
  List.dropWhile_append_of_pos ha

theorem trimRight_append (hb : ∀ c ∈ b, isBlank c = true) : trimRight (s ++ b) = trimRight s := by
  have hreverse : ∀ c ∈ b.reverse, isBlank c = true := fun c hc ↦ hb c (List.mem_reverse.1 hc)
  rw [trimRight, List.reverse_append, List.dropWhile_append_of_pos hreverse, trimRight]

/-- What trimming takes off a text are the blanks around what it leaves. -/
theorem exists_append_trimChars (s : List Char) : ∃ a b, s = a ++ trimChars s ++ b ∧
    (∀ c ∈ a, isBlank c = true) ∧ ∀ c ∈ b, isBlank c = true :=
  exists_append_dropWhile isBlank s

/-- The blanks around a text do not matter. -/
theorem trimChars_append (ha : ∀ c ∈ a, isBlank c = true) (hb : ∀ c ∈ b, isBlank c = true) :
    trimChars (a ++ s ++ b) = trimChars s := by
  rw [List.append_assoc, trimChars, trimLeft_append ha, trimLeft, List.dropWhile_append]
  split
  · rename_i hnil
    have hnone : trimLeft s = [] := List.isEmpty_iff.1 hnil
    have hblank : trimLeft (b ++ []) = [] := trimLeft_append hb
    rw [List.append_nil, trimLeft] at hblank
    rw [trimChars, hnone, hblank]
  · exact trimRight_append hb

/-- Nothing is left of a text if and only if all of it is blank. -/
theorem trimChars_eq_nil : trimChars s = [] ↔ ∀ c ∈ s, isBlank c = true := by
  constructor
  · intro h c hc
    obtain ⟨a, b, hs, ha, hb⟩ := exists_append_trimChars s
    rw [hs, h, List.append_nil] at hc
    rcases List.mem_append.1 hc with hc | hc
    · exact ha c hc
    · exact hb c hc
  · intro h
    have hall : trimChars (s ++ [] ++ []) = trimChars [] := trimChars_append h nofun
    rwa [List.append_nil, List.append_nil] at hall

theorem trimChars_ne_nil : trimChars s ≠ [] ↔ ∃ c ∈ s, isBlank c = false := by
  rw [Ne, trimChars_eq_nil]
  simp

theorem trimChars_trimChars (s : List Char) : trimChars (trimChars s) = trimChars s :=
  trimChars_of_isTrimmed (isTrimmed_trimChars s)

/-- What trimming leaves is in the text. -/
theorem mem_of_mem_trimChars {c : Char} (h : c ∈ trimChars s) : c ∈ s := by
  obtain ⟨a, b, hs, -, -⟩ := exists_append_trimChars s
  rw [hs]
  exact List.mem_append_left b (List.mem_append_right a h)

/-- A change of characters that leaves blanks blank can be made before or after trimming. -/
theorem trimChars_map {f : Char → Char} (h : ∀ c, isBlank (f c) = isBlank c) (s : List Char) :
    trimChars (s.map f) = (trimChars s).map f := by
  have hcomp : isBlank ∘ f = isBlank := funext h
  have hleft (t : List Char) : trimLeft (t.map f) = (trimLeft t).map f := by
    rw [trimLeft, List.dropWhile_map, hcomp, trimLeft]
  have hright (t : List Char) : trimRight (t.map f) = (trimRight t).map f := by
    change (trimLeft (t.map f).reverse).reverse = _
    rw [← List.map_reverse, hleft, ← List.map_reverse]
    rfl
  rw [trimChars, hleft, hright, trimChars]

end ObjectLookup.Text
