/-! # Rows of characters of a kind

Taking as many characters of a kind as there are cuts a text where a row of them meets something
that does not begin with one (`takeWhile_append_of_parts`, `dropWhile_append_of_parts`). Taking them
off both ends leaves the text between (`exists_append_dropWhile`, `dropWhile_append_append`).
-/

namespace ObjectLookup.Text

variable {kind : Char → Bool} {a b s : List Char}

/-- The first character, if there is one, is not of the kind. -/
def Parts (kind : Char → Bool) (s : List Char) : Prop := ∀ c, s.head? = some c → kind c = false

theorem takeWhile_append_of_parts (ha : ∀ c ∈ a, kind c = true) (hb : Parts kind b) :
    (a ++ b).takeWhile kind = a := by
  rw [List.takeWhile_append_of_pos ha]
  cases b with
  | nil => exact List.append_nil a
  | cons c b => rw [List.takeWhile_cons_of_neg (by simp [hb c rfl]), List.append_nil]

theorem dropWhile_append_of_parts (ha : ∀ c ∈ a, kind c = true) (hb : Parts kind b) :
    (a ++ b).dropWhile kind = b := by
  rw [List.dropWhile_append_of_pos ha]
  cases b with
  | nil => rfl
  | cons c b => exact List.dropWhile_cons_of_neg (by simp [hb c rfl])

theorem mem_takeWhile {c : Char} (h : c ∈ s.takeWhile kind) : kind c = true :=
  List.all_eq_true.1 List.all_takeWhile c h

theorem parts_dropWhile (kind : Char → Bool) (s : List Char) : Parts kind (s.dropWhile kind) := by
  intro c hc
  have hstop := List.head?_dropWhile_not kind s
  rw [hc] at hstop
  simpa using hstop

/-- What is left of a text when the characters of a kind are taken off both of its ends has them on
both sides. -/
theorem exists_append_dropWhile (kind : Char → Bool) (s : List Char) :
    ∃ a b, s = a ++ ((s.dropWhile kind).reverse.dropWhile kind).reverse ++ b ∧
      (∀ c ∈ a, kind c = true) ∧ ∀ c ∈ b, kind c = true := by
  refine ⟨s.takeWhile kind, ((s.dropWhile kind).reverse.takeWhile kind).reverse, ?_,
    fun c ↦ mem_takeWhile, fun c hc ↦ mem_takeWhile (List.mem_reverse.1 hc)⟩
  rw [List.append_assoc, ← List.reverse_append, List.takeWhile_append_dropWhile,
    List.reverse_reverse, List.takeWhile_append_dropWhile]

theorem parts_append (hs : ∀ c ∈ s, kind c = false) (hne : s ≠ []) : Parts kind (s ++ b) := by
  obtain ⟨c, s, rfl⟩ := List.exists_cons_of_ne_nil hne
  rintro d ⟨⟩
  exact hs c (.head s)

/-- The characters of a kind are taken off both ends of a text that has none itself. -/
theorem dropWhile_append_append (ha : ∀ c ∈ a, kind c = true) (hb : ∀ c ∈ b, kind c = true)
    (hs : ∀ c ∈ s, kind c = false) (hne : s ≠ []) :
    (((a ++ s ++ b).dropWhile kind).reverse.dropWhile kind).reverse = s := by
  have hback : Parts kind (s.reverse ++ []) := parts_append (by simpa using hs) (by simpa using hne)
  rw [List.append_nil] at hback
  rw [List.append_assoc, dropWhile_append_of_parts ha (parts_append hs hne), List.reverse_append,
    dropWhile_append_of_parts (by simpa using hb) hback, List.reverse_reverse]

end ObjectLookup.Text
