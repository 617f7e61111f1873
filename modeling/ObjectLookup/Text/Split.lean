/-! # Cutting text at a separator

`cutFirst?` and `cutLast?` return the text on both sides of one separator, `pieces` the texts
between all of them.
-/

namespace ObjectLookup.Text

/-- Cuts at the first separator, which belongs to neither side. -/
def cutFirst? (sep : Char) : List Char → Option (List Char × List Char)
  | [] => none
  | c :: s => if c = sep then some ([], s) else (cutFirst? sep s).map fun p ↦ (c :: p.1, p.2)

/-- Cuts at the last separator, which belongs to neither side. -/
def cutLast? (sep : Char) (s : List Char) : Option (List Char × List Char) :=
  (cutFirst? sep s.reverse).map fun p ↦ (p.2.reverse, p.1.reverse)

/-- The text before the first separator, all of it if there is none. -/
def upTo (sep : Char) (s : List Char) : List Char := s.takeWhile (· ≠ sep)

/-- The text behind the last separator, all of it if there is none. -/
def afterLast (sep : Char) (s : List Char) : List Char := (upTo sep s.reverse).reverse

/-- The texts between the separators, one more than there are separators. -/
def pieces (sep : Char) : List Char → List (List Char)
  | [] => [[]]
  | c :: s =>
    if c = sep then [] :: pieces sep s
    else match pieces sep s with
      | [] => [[c]]
      | p :: ps => (c :: p) :: ps

/-- Whether a text has the other one in it. -/
def occursIn (part : List Char) : List Char → Bool
  | [] => part.isEmpty
  | c :: s => part.isPrefixOf (c :: s) || occursIn part s

@[simp] theorem cutFirst?_nil (sep : Char) : cutFirst? sep [] = none := rfl

@[simp] theorem cutFirst?_cons_self (sep : Char) (s : List Char) :
    cutFirst? sep (sep :: s) = some ([], s) := by simp [cutFirst?]

theorem cutFirst?_eq_some {sep : Char} {s a b : List Char} :
    cutFirst? sep s = some (a, b) ↔ s = a ++ sep :: b ∧ sep ∉ a := by
  induction s generalizing a with
  | nil => simp
  | cons c s ih =>
    by_cases h : c = sep
    · subst h
      cases a with
      | nil => simp
      | cons d a => simp; grind
    · cases a with
      | nil => simp [cutFirst?, h]
      | cons d a =>
        simp only [cutFirst?, h, if_false, Option.map_eq_some_iff, Prod.mk.injEq, List.cons.injEq,
          Prod.exists, List.cons_append, List.mem_cons, not_or]
        constructor
        · rintro ⟨a', b', hs, ⟨rfl, rfl⟩, rfl⟩
          have := ih.1 hs
          grind
        · rintro ⟨⟨rfl, hs⟩, hd, ha⟩
          exact ⟨a, b, ih.2 ⟨hs, ha⟩, ⟨rfl, rfl⟩, rfl⟩

theorem cutFirst?_eq_none {sep : Char} {s : List Char} : cutFirst? sep s = none ↔ sep ∉ s := by
  induction s with
  | nil => simp
  | cons c s ih =>
    by_cases h : c = sep
    · simp [cutFirst?, h]
    · simp [cutFirst?, h, ih, Ne.symm h]

theorem cutLast?_eq_none {sep : Char} {s : List Char} : cutLast? sep s = none ↔ sep ∉ s := by
  simp [cutLast?, cutFirst?_eq_none]

theorem cutLast?_eq_some {sep : Char} {s a b : List Char} :
    cutLast? sep s = some (a, b) ↔ s = a ++ sep :: b ∧ sep ∉ b := by
  simp only [cutLast?, Option.map_eq_some_iff, Prod.mk.injEq, Prod.exists]
  constructor
  · rintro ⟨x, y, h, rfl, rfl⟩
    obtain ⟨hs, hx⟩ := cutFirst?_eq_some.1 h
    exact ⟨by simpa using congrArg List.reverse hs, by simpa using hx⟩
  · rintro ⟨rfl, hb⟩
    exact ⟨b.reverse, a.reverse, cutFirst?_eq_some.2 ⟨by simp, by simpa using hb⟩, by simp⟩

end ObjectLookup.Text
