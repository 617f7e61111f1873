/-! # Texts that may be missing

An empty text counts as one that is not there.
-/

namespace ObjectLookup

/-- The text, unless it is missing or empty. -/
def given? (s : Option String) : Option String := s.filter (· ≠ "")

@[simp] theorem given?_none : given? none = none := rfl
@[simp] theorem given?_empty : given? (some "") = none := rfl

theorem given?_of_ne {s : String} (h : s ≠ "") : given? (some s) = some s := by
  simp [given?, Option.filter, h]

theorem given?_eq_some {o : Option String} {s : String} :
    given? o = some s ↔ o = some s ∧ s ≠ "" := by
  cases o <;> grind [given?]

@[simp] theorem given?_given? (o : Option String) : given? (given? o) = given? o := by
  cases o <;> grind [given?]

theorem given?_eq_none {o : Option String} : given? o = none ↔ ∀ s, o = some s → s = "" := by
  cases o <;> grind [given?]

end ObjectLookup
