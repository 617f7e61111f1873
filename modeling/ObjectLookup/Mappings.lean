import ObjectLookup.Journal

/-! # Mappings that are handed around

Whoever is given a mapping can change it, and everyone who has it sees that. `Mappings` keeps the
mappings of a process side by side, each under its number. To give away entries and keep the
mapping, a copy is made and given away: writing to the one does not change the other
(`read_write_of_ne`, `read_copy_of_lt`).
-/

namespace ObjectLookup

/-- The mappings of a process, in the order in which they were made. -/
structure Mappings where
  toList : List Context

namespace Mappings

def count (m : Mappings) : Nat := m.toList.length

/-- What a mapping holds. -/
def read (i : Nat) (m : Mappings) : Context := (m.toList[i]?).getD .empty

/-- Leaves a mapping with other entries. -/
def write (i : Nat) (context : Context) (m : Mappings) : Mappings := ⟨m.toList.set i context⟩

/-- Makes a mapping with the entries of another one. Its number is the next one. -/
def copy (i : Nat) (m : Mappings) : Mappings := ⟨m.toList ++ [m.read i]⟩

theorem read_write_of_ne {i j : Nat} (h : i ≠ j) (context : Context) (m : Mappings) :
    (m.write i context).read j = m.read j := by
  simp only [read, write, List.getElem?_set_ne h]

theorem read_copy_of_lt (i : Nat) {j : Nat} {m : Mappings} (h : j < m.count) :
    (m.copy i).read j = m.read j := by
  simp only [read, copy, List.getElem?_append_left h]

/-- A copy holds what was copied. -/
@[simp] theorem read_copy_count (i : Nat) (m : Mappings) :
    (m.copy i).read m.count = m.read i := by
  simp [read, copy, count]

@[simp] theorem count_write (i : Nat) (context : Context) (m : Mappings) :
    (m.write i context).count = m.count := List.length_set

@[simp] theorem count_copy (i : Nat) (m : Mappings) : (m.copy i).count = m.count + 1 := by
  simp [count, copy]

end Mappings

end ObjectLookup
