/-! # Entries in order of first insertion

Putting a value under a key that is there already keeps the key's place and replaces its value.
-/

namespace ObjectLookup

/-- Named values in the order in which their names came first. -/
structure Entries (α : Type) where
  toList : List (String × α)
deriving DecidableEq, Repr, Inhabited

namespace Entries

variable {α β : Type}

def empty : Entries α := ⟨[]⟩

/-- Replaces the value of the first entry named `k`, or adds one at the end. -/
def putList (k : String) (v : α) : List (String × α) → List (String × α)
  | [] => [(k, v)]
  | e :: es => if e.1 = k then (k, v) :: es else e :: putList k v es

def put (k : String) (v : α) (es : Entries α) : Entries α := ⟨putList k v es.toList⟩

/-- Puts every entry of `new` in turn. -/
def update (es new : Entries α) : Entries α := new.toList.foldl (fun es e ↦ es.put e.1 e.2) es

/-- The value of the first entry named `k`. -/
def findList (k : String) : List (String × α) → Option α
  | [] => none
  | e :: es => if e.1 = k then some e.2 else findList k es

def get? (k : String) (es : Entries α) : Option α := findList k es.toList

def names (es : Entries α) : List String := es.toList.map Prod.fst

def mapValues (f : α → β) (es : Entries α) : Entries β := ⟨es.toList.map fun e ↦ (e.1, f e.2)⟩

/-- The entries of a list of pairs, the last pair under a name deciding its value. -/
def ofPairs (pairs : List (String × α)) : Entries α := empty.update ⟨pairs⟩

@[simp] theorem toList_empty : (empty : Entries α).toList = [] := rfl
@[simp] theorem toList_put (k : String) (v : α) (es : Entries α) :
    (es.put k v).toList = putList k v es.toList := rfl
@[simp] theorem update_empty (es : Entries α) : es.update empty = es := rfl

theorem findList_putList (k j : String) (v : α) (es : List (String × α)) :
    findList j (putList k v es) = if j = k then some v else findList j es := by
  induction es with
  | nil => by_cases h : k = j <;> simp [putList, findList, h, eq_comm]
  | cons e es ih => by_cases he : e.1 = k <;> grind [putList, findList]

/-- What was put is found, and nothing else changes. -/
theorem get?_put (k j : String) (v : α) (es : Entries α) :
    (es.put k v).get? j = if j = k then some v else es.get? j :=
  findList_putList k j v es.toList

/-- A name that is there keeps its place; a new one comes last. -/
theorem names_put (k : String) (v : α) (es : Entries α) :
    (es.put k v).names = if k ∈ es.names then es.names else es.names ++ [k] := by
  obtain ⟨es⟩ := es
  simp only [names, toList_put]
  induction es with
  | nil => simp [putList]
  | cons e es ih => by_cases h : e.1 = k <;> grind [putList]

end Entries

end ObjectLookup
