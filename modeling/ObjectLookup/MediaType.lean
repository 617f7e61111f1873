import ObjectLookup.Failure
import ObjectLookup.Text.Blank
import ObjectLookup.Text.Lower
import ObjectLookup.Text.Split

/-! # Media types

`MediaType.parse?` reads the essence of a `Content-Type` value: the part before the first semicolon,
without blanks around it and in lower case. It must have exactly one slash, with something on both
sides.
-/

namespace ObjectLookup

structure MediaType where
  type : String
  subtype : String
deriving DecidableEq, Repr

namespace MediaType

def text (m : MediaType) : String := m.type ++ "/" ++ m.subtype

/-- The characters that name the media type, parameters left out. -/
def essence (s : List Char) : List Char := Text.lowerChars (Text.trimChars (Text.upTo ';' s))

/-- The parts of an essence. -/
def ofEssence? (s : List Char) : Option MediaType :=
  match Text.cutFirst? '/' s with
  | some (main, sub) =>
    if main ≠ [] ∧ sub ≠ [] ∧ '/' ∉ sub then some ⟨String.ofList main, String.ofList sub⟩ else none
  | none => none

def parse? (value : String) : Option MediaType := ofEssence? (essence value.toList)

/-- Reads a value that may be missing, which is never a media type. -/
def parse (value : Option String) : Except Failure MediaType :=
  match parse? (value.getD "") with
  | some m => .ok m
  | none => .error (.invalidValue ("Invalid media type: " ++ Text.quoted? value))

theorem ofEssence?_eq_some {s : List Char} {m : MediaType} :
    ofEssence? s = some m ↔
      s = m.type.toList ++ '/' :: m.subtype.toList ∧ m.type ≠ "" ∧ m.subtype ≠ "" ∧
        '/' ∉ m.type.toList ∧ '/' ∉ m.subtype.toList := by
  obtain ⟨t, u⟩ := m
  unfold ofEssence?
  constructor
  · intro h
    split at h
    · rename_i main sub hcut
      obtain ⟨rfl, hmain⟩ := Text.cutFirst?_eq_some.1 hcut
      split at h <;> simp at h
      obtain ⟨rfl, rfl⟩ := h
      simp_all
    · simp at h
  · rintro ⟨rfl, ht, hu, hts, hus⟩
    rw [Text.cutFirst?_eq_some.2 ⟨rfl, hts⟩]
    simp_all

end MediaType

end ObjectLookup
