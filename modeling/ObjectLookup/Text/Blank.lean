import ObjectLookup.Text.Ranges

/-! # Blank characters and trimming

A character is blank if Unicode gives it the property `White_Space`, or if it is one of the four
separators U+001C to U+001F. `trim` takes the blanks off both ends and nothing else.
-/

namespace ObjectLookup.Text

/-- The blank characters. -/
def blankRanges : List (Nat × Nat) :=
  [(0x9, 0xD), (0x1C, 0x20), (0x85, 0x85), (0xA0, 0xA0), (0x1680, 0x1680), (0x2000, 0x200A),
   (0x2028, 0x2029), (0x202F, 0x202F), (0x205F, 0x205F), (0x3000, 0x3000)]

def isBlank (c : Char) : Bool := inRanges blankRanges c

def trimLeft (s : List Char) : List Char := s.dropWhile isBlank

def trimRight (s : List Char) : List Char := (s.reverse.dropWhile isBlank).reverse

/-- The characters between the first and the last that are not blank. -/
def trimChars (s : List Char) : List Char := trimRight (trimLeft s)

/-- The text without the blanks at its ends. -/
def trim (s : String) : String := String.ofList (trimChars s.toList)

@[simp] theorem trimLeft_nil : trimLeft [] = [] := rfl
@[simp] theorem trimRight_nil : trimRight [] = [] := rfl
@[simp] theorem trimChars_nil : trimChars [] = [] := rfl

theorem trimLeft_cons (c : Char) (s : List Char) :
    trimLeft (c :: s) = if isBlank c then trimLeft s else c :: s := by
  simp only [trimLeft, List.dropWhile_cons]

example : "\t image/png\u3000".toList |> trimChars |> (· = "image/png".toList) := by decide

end ObjectLookup.Text
