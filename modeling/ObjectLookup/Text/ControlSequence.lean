/-! # Control sequences

A control sequence tells a terminal what to do: an escape, an opening bracket, parameters, and a
letter. Where there is no terminal to read them, they are left out of the text.
-/

namespace ObjectLookup.Text

def escape : Char := '\x1b'

/-- The characters that may stand between the bracket and the letter. -/
def isParameter (c : Char) : Bool := c.isDigit || c == ';' || c == '?'

/-- What follows the control sequence that the text begins with. -/
def afterSequence? : List Char → Option (List Char)
  | e :: '[' :: s =>
    match s.dropWhile isParameter with
    | c :: rest => if e = escape ∧ c.isAlpha then some rest else none
    | [] => none
  | _ => none

theorem length_lt_of_afterSequence? {s r : List Char} (h : afterSequence? s = some r) :
    r.length < s.length := by
  unfold afterSequence? at h
  split at h
  · rename_i e s
    have hle := (List.dropWhile_sublist (l := s) isParameter).length_le
    split at h
    · rename_i c rest heq
      split at h
      · cases h
        rw [heq] at hle
        simp at hle ⊢
        omega
      · simp at h
    · simp at h
  · simp at h

theorem head_eq_of_afterSequence? {c : Char} {s r : List Char}
    (h : afterSequence? (c :: s) = some r) : c = escape := by
  unfold afterSequence? at h
  split at h
  · rename_i e s heq
    split at h
    · split at h
      · rename_i he
        cases heq
        exact he.1
      · simp at h
    · simp at h
  · simp at h

/-- The text without its control sequences. What comes together only by leaving one out stays. -/
def dropSequences (s : List Char) : List Char :=
  match _h : afterSequence? s with
  | some r => dropSequences r
  | none =>
    match s with
    | [] => []
    | c :: r => c :: dropSequences r
termination_by s.length
decreasing_by
  · exact length_lt_of_afterSequence? _h
  · simp

def withoutSequences (s : String) : String := String.ofList (dropSequences s.toList)

@[simp] theorem dropSequences_nil : dropSequences [] = [] := by
  rw [dropSequences]
  simp [afterSequence?]

theorem dropSequences_of_afterSequence? {s r : List Char} (h : afterSequence? s = some r) :
    dropSequences s = dropSequences r := by
  rw [dropSequences]
  split <;> simp_all

theorem dropSequences_cons {c : Char} {s : List Char} (h : afterSequence? (c :: s) = none) :
    dropSequences (c :: s) = c :: dropSequences s := by
  rw [dropSequences]
  split <;> simp_all

/-- A text without an escape stays as it is. -/
theorem dropSequences_of_not_mem {s : List Char} (h : escape ∉ s) : dropSequences s = s := by
  induction s with
  | nil => simp
  | cons c s ih =>
    have hc : afterSequence? (c :: s) = none := by
      cases hr : afterSequence? (c :: s) with
      | none => rfl
      | some r => exact absurd (head_eq_of_afterSequence? hr ▸ List.mem_cons_self) h
    rw [dropSequences_cons hc, ih fun hs ↦ h (List.mem_cons_of_mem c hs)]

end ObjectLookup.Text
