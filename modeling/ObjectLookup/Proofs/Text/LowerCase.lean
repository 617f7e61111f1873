import ObjectLookup.Text.Blank
import ObjectLookup.Text.Lower

/-! # Laws of lower case

No run of the mapping leads into a run, so that a text in lower case is its own lower case
(`lowerChars_lowerChars`). Ranges that no run begins in or leads to are left alone (`IsApart`): the
blanks are such, and separators. What holds of the characters of such a range holds after mapping
where it held before (`IsCaseless`).

The only mapping that looks around is that of the capital sigma. It looks no further than to the
next separator, so that the parts of a text between separators map on their own
(`lowerChars_append_cons`), and it does not look at the case of letters, so that a text in which the
case of ASCII letters is changed has the same lower case (`lowerChars_toLower`).
-/

namespace ObjectLookup.Text

/-! ## Runs -/

/-- The run has the code point. -/
def inRun (r : Nat × Nat × Nat × Int) (n : Nat) : Bool :=
  r.1 ≤ n && n ≤ r.2.1 && (n - r.1) % r.2.2.1 == 0

/-- The code point that a run leads to from the given one. -/
def target (r : Nat × Nat × Nat × Int) (n : Nat) : Nat := (n + r.2.2.2).toNat

theorem inRun_iff {r : Nat × Nat × Nat × Int} {n : Nat} :
    inRun r n = true ↔ r.1 ≤ n ∧ n ≤ r.2.1 ∧ (n - r.1) % r.2.2.1 = 0 := by
  simp [inRun, and_assoc]

/-- What the runs lead to are characters. -/
theorem target_of_mem : ∀ r ∈ lowerRuns, 0 ≤ (r.1 : Int) + r.2.2.2 ∧
    (target r r.2.1 < 0xD800 ∨ 0xDFFF < target r r.1 ∧ target r r.2.1 < 0x110000) := by
  decide +kernel

/-- A character maps to itself, or it is in a run and maps to where that leads. -/
theorem lowerChar_cases (c : Char) :
    lowerChar c = c ∨
      ∃ r ∈ lowerRuns, inRun r c.toNat = true ∧ (lowerChar c).toNat = target r c.toNat := by
  unfold lowerChar
  split
  · rename_i r hfound
    have hmem : r ∈ lowerRuns := List.mem_of_find?_eq_some hfound
    have hin : inRun r c.toNat = true := by
      have hpred := List.find?_some hfound
      exact hpred
    have hvalid : (target r c.toNat).isValidChar := by
      obtain ⟨-, hends⟩ := target_of_mem r hmem
      obtain ⟨hfirst, hlast, -⟩ := inRun_iff.1 hin
      simp only [target, Nat.isValidChar] at hends ⊢
      omega
    refine .inr ⟨r, hmem, hin, ?_⟩
    change (Char.ofNat (target r c.toNat)).toNat = _
    rw [Char.ofNat, dif_pos hvalid]
    rfl
  · exact .inl rfl

/-! ## What maps to itself -/

/-- What the run leads to is not in the other one: it is before or behind it, or between its
characters. -/
def misses (r t : Nat × Nat × Nat × Int) : Bool :=
  (target r r.2.1).blt t.1 || t.2.1.blt (target r r.1) ||
    t.2.2.1 == 2 && (r.2.2.1 == 2 || r.1 == r.2.1) && (target r r.1 + t.1) % 2 == 1

theorem misses_of_mem : ∀ r ∈ lowerRuns, ∀ t ∈ lowerRuns, misses r t = true := by
  have hall : (lowerRuns.all fun r ↦ lowerRuns.all (misses r)) = true := by decide +kernel
  simpa using hall

/-- What a run leads to is in no run. -/
theorem inRun_target {r t : Nat × Nat × Nat × Int} (hr : r ∈ lowerRuns) (ht : t ∈ lowerRuns)
    {n : Nat} (hn : inRun r n = true) : inRun t (target r n) = false := by
  refine Bool.eq_false_iff.2 fun hin ↦ ?_
  obtain ⟨hfirst, hlast, hstep⟩ := inRun_iff.1 hn
  obtain ⟨hfirst', hlast', hstep'⟩ := inRun_iff.1 hin
  have hstart := (target_of_mem r hr).1
  have hmisses := misses_of_mem r hr t ht
  simp only [misses, target, Bool.or_eq_true, Bool.and_eq_true, Nat.blt_eq, beq_iff_eq] at *
  rcases hmisses with (h | h) | ⟨⟨hstep₂, heven⟩, hodd⟩
  · omega
  · omega
  · rw [hstep₂] at hstep'
    rcases heven with heven | heven
    · rw [heven] at hstep
      omega
    · omega

theorem lowerChar_lowerChar (c : Char) : lowerChar (lowerChar c) = lowerChar c := by
  rcases lowerChar_cases c with h | ⟨r, hr, hin, htarget⟩
  · rw [h, h]
  · rcases lowerChar_cases (lowerChar c) with h | ⟨t, ht, hin', -⟩
    · exact h
    · rw [htarget, inRun_target hr ht hin] at hin'
      cases hin'

/-! ## Ranges that are left alone -/

/-- No run has a code point of the ranges, nor leads to one. -/
def IsApart (rs : List (Nat × Nat)) : Prop := ∀ r ∈ lowerRuns, ∀ t ∈ rs,
  (r.2.1 < t.1 ∨ t.2 < r.1) ∧ (target r r.2.1 < t.1 ∨ t.2 < target r r.1)

instance (rs : List (Nat × Nat)) : Decidable (IsApart rs) :=
  inferInstanceAs (Decidable (∀ r ∈ lowerRuns, ∀ t ∈ rs, _ ∧ _))

theorem inRanges_lowerChar {rs : List (Nat × Nat)} (h : IsApart rs) (c : Char) :
    inRanges rs (lowerChar c) = inRanges rs c := by
  rcases lowerChar_cases c with hsame | ⟨r, hr, hin, htarget⟩
  · rw [hsame]
  · obtain ⟨hfirst, hlast, -⟩ := inRun_iff.1 hin
    have hbefore : inRanges rs c = false := by
      refine Bool.eq_false_iff.2 fun hc ↦ ?_
      obtain ⟨t, ht, htc⟩ := (inRanges_iff rs c).1 hc
      have hapart := (h r hr t ht).1
      omega
    have hafter : inRanges rs (lowerChar c) = false := by
      refine Bool.eq_false_iff.2 fun hc ↦ ?_
      obtain ⟨t, ht, htc⟩ := (inRanges_iff rs _).1 hc
      have hapart := (h r hr t ht).2
      rw [htarget] at htc
      simp only [target] at hapart htc
      omega
    rw [hbefore, hafter]

theorem isApart_blankRanges : IsApart blankRanges := by decide +kernel

/-- A character stands alone if no run has it and none leads to it. -/
theorem lowerChar_beq {d : Char} (h : IsApart [(d.toNat, d.toNat)]) (c : Char) :
    (lowerChar c == d) = (c == d) := by
  have hsingle (x : Char) : inRanges [(d.toNat, d.toNat)] x = (x == d) := by
    rw [Bool.eq_iff_iff, inRanges_iff, beq_iff_eq, ← Char.toNat_inj]
    simp only [List.mem_singleton, exists_eq_left]
    omega
  rw [← hsingle, ← hsingle, inRanges_lowerChar h]

/-! ## Characters in lower case -/

/-- A character that is its own lower case, whatever stands around it. -/
def IsLower (c : Char) : Prop := c ≠ 'Σ' ∧ c ≠ 'İ' ∧ lowerChar c = c

instance (c : Char) : Decidable (IsLower c) := inferInstanceAs (Decidable (_ ∧ _))

theorem isLower_dot : IsLower '.' := by decide +kernel
theorem isLower_slash : IsLower '/' := by decide +kernel

/-- What a single character maps to is in lower case. -/
theorem isLower_lowerChar {c : Char} (h : c ≠ 'İ') : IsLower (lowerChar c) := by
  have hsame := lowerChar_lowerChar c
  refine ⟨?_, ?_, hsame⟩
  · intro hsigma
    rw [hsigma] at hsame
    revert hsame
    decide +kernel
  · have hapart : IsApart [('İ'.toNat, 'İ'.toNat)] := by decide +kernel
    have hdotted := lowerChar_beq hapart c
    rw [beq_eq_false_iff_ne.2 h] at hdotted
    exact beq_eq_false_iff_ne.1 hdotted

/-- The three ways in which a character maps. -/
theorem lowerBetween_cases (before : List Char) (c : Char) (after : List Char) :
    (c = 'Σ' ∧ (lowerBetween before c after = ['ς'] ∨ lowerBetween before c after = ['σ'])) ∨
    (c = 'İ' ∧ lowerBetween before c after = ['i', '\u0307']) ∨
    (c ≠ 'İ' ∧ lowerBetween before c after = [lowerChar c]) := by
  unfold lowerBetween
  split
  · refine .inl ⟨‹_›, ?_⟩
    split
    · exact .inl rfl
    · exact .inr rfl
  · split
    · exact .inr (.inl ⟨‹_›, rfl⟩)
    · exact .inr (.inr ⟨‹_›, rfl⟩)

theorem isLower_of_mem_lowerBetween {before after : List Char} {c x : Char}
    (h : x ∈ lowerBetween before c after) : IsLower x := by
  rcases lowerBetween_cases before c after with ⟨-, heq | heq⟩ | ⟨-, heq⟩ | ⟨hc, heq⟩ <;>
    rw [heq] at h <;> simp only [List.mem_cons, List.not_mem_nil, or_false] at h
  · subst h
    decide +kernel
  · subst h
    decide +kernel
  · rcases h with rfl | rfl <;> decide +kernel
  · subst h
    exact isLower_lowerChar hc

theorem isLower_of_mem_lowerFrom {before s : List Char} {x : Char} (h : x ∈ lowerFrom before s) :
    IsLower x := by
  induction s generalizing before with
  | nil => cases h
  | cons c s ih =>
      rcases List.mem_append.1 h with h | h
      · exact isLower_of_mem_lowerBetween h
      · exact ih h

theorem lowerBetween_ne_nil (before : List Char) (c : Char) (after : List Char) :
    lowerBetween before c after ≠ [] := by
  rcases lowerBetween_cases before c after with ⟨-, heq | heq⟩ | ⟨-, heq⟩ | ⟨-, heq⟩ <;>
    rw [heq] <;> exact List.cons_ne_nil _ _

theorem lowerChars_eq_nil {s : List Char} : lowerChars s = [] ↔ s = [] := by
  cases s with
  | nil => exact iff_of_true rfl rfl
  | cons c s =>
      refine iff_of_false (fun h ↦ ?_) (List.cons_ne_nil c s)
      exact lowerBetween_ne_nil [] c s (List.append_eq_nil_iff.1 h).1

/-- A character that is in lower case stays as it is. -/
theorem lowerBetween_of_isLower {c : Char} (h : IsLower c) (before after : List Char) :
    lowerBetween before c after = [c] := by
  rw [lowerBetween, if_neg h.1, if_neg h.2.1, h.2.2]

theorem lowerFrom_of_isLower {s : List Char} (h : ∀ c ∈ s, IsLower c) (before : List Char) :
    lowerFrom before s = s := by
  induction s generalizing before with
  | nil => rfl
  | cons c s ih =>
      rw [lowerFrom, lowerBetween_of_isLower (h c List.mem_cons_self),
        ih fun d hd ↦ h d (List.mem_cons_of_mem c hd)]
      rfl

/-- A text in lower case is its own lower case. -/
theorem lowerChars_lowerChars (s : List Char) : lowerChars (lowerChars s) = lowerChars s :=
  lowerFrom_of_isLower (fun _ ↦ isLower_of_mem_lowerFrom) []

theorem mem_lowerFrom {c : Char} {s : List Char} (h : IsLower c) (hc : c ∈ s)
    (before : List Char) : c ∈ lowerFrom before s := by
  induction s generalizing before with
  | nil => cases hc
  | cons d s ih =>
      rw [lowerFrom, List.mem_append]
      rcases List.mem_cons.1 hc with rfl | hc
      · refine .inl ?_
        rw [lowerBetween_of_isLower h]
        exact List.mem_singleton_self c
      · exact .inr (ih hc (d :: before))

/-- Lower case keeps the characters that are in lower case already. -/
theorem mem_toList_lower {c : Char} {s : List Char} (h : IsLower c) (hc : c ∈ s) :
    c ∈ (lower (String.ofList s)).toList := by
  rw [lower, String.toList_ofList, String.toList_ofList]
  exact mem_lowerFrom h hc []

/-! ## Properties that lower case does not change -/

/-- A character has the property if and only if what it maps to has it. -/
structure IsCaseless (P : Char → Bool) : Prop where
  lowerChar : ∀ c, P (lowerChar c) = P c
  sigma : P 'σ' = P 'Σ' ∧ P 'ς' = P 'Σ'
  dotted : P 'i' = P 'İ' ∧ P '\u0307' = P 'İ'

theorem isCaseless_isBlank : IsCaseless isBlank where
  lowerChar := inRanges_lowerChar isApart_blankRanges
  sigma := by decide
  dotted := by decide

theorem isCaseless_slash : IsCaseless (· == '/') where
  lowerChar := lowerChar_beq (by decide +kernel)
  sigma := by decide
  dotted := by decide

theorem isCaseless_semicolon : IsCaseless (· == ';') where
  lowerChar := lowerChar_beq (by decide +kernel)
  sigma := by decide
  dotted := by decide

namespace IsCaseless

variable {P : Char → Bool} (h : IsCaseless P)
include h

theorem of_mem_lowerBetween {before after : List Char} {c x : Char}
    (hx : x ∈ lowerBetween before c after) : P x = P c := by
  rcases lowerBetween_cases before c after with ⟨rfl, heq | heq⟩ | ⟨rfl, heq⟩ | ⟨-, heq⟩ <;>
    rw [heq] at hx <;> simp only [List.mem_cons, List.not_mem_nil, or_false] at hx
  · subst hx
    exact h.sigma.2
  · subst hx
    exact h.sigma.1
  · rcases hx with rfl | rfl
    · exact h.dotted.1
    · exact h.dotted.2
  · subst hx
    exact h.lowerChar c

/-- A character of the lower case of a text is one that a character of the text maps to. -/
theorem exists_of_mem_lowerFrom {before s : List Char} {x : Char} (hx : x ∈ lowerFrom before s) :
    ∃ c ∈ s, P x = P c := by
  induction s generalizing before with
  | nil => cases hx
  | cons c s ih =>
      rcases List.mem_append.1 hx with hx | hx
      · exact ⟨c, List.mem_cons_self, h.of_mem_lowerBetween hx⟩
      · obtain ⟨d, hd, heq⟩ := ih hx
        exact ⟨d, List.mem_cons_of_mem c hd, heq⟩

theorem head?_lowerFrom (before s : List Char) :
    (lowerFrom before s).head?.map P = s.head?.map P := by
  cases s with
  | nil => rfl
  | cons c s =>
      rcases hlower : lowerBetween before c s with _ | ⟨x, xs⟩
      · exact absurd hlower (lowerBetween_ne_nil before c s)
      · have hx : P x = P c := h.of_mem_lowerBetween (hlower ▸ List.mem_cons_self)
        simp [lowerFrom, hlower, hx]

theorem getLast?_lowerFrom (before s : List Char) :
    (lowerFrom before s).getLast?.map P = s.getLast?.map P := by
  induction s generalizing before with
  | nil => rfl
  | cons c s ih =>
      rw [lowerFrom, List.getLast?_append, List.getLast?_cons]
      rcases hlast : s.getLast? with _ | d
      · obtain rfl := List.getLast?_eq_none_iff.1 hlast
        rcases hlower : (lowerBetween before c []).getLast? with _ | x
        · exact absurd (List.getLast?_eq_none_iff.1 hlower) (lowerBetween_ne_nil before c [])
        · have hx : P x = P c := h.of_mem_lowerBetween (List.mem_of_getLast? hlower)
          simpa [lowerFrom] using hx
      · have hrest := ih (c :: before)
        rw [hlast] at hrest
        rcases hlower : (lowerFrom (c :: before) s).getLast? with _ | x <;> rw [hlower] at hrest
        · cases hrest
        · exact hrest

end IsCaseless

/-! ## Separators -/

/-- A character that maps to itself, and beyond which a sigma does not look. -/
structure IsBarrier (x : Char) : Prop where
  isLower : IsLower x
  notIgnorable : isIgnorable x = false
  notCased : isCased x = false

theorem isBarrier_slash : IsBarrier '/' where
  isLower := isLower_slash
  notIgnorable := by decide +kernel
  notCased := by decide +kernel

namespace IsBarrier

variable {x : Char} (hx : IsBarrier x)
include hx

theorem meetsCased_append_cons (s t : List Char) : meetsCased (s ++ x :: t) = meetsCased s := by
  induction s with
  | nil =>
      simp [meetsCased, hx.notIgnorable, hx.notCased]
  | cons c s ih =>
      rcases hc : isIgnorable c with _ | _
      · simp [meetsCased, hc]
      · simpa [meetsCased, hc] using ih

theorem lowerBetween_before (c : Char) (before p after : List Char) :
    lowerBetween (before ++ x :: p) c after = lowerBetween before c after := by
  simp only [lowerBetween, hx.meetsCased_append_cons]

theorem lowerBetween_after (c : Char) (before after t : List Char) :
    lowerBetween before c (after ++ x :: t) = lowerBetween before c after := by
  simp only [lowerBetween, hx.meetsCased_append_cons]

theorem lowerFrom_before (before p s : List Char) :
    lowerFrom (before ++ x :: p) s = lowerFrom before s := by
  induction s generalizing before with
  | nil => rfl
  | cons c s ih =>
      rw [lowerFrom, lowerFrom, hx.lowerBetween_before, ← List.cons_append, ih]

theorem lowerFrom_append_cons (before s t : List Char) :
    lowerFrom before (s ++ x :: t) = lowerFrom before s ++ x :: lowerChars t := by
  induction s generalizing before with
  | nil =>
      change lowerBetween before x t ++ lowerFrom (x :: before) t = x :: lowerChars t
      rw [lowerBetween_of_isLower hx.isLower]
      exact congrArg (x :: ·) (hx.lowerFrom_before [] before t)
  | cons c s ih =>
      rw [List.cons_append, lowerFrom, lowerFrom, hx.lowerBetween_after, ih, List.append_assoc]

/-- What is before and what is behind a separator map on their own. -/
theorem lowerChars_append_cons (s t : List Char) :
    lowerChars (s ++ x :: t) = lowerChars s ++ x :: lowerChars t :=
  hx.lowerFrom_append_cons [] s t

end IsBarrier

/-! ## The case of ASCII letters -/

/-- The capital letters of ASCII. -/
def capitals : List Char := (List.range 26).map fun n ↦ Char.ofNat (0x41 + n)

/-- What holds of the capital letters one by one. -/
theorem forall_capitals {P : Char → Prop} [DecidablePred P]
    (h : capitals.all (fun c ↦ decide (P c)) = true) : ∀ c ∈ capitals, P c :=
  fun c hc ↦ of_decide_eq_true (List.all_eq_true.1 h c hc)

theorem toLower_cases (c : Char) : c.toLower = c ∨ c ∈ capitals := by
  unfold Char.toLower
  split
  · rename_i h
    have hfirst : 0x41 ≤ c.toNat := h.1
    have hlast : c.toNat ≤ 0x5A := h.2
    refine .inr (List.mem_map.2 ⟨c.toNat - 0x41, List.mem_range.2 (by omega), ?_⟩)
    rw [Nat.add_sub_cancel' hfirst, Char.ofNat_toNat]
  · exact .inl rfl

/-- What does not tell the capital letters from the small ones goes by the small letter. -/
theorem apply_toLower {α : Type} (f : Char → α) (h : ∀ c ∈ capitals, f c.toLower = f c)
    (c : Char) : f c.toLower = f c := by
  rcases toLower_cases c with hc | hc
  · rw [hc]
  · exact h c hc

theorem toLower_eq_iff {d : Char} (h : ∀ c ∈ capitals, c ≠ d ∧ c.toLower ≠ d) (c : Char) :
    c.toLower = d ↔ c = d := by
  rcases toLower_cases c with hc | hc
  · rw [hc]
  · exact iff_of_false (h c hc).2 (h c hc).1

theorem isBlank_toLower (c : Char) : isBlank c.toLower = isBlank c :=
  apply_toLower isBlank (forall_capitals (by decide +kernel)) c

theorem letters_of_mem_capitals : ∀ c ∈ capitals, (0x41 ≤ c.toNat ∧ c.toNat ≤ 0x5A) ∧
    0x61 ≤ c.toLower.toNat ∧ c.toLower.toNat ≤ 0x7A :=
  forall_capitals (by decide +kernel)

theorem letters_apart_ignorableRanges : ∀ t ∈ ignorableRanges,
    t.2 < 0x41 ∨ (0x5A < t.1 ∧ t.2 < 0x61) ∨ 0x7A < t.1 := by
  decide +kernel

theorem not_isIgnorable_of_letter {c : Char}
    (h : 0x41 ≤ c.toNat ∧ c.toNat ≤ 0x5A ∨ 0x61 ≤ c.toNat ∧ c.toNat ≤ 0x7A) :
    isIgnorable c = false := by
  refine Bool.eq_false_iff.2 fun hc ↦ ?_
  obtain ⟨t, ht, htc⟩ := (inRanges_iff ignorableRanges c).1 hc
  have hapart := letters_apart_ignorableRanges t ht
  omega

theorem isIgnorable_toLower (c : Char) : isIgnorable c.toLower = isIgnorable c := by
  refine apply_toLower isIgnorable (fun d hd ↦ ?_) c
  obtain ⟨hcapital, hsmall⟩ := letters_of_mem_capitals d hd
  rw [not_isIgnorable_of_letter (.inl hcapital), not_isIgnorable_of_letter (.inr hsmall)]

theorem isCased_toLower (c : Char) : isCased c.toLower = isCased c :=
  apply_toLower isCased (forall_capitals (by decide +kernel)) c

theorem lowerChar_toLower (c : Char) : lowerChar c.toLower = lowerChar c :=
  apply_toLower lowerChar (forall_capitals (by decide +kernel)) c

theorem meetsCased_toLower (s : List Char) : meetsCased (s.map Char.toLower) = meetsCased s := by
  have hignorable : isIgnorable ∘ Char.toLower = isIgnorable := funext isIgnorable_toLower
  rw [meetsCased, meetsCased, List.dropWhile_map, hignorable]
  rcases s.dropWhile isIgnorable with _ | ⟨c, s⟩
  · rfl
  · exact isCased_toLower c

theorem lowerBetween_toLower (before : List Char) (c : Char) (after : List Char) :
    lowerBetween (before.map Char.toLower) c.toLower (after.map Char.toLower) =
      lowerBetween before c after := by
  have hsigma : c.toLower = 'Σ' ↔ c = 'Σ' :=
    toLower_eq_iff (forall_capitals (by decide +kernel)) c
  have hdotted : c.toLower = 'İ' ↔ c = 'İ' :=
    toLower_eq_iff (forall_capitals (by decide +kernel)) c
  simp only [lowerBetween, hsigma, hdotted, lowerChar_toLower, meetsCased_toLower]

theorem lowerFrom_toLower (before s : List Char) :
    lowerFrom (before.map Char.toLower) (s.map Char.toLower) = lowerFrom before s := by
  induction s generalizing before with
  | nil => rfl
  | cons c s ih =>
      rw [List.map_cons, lowerFrom, lowerFrom, lowerBetween_toLower, ← List.map_cons, ih]

/-- The case of ASCII letters does not matter to the lower case of a text. -/
theorem lowerChars_toLower (s : List Char) : lowerChars (s.map Char.toLower) = lowerChars s :=
  lowerFrom_toLower [] s

end ObjectLookup.Text
