import Mathlib.Data.List.Forall2
import ObjectLookup.Decimal.Reader
import ObjectLookup.Proofs.Text.LowerCase
import ObjectLookup.Proofs.Text.Rows

/-! # Texts that are read as NaN

The reader accepts `nan` in any case, with a sign or without, and with padding around it; it has no
other way to a NaN, since rounding never yields one (`ofDecimal_ne_nan`). So the texts that are read
as NaN are those of that form (`read?_eq_nan_iff`).
-/

namespace ObjectLookup.Decimal

variable {a b s t g w : List Char} {c d : Char}

/-- A blank that may stand around a number: any but the four information separators. -/
def IsPadding (c : Char) : Prop := Text.isBlank c = true ∧ (c.toNat < 0x1C ∨ 0x1F < c.toNat)

/-- One sign, or none. -/
def IsSign (g : List Char) : Prop := g = [] ∨ g = ['+'] ∨ g = ['-']

/-- The word `nan` in any case. -/
def IsNanWord (w : List Char) : Prop := w.map Char.toLower = ['n', 'a', 'n']

/-- A sign and the word `nan`, with padding around them. -/
inductive SpellsNan : List Char → Prop where
  | mk {before g w after : List Char} (hbefore : ∀ c ∈ before, IsPadding c) (hg : IsSign g)
      (hw : IsNanWord w) (hafter : ∀ c ∈ after, IsPadding c) :
      SpellsNan (before ++ (g ++ w) ++ after)

/-- One text counts as the other, character by character. -/
abbrev CountsAs : List Char → List Char → Prop := List.Forall₂ fun c d ↦ plain? c = some d

/-! ## Single characters -/

theorem digit?_le {n : Nat} (h : Text.digit? c = some n) : n ≤ 9 := by
  obtain ⟨z, hz, rfl⟩ := Option.map_eq_some_iff.1 h
  have := List.find?_some hz
  simp only [Bool.and_eq_true, decide_eq_true_eq] at this
  omega

/-- A character counts as itself, as a space or as a digit. -/
theorem plain?_cases (h : plain? c = some d) :
    c.toNat < 0x80 ∧ c = d ∨ 0x80 ≤ c.toNat ∧ Text.isBlank c = true ∧ d = ' ' ∨
      0x80 ≤ c.toNat ∧ Text.isBlank c = false ∧ d.isDigit = true := by
  unfold plain? at h
  split at h
  · rename_i hascii
    exact .inl ⟨hascii, Option.some_inj.1 h⟩
  · rename_i hascii
    have hascii' : 0x80 ≤ c.toNat := Nat.le_of_not_lt hascii
    split at h
    · rename_i hblank
      exact .inr (.inl ⟨hascii', hblank, (Option.some_inj.1 h).symm⟩)
    · rename_i hblank
      obtain ⟨n, hn, rfl⟩ := Option.map_eq_some_iff.1 h
      refine .inr (.inr ⟨hascii', by simpa using hblank, ?_⟩)
      have hall : ∀ n < 10, (Char.ofNat ('0'.toNat + n)).isDigit = true := by decide
      exact hall n (Nat.lt_succ_of_le (digit?_le hn))

theorem plain?_of_ascii (h : c.toNat < 0x80) : plain? c = some c := by
  rw [plain?, if_pos h]

theorem isSpace_iff : isSpace c = true ↔ c.toNat = 32 ∨ 9 ≤ c.toNat ∧ c.toNat ≤ 13 := by
  have hspace : c = ' ' ↔ c.toNat = 32 := Char.toNat_inj.symm
  simp only [isSpace, Bool.or_eq_true, Bool.and_eq_true, decide_eq_true_eq, beq_iff_eq, hspace]

theorem isPadding_of_ascii (h : c.toNat < 0x80) : IsPadding c ↔ isSpace c = true := by
  rw [isSpace_iff, IsPadding, Text.isBlank, Text.inRanges_iff]
  simp only [Text.blankRanges, List.mem_cons, List.not_mem_nil, or_false, exists_eq_or_imp,
    exists_eq_left]
  omega

/-- Padding is what counts as a space. -/
theorem isPadding_iff : IsPadding c ↔ ∃ d, plain? c = some d ∧ isSpace d = true := by
  by_cases hascii : c.toNat < 0x80
  · simp [isPadding_of_ascii hascii, plain?_of_ascii hascii]
  · constructor
    · rintro ⟨hblank, -⟩
      exact ⟨' ', by rw [plain?, if_neg hascii, if_pos hblank], rfl⟩
    · rintro ⟨d, hd, hspace⟩
      rcases plain?_cases hd with ⟨hascii', -⟩ | ⟨-, hblank, -⟩ | ⟨-, -, hdigit⟩
      · exact absurd hascii' hascii
      · exact ⟨hblank, by omega⟩
      · rw [isSpace_iff] at hspace
        simp only [Char.isDigit, Bool.and_eq_true, decide_eq_true_eq] at hdigit
        have hlow : 48 ≤ d.toNat := hdigit.1
        omega

/-- What counts as a character that is neither a space nor a digit is that character. -/
theorem eq_of_plain? (h : plain? c = some d) (hspace : isSpace d = false)
    (hdigit : d.isDigit = false) : c = d := by
  rcases plain?_cases h with ⟨-, heq⟩ | ⟨-, -, rfl⟩ | ⟨-, -, hdigit'⟩
  · exact heq
  · cases hspace
  · exact absurd hdigit' (Bool.eq_false_iff.1 hdigit)

/-! ## Texts -/

theorem mapM_eq_some {α β : Type} {f : α → Option β} {l : List α} {m : List β} :
    l.mapM f = some m ↔ List.Forall₂ (fun x y ↦ f x = some y) l m := by
  induction l generalizing m with
  | nil => simp [eq_comm]
  | cons x l ih =>
      simp only [List.mapM_cons, List.forall₂_cons_left_iff, ← ih, Option.bind_eq_bind,
        Option.bind_eq_some_iff, Option.pure_def, Option.some_inj]
      constructor
      · rintro ⟨y, hy, m', hm', rfl⟩
        exact ⟨y, m', hy, hm', rfl⟩
      · rintro ⟨y, m', hy, hm', rfl⟩
        exact ⟨y, hy, m', hm', rfl⟩

theorem exists_append_of_countsAs (h : CountsAs s (a ++ b)) :
    ∃ s₁ s₂, s = s₁ ++ s₂ ∧ CountsAs s₁ a ∧ CountsAs s₂ b :=
  ⟨s.take a.length, s.drop a.length, (List.take_append_drop a.length s).symm,
    List.forall₂_take_append s a b h, List.forall₂_drop_append s a b h⟩

theorem joinDigits?_of_notMem (hs : '_' ∉ s) (hc : c ≠ '_') : joinDigits? c s = some s := by
  induction s generalizing c with
  | nil => rw [joinDigits?, if_neg hc]
  | cons d s ih =>
      obtain ⟨hd, hs⟩ := not_or.1 (mt List.mem_cons.2 hs)
      rw [joinDigits?, if_neg (Ne.symm hd), if_neg (fun h ↦ hc h.1), ih hs (Ne.symm hd),
        Option.map_some]

/-- Underscores stand between digits only, so that none goes where no digit is left. -/
theorem eq_of_joinDigits? (h : joinDigits? c s = some t) (hc : c ≠ '_') (hdigit : c.isDigit = false)
    (ht : ∀ d ∈ t, d.isDigit = false) : s = t := by
  induction s generalizing c t with
  | nil =>
      rw [joinDigits?, if_neg hc] at h
      exact Option.some_inj.1 h
  | cons d s ih =>
      rw [joinDigits?] at h
      split at h
      · rw [hdigit] at h
        cases h
      · rename_i hd
        rw [if_neg (fun h ↦ hc h.1)] at h
        obtain ⟨u, hu, rfl⟩ := Option.map_eq_some_iff.1 h
        obtain ⟨hd', hu'⟩ := List.forall_mem_cons.1 ht
        rw [ih hu hd hd' hu']

/-! ## Numbers -/

theorem nearest_ne_nan (negative : Bool) (num den : Nat) :
    Binary64.nearest negative num den ≠ .nan := by
  unfold Binary64.nearest Binary64.zero
  dsimp only
  split
  · nofun
  · rcases (if _ = Nat.pow 2 53 then _ else _ : Nat × Int) with ⟨m, e⟩
    dsimp only
    split <;> nofun

/-- No row of digits is read as NaN. -/
theorem ofDecimal_ne_nan (negative : Bool) (digits : Nat) (e : Int) :
    Binary64.ofDecimal negative digits e ≠ .nan := by
  unfold Binary64.ofDecimal Binary64.zero
  dsimp only
  split
  · nofun
  · split
    · nofun
    · split
      · nofun
      · split <;> exact nearest_ne_nan _ _ _

theorem unsigned?_eq_nan {negative : Bool} :
    unsigned? negative s = some .nan ↔ IsNanWord s := by
  unfold unsigned? IsNanWord
  dsimp only
  split_ifs with hinf hnan hnone
  · rcases hinf with h | h <;> simp [h]
  · simp [hnan]
  · simp [hnan]
  · refine iff_of_false ?_ hnan
    intro h
    obtain ⟨e, -, he⟩ := Option.map_eq_some_iff.1 h
    exact ofDecimal_ne_nan _ _ _ he

theorem exists_sign (s : List Char) : ∃ g, IsSign g ∧ s = g ++ (sign s).2 := by
  unfold sign
  split
  · exact ⟨['-'], .inr (.inr rfl), rfl⟩
  · exact ⟨['+'], .inr (.inl rfl), rfl⟩
  · exact ⟨[], .inl rfl, rfl⟩

/-! ## The form of the texts -/

/-- The characters of a sign and of the word `nan` count as themselves, and none of them is a space,
a digit or an underscore. -/
structure IsMark (c : Char) : Prop where
  ascii : c.toNat < 0x80
  space : isSpace c = false
  digit : c.isDigit = false
  underscore : c ≠ '_'

instance : DecidablePred IsMark := fun c ↦
  decidable_of_iff (c.toNat < 0x80 ∧ isSpace c = false ∧ c.isDigit = false ∧ c ≠ '_')
    ⟨fun ⟨ha, hs, hd, hu⟩ ↦ ⟨ha, hs, hd, hu⟩, fun h ↦ ⟨h.ascii, h.space, h.digit, h.underscore⟩⟩

theorem IsSign.isMark (hg : IsSign g) : ∀ c ∈ g, IsMark c := by
  intro c hc
  rcases hg with rfl | rfl | rfl
  · cases hc
  · rw [List.mem_singleton.1 hc]
    decide
  · rw [List.mem_singleton.1 hc]
    decide

theorem IsNanWord.isMark (hw : IsNanWord w) : ∀ c ∈ w, IsMark c := by
  intro c hc
  have hmem : c.toLower ∈ ['n', 'a', 'n'] := hw ▸ List.mem_map_of_mem hc
  rcases Text.toLower_cases c with hsame | hcapital
  · rw [hsame] at hmem
    simp only [List.mem_cons, List.not_mem_nil, or_false] at hmem
    rcases hmem with rfl | rfl | rfl <;> decide
  · exact Text.forall_capitals (by decide +kernel) c hcapital

theorem IsNanWord.ne_nil (hw : IsNanWord w) : w ≠ [] := by
  rintro rfl
  cases hw

theorem SpellsNan.ne_nil (h : SpellsNan s) : s ≠ [] := by
  obtain ⟨-, -, hw, -⟩ := h
  simp [hw.ne_nil]

theorem sign_append (hg : IsSign g) (hw : IsNanWord w) : (sign (g ++ w)).2 = w := by
  rcases hg with rfl | rfl | rfl
  · rw [List.nil_append]
    unfold sign
    split
    · cases (List.cons.inj hw).1
    · cases (List.cons.inj hw).1
    · rfl
  · rfl
  · rfl

theorem countsAs_of_isMark (hs : ∀ c ∈ s, IsMark c) :
    CountsAs s s :=
  List.forall₂_same.2 fun c hc ↦ plain?_of_ascii (hs c hc).ascii

/-- Every character of padding counts as a space. -/
theorem exists_spaces (ha : ∀ c ∈ a, IsPadding c) :
    ∃ b, CountsAs a b ∧ ∀ d ∈ b, isSpace d = true := by
  induction a with
  | nil => exact ⟨[], .nil, nofun⟩
  | cons c a ih =>
      obtain ⟨hc, ha⟩ := List.forall_mem_cons.1 ha
      obtain ⟨d, hd, hspace⟩ := isPadding_iff.1 hc
      obtain ⟨b, hb, hspaces⟩ := ih ha
      exact ⟨d :: b, .cons hd hb, List.forall_mem_cons.2 ⟨hspace, hspaces⟩⟩

theorem isPadding_of_countsAs (h : CountsAs a b)
    (hb : ∀ d ∈ b, isSpace d = true) : ∀ c ∈ a, IsPadding c := by
  induction h with
  | nil => nofun
  | cons hcd _ ih =>
      obtain ⟨hd, hb⟩ := List.forall_mem_cons.1 hb
      exact List.forall_mem_cons.2 ⟨isPadding_iff.2 ⟨_, hcd, hd⟩, ih hb⟩

theorem eq_of_countsAs (h : CountsAs s t)
    (ht : ∀ d ∈ t, IsMark d) : s = t := by
  induction h with
  | nil => rfl
  | cons hcd _ ih =>
      obtain ⟨hd, ht⟩ := List.forall_mem_cons.1 ht
      rw [eq_of_plain? hcd hd.space hd.digit, ih ht]

/-- The texts that are read as NaN. -/
theorem read?_eq_nan_iff {s : String} : read? s = some .nan ↔ SpellsNan s.toList := by
  constructor
  · intro h
    simp only [read?, Option.bind_eq_bind, Option.bind_eq_some_iff] at h
    obtain ⟨plain, hplain, joined, hjoined, hbody⟩ := h
    have hw : IsNanWord (sign joined).2 := unsigned?_eq_nan.1 hbody
    obtain ⟨g, hg, hsplit⟩ := exists_sign joined
    have hmarks : ∀ c ∈ g ++ (sign joined).2, IsMark c :=
      List.forall_mem_append.2 ⟨hg.isMark, hw.isMark⟩
    rw [← hsplit] at hmarks
    have hstrip : strip plain = joined :=
      eq_of_joinDigits? hjoined (by decide) rfl fun d hd ↦ (hmarks d hd).digit
    obtain ⟨a, b, hab, ha, hb⟩ := Text.exists_append_dropWhile isSpace plain
    change plain = a ++ strip plain ++ b at hab
    rw [hstrip] at hab
    have hcounts : CountsAs s.toList (a ++ joined ++ b) := hab ▸ mapM_eq_some.1 hplain
    obtain ⟨front, after, hs, hfront, hafter⟩ := exists_append_of_countsAs hcounts
    obtain ⟨before, middle, rfl, hbefore, hmiddle⟩ := exists_append_of_countsAs hfront
    rw [hs, eq_of_countsAs hmiddle hmarks, hsplit]
    exact .mk (isPadding_of_countsAs hbefore ha) hg hw (isPadding_of_countsAs hafter hb)
  · generalize htext : s.toList = text
    rintro @⟨before, g, w, after, hbefore, hg, hw, hafter⟩
    have hmarks : ∀ c ∈ g ++ w, IsMark c := List.forall_mem_append.2 ⟨hg.isMark, hw.isMark⟩
    obtain ⟨a, hbefore, ha⟩ := exists_spaces hbefore
    obtain ⟨b, hafter, hb⟩ := exists_spaces hafter
    have hplain : s.toList.mapM plain? = some (a ++ (g ++ w) ++ b) := by
      rw [htext]
      exact mapM_eq_some.2
        (List.rel_append (List.rel_append hbefore (countsAs_of_isMark hmarks)) hafter)
    have hne : g ++ w ≠ [] := List.append_ne_nil_of_right_ne_nil g hw.ne_nil
    have hstrip : strip (a ++ (g ++ w) ++ b) = g ++ w :=
      Text.dropWhile_append_append ha hb (fun c hc ↦ (hmarks c hc).space) hne
    have hjoined : joinDigits? ' ' (g ++ w) = some (g ++ w) :=
      joinDigits?_of_notMem (fun h ↦ (hmarks _ h).underscore rfl) (by decide)
    simp only [read?, Option.bind_eq_bind, hplain, Option.bind_some, hstrip, hjoined,
      sign_append hg hw, unsigned?_eq_nan, hw]

end ObjectLookup.Decimal
