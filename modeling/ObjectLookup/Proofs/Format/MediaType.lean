import ObjectLookup.Proofs.Format.Recognition
import ObjectLookup.Proofs.Text.Trimming

/-! # Reading media types

What counts of a value is what stands before its first semicolon, without the blanks around it
(`bare`). It is read if it is two texts without slashes, none of them empty, with a slash between
them, and what is read are these texts in lower case (`parse?_eq_some_iff`). Lower case adds no
slash, no semicolon and no blank at an end, so that a media type that was read is read again from
its own text (`essence_essence`). All values that have one text between blanks, with parameters or
without (`Carries`), are read alike, and so are values that differ in the case of ASCII letters.
-/

namespace ObjectLookup

/-! ## Cutting, trimming and lower case -/

namespace Text

variable {sep : Char} {s a b : List Char}

theorem upTo_of_notMem (h : sep ∉ s) : upTo sep s = s := by
  have hall : ∀ c ∈ s, decide (c ≠ sep) = true := fun c hc ↦
    decide_eq_true fun hsep ↦ h (hsep ▸ hc)
  rw [upTo, ← List.append_nil s, List.takeWhile_append_of_pos hall, List.takeWhile_nil]

/-- A change of characters that leaves the separator alone, and makes no new one, can be made before
or after cutting. -/
theorem upTo_map {f : Char → Char} (h : ∀ c, f c = sep ↔ c = sep) (s : List Char) :
    upTo sep (s.map f) = (upTo sep s).map f := by
  have hcomp : (fun c ↦ decide (c ≠ sep)) ∘ f = fun c ↦ decide (c ≠ sep) := by
    funext c
    simp [h c]
  rw [upTo, List.takeWhile_map, hcomp, upTo]

/-- What is behind the text up to the first separator is nothing, or it begins with that. -/
theorem eq_upTo_or (sep : Char) (s : List Char) :
    s = upTo sep s ∨ ∃ p, s = upTo sep s ++ sep :: p := by
  rcases hcut : cutFirst? sep s with _ | ⟨a, p⟩
  · exact .inl (upTo_of_notMem (cutFirst?_eq_none.1 hcut)).symm
  · obtain ⟨rfl, ha⟩ := cutFirst?_eq_some.1 hcut
    refine .inr ⟨p, ?_⟩
    rw [upTo_append_cons, upTo_of_notMem ha]

theorem slash_mem_lowerChars : '/' ∈ lowerChars s ↔ '/' ∈ s := by
  constructor
  · intro h
    obtain ⟨c, hc, heq⟩ := isCaseless_slash.exists_of_mem_lowerFrom h
    obtain rfl : c = '/' := by simpa using heq.symm
    exact hc
  · exact fun h ↦ mem_lowerFrom isLower_slash h []

/-- A text is cut at a slash where its lower case is. -/
theorem cutFirst?_lowerChars (s : List Char) : cutFirst? '/' (lowerChars s) =
    (cutFirst? '/' s).map fun p ↦ (lowerChars p.1, lowerChars p.2) := by
  rcases hcut : cutFirst? '/' s with _ | ⟨a, b⟩
  · have hnone := cutFirst?_eq_none.1 hcut
    exact cutFirst?_eq_none.2 fun h ↦ hnone (slash_mem_lowerChars.1 h)
  · obtain ⟨rfl, ha⟩ := cutFirst?_eq_some.1 hcut
    refine cutFirst?_eq_some.2 ⟨isBarrier_slash.lowerChars_append_cons a b, ?_⟩
    exact fun h ↦ ha (slash_mem_lowerChars.1 h)

end Text

namespace MediaType

variable {v w : String} {m : MediaType}

/-! ## The part that counts -/

/-- What is before the first semicolon, without the blanks around it. -/
def bare (v : String) : String := Text.trim (String.ofList (Text.upTo ';' v.toList))

theorem toList_bare : (bare v).toList = Text.trimChars (Text.upTo ';' v.toList) := by
  simp [bare, Text.trim]

theorem parse?_eq : parse? v = ofEssence? (Text.lowerChars (bare v).toList) := by
  rw [toList_bare]
  rfl

theorem parse_eq_ok_iff : parse (some v) = .ok m ↔ parse? v = some m := by
  rw [parse, Option.getD_some]
  cases parse? v <;> simp

/-- A value that is not read is quoted. -/
theorem parse_of_parse?_eq_none (h : parse? v = none) :
    parse (some v) = .error (.invalidValue ("Invalid media type: " ++ Text.quoted v)) := by
  rw [parse, Option.getD_some, h, Text.quoted?_some]

/-- Both values are read, as one media type and so of one format, or none is. -/
structure ReadAlike (v w : String) : Prop where
  value : (parse (some v)).toOption = (parse (some w)).toOption
  format : (parse (some v)).toOption.map Format.ofMediaType =
    (parse (some w)).toOption.map Format.ofMediaType

namespace ReadAlike

theorem of_parse? (h : parse? v = parse? w) : ReadAlike v w := by
  have hoption (x : String) : (parse (some x)).toOption = parse? x := by
    rw [parse, Option.getD_some]
    cases parse? x <;> rfl
  constructor <;> rw [hoption, hoption, h]

theorem of_bare (h : bare v = bare w) : ReadAlike v w := by
  apply of_parse?
  rw [parse?_eq, parse?_eq, h]

end ReadAlike

/-! ## The grammar -/

/-- Two texts with the only slash between them. -/
structure HasParts (s main sub : String) : Prop where
  eq : s = main ++ "/" ++ sub
  main_ne : main ≠ ""
  sub_ne : sub ≠ ""
  main_slash : '/' ∉ main.toList
  sub_slash : '/' ∉ sub.toList

theorem HasParts.cutFirst? {s main sub : String} (h : HasParts s main sub) :
    Text.cutFirst? '/' s.toList = some (main.toList, sub.toList) :=
  Text.cutFirst?_eq_some.2 ⟨by simp [h.eq], h.main_slash⟩

/-- What is read of a value are the lower cases of its two parts. -/
theorem parse?_eq_some_iff : parse? v = some m ↔
    ∃ main sub, HasParts (bare v) main sub ∧ m = ⟨Text.lower main, Text.lower sub⟩ := by
  rw [parse?_eq, ofEssence?, Text.cutFirst?_lowerChars]
  constructor
  · intro h
    rcases hcut : Text.cutFirst? '/' (bare v).toList with _ | ⟨main, sub⟩
    · rw [hcut] at h
      cases h
    · simp only [hcut, Option.map_some, Text.slash_mem_lowerChars, Text.lowerChars_eq_nil,
        ne_eq] at h
      split at h
      · rename_i hparts
        obtain ⟨heq, hslash⟩ := Text.cutFirst?_eq_some.1 hcut
        refine ⟨.ofList main, .ofList sub, ⟨?_, ?_, ?_, ?_, ?_⟩, ?_⟩
        · apply String.toList_injective
          simp [heq]
        · simpa using hparts.1
        · simpa using hparts.2.1
        · simpa using hslash
        · simpa using hparts.2.2
        · simpa [Text.lower] using (Option.some.inj h).symm
      · cases h
  · rintro ⟨main, sub, h, rfl⟩
    have hparts : main.toList ≠ [] ∧ sub.toList ≠ [] ∧ '/' ∉ sub.toList := by
      simpa using ⟨h.main_ne, h.sub_ne, h.sub_slash⟩
    simp [h.cutFirst?, Text.slash_mem_lowerChars, Text.lowerChars_eq_nil, hparts, Text.lower]

/-! ## Reading what was read -/

theorem notMem_essence (s : List Char) : ';' ∉ essence s := by
  intro h
  obtain ⟨c, hc, heq⟩ := Text.isCaseless_semicolon.exists_of_mem_lowerFrom h
  obtain rfl : c = ';' := by simpa using heq.symm
  exact Text.notMem_upTo (Text.mem_of_mem_trimChars hc)

theorem isTrimmed_essence (s : List Char) : Text.IsTrimmed (essence s) where
  head := by
    rw [essence, Text.lowerChars, Text.isCaseless_isBlank.head?_lowerFrom]
    exact (Text.isTrimmed_trimChars _).head
  last := by
    rw [essence, Text.lowerChars, Text.isCaseless_isBlank.getLast?_lowerFrom]
    exact (Text.isTrimmed_trimChars _).last

/-- Nothing is left to take off an essence. -/
theorem essence_essence (s : List Char) : essence (essence s) = essence s := by
  rw [essence, Text.upTo_of_notMem (notMem_essence s),
    Text.trimChars_of_isTrimmed (isTrimmed_essence s), essence, Text.lowerChars_lowerChars]

theorem parse?_text (h : parse? v = some m) : parse? m.text = some m := by
  rw [Format.text_of_parse? h, parse?, String.toList_ofList, essence_essence]
  exact h

/-! ## What does not count -/

theorem bare_of_parameter (v p : String) : bare (v ++ ";" ++ p) = bare v := by
  apply String.toList_injective
  simp [toList_bare, Text.upTo_append_cons]

/-- A value that has the text between blanks, and parameters behind it or nothing. -/
inductive Carries (e : String) : String → Prop where
  | plain {a b : String} (ha : ∀ c ∈ a.toList, Text.isBlank c = true)
      (hb : ∀ c ∈ b.toList, Text.isBlank c = true) : Carries e (a ++ e ++ b)
  | parameters {w : String} (hw : Carries e w) (p : String) : Carries e (w ++ ";" ++ p)

theorem carries_bare (v : String) : Carries (bare v) v := by
  obtain ⟨a, b, hsplit, ha, hb⟩ := Text.exists_append_trimChars (Text.upTo ';' v.toList)
  have hplain : Carries (bare v) (String.ofList a ++ bare v ++ String.ofList b) :=
    .plain (by simpa using ha) (by simpa using hb)
  have hupTo : String.ofList a ++ bare v ++ String.ofList b =
      String.ofList (Text.upTo ';' v.toList) := by
    apply String.toList_injective
    rw [String.toList_ofList, hsplit]
    simp [toList_bare]
  rw [hupTo] at hplain
  rcases Text.eq_upTo_or ';' v.toList with hv | ⟨p, hv⟩
  · rwa [← hv, String.ofList_toList] at hplain
  · have hparameters : v = String.ofList (Text.upTo ';' v.toList) ++ ";" ++ String.ofList p := by
      apply String.toList_injective
      simpa using hv
    have hcarries := hplain.parameters (String.ofList p)
    rwa [← hparameters] at hcarries

/-- What a value carries between blanks is all that it is read by. -/
theorem bare_of_carries (h : Carries (bare v) w) : bare w = bare v := by
  induction h with
  | @plain a b ha hb =>
      have hblank {s : String} (hs : ∀ c ∈ s.toList, Text.isBlank c = true) : ';' ∉ s.toList :=
        fun h ↦ absurd (hs ';' h) (by decide)
      have hbare : ';' ∉ (bare v).toList := by
        rw [toList_bare]
        exact fun h ↦ Text.notMem_upTo (Text.mem_of_mem_trimChars h)
      have hnone : ';' ∉ (a ++ bare v ++ b).toList := by
        simp [hblank ha, hblank hb, hbare]
      apply String.toList_injective
      rw [toList_bare, Text.upTo_of_notMem hnone, String.toList_append, String.toList_append,
        Text.trimChars_append ha hb, toList_bare, Text.trimChars_trimChars]
  | parameters _ p ih => rw [bare_of_parameter, ih]

theorem essence_map_toLower (s : List Char) : essence (s.map Char.toLower) = essence s := by
  have hsemicolon : ∀ c : Char, c.toLower = ';' ↔ c = ';' :=
    Text.toLower_eq_iff (Text.forall_capitals (by decide +kernel))
  rw [essence, Text.upTo_map hsemicolon, Text.trimChars_map Text.isBlank_toLower,
    Text.lowerChars_toLower, essence]

theorem parse?_of_map_toLower (h : v.toList.map Char.toLower = w.toList.map Char.toLower) :
    parse? v = parse? w := by
  rw [parse?, ← essence_map_toLower, h, essence_map_toLower, parse?]

/-- A value is read if and only if its essence is two texts without slashes, none of them empty,
with a slash between them: then these are read in lower case, and otherwise the value is refused by
its own text. What is read is read again from its text. It depends neither on parameters nor on
blanks around the essence nor on the case of ASCII letters. -/
theorem parse_by_essence (v : String) :
    ((∃ m, parse (some v) = .ok m) ↔ ∃ main sub, HasParts (bare v) main sub) ∧
    (∀ main sub, HasParts (bare v) main sub →
      parse (some v) = .ok ⟨Text.lower main, Text.lower sub⟩) ∧
    ((¬ ∃ main sub, HasParts (bare v) main sub) →
      parse (some v) = .error (.invalidValue ("Invalid media type: " ++ Text.quoted v))) ∧
    (∀ m, parse (some v) = .ok m → parse (some m.text) = .ok m) ∧
    (∀ p, ReadAlike (v ++ ";" ++ p) v) ∧
    (Carries (bare v) v ∧ ∀ w, Carries (bare v) w → ReadAlike w v) ∧
    ∀ w : String, w.toList.map Char.toLower = v.toList.map Char.toLower → ReadAlike w v := by
  simp only [parse_eq_ok_iff]
  refine ⟨?_, ?_, ?_, ?_, ?_, ⟨carries_bare v, ?_⟩, ?_⟩
  · constructor
    · rintro ⟨m, hm⟩
      obtain ⟨main, sub, hparts, -⟩ := parse?_eq_some_iff.1 hm
      exact ⟨main, sub, hparts⟩
    · rintro ⟨main, sub, hparts⟩
      exact ⟨_, parse?_eq_some_iff.2 ⟨main, sub, hparts, rfl⟩⟩
  · exact fun main sub hparts ↦ parse?_eq_some_iff.2 ⟨main, sub, hparts, rfl⟩
  · intro hparts
    apply parse_of_parse?_eq_none
    rw [Option.eq_none_iff_forall_not_mem]
    intro m hm
    obtain ⟨main, sub, h, -⟩ := parse?_eq_some_iff.1 hm
    exact hparts ⟨main, sub, h⟩
  · exact fun m ↦ parse?_text
  · exact fun p ↦ .of_bare (bare_of_parameter v p)
  · exact fun w hw ↦ .of_bare (bare_of_carries hw)
  · exact fun w hw ↦ .of_parse? (parse?_of_map_toLower hw)

/-- A slash in a parameter does not count, nor does a blank that the essence ends in. A blank next
to the slash is kept. -/
theorem parse_by_essence_dressed :
    parse (some "\u00A0IMAGE/ Pjpeg\t;q=a/b") = .ok ⟨"image", " pjpeg"⟩ ∧
    parse (some (MediaType.mk "image" " pjpeg").text) = .ok ⟨"image", " pjpeg"⟩ ∧
    ReadAlike ("\u3000" ++ bare "image/gif" ++ "\n" ++ ";" ++ "a/b") "image/gif" ∧
    ReadAlike "Image/GIF" "image/gif" ∧
    parse (some "image//gif") =
      .error (.invalidValue ("Invalid media type: " ++ Text.quoted "image//gif")) := by
  obtain ⟨-, hread, -, hagain, -⟩ := parse_by_essence "\u00A0IMAGE/ Pjpeg\t;q=a/b"
  obtain ⟨-, -, -, -, -, ⟨-, hblanks⟩, hcase⟩ := parse_by_essence "image/gif"
  obtain ⟨-, -, hrefused, -⟩ := parse_by_essence "image//gif"
  have hjpeg : parse (some "\u00A0IMAGE/ Pjpeg\t;q=a/b") = .ok ⟨"image", " pjpeg"⟩ := by
    have hparts : HasParts (bare "\u00A0IMAGE/ Pjpeg\t;q=a/b") "IMAGE" " Pjpeg" := by
      constructor <;> decide +kernel
    have hlower : Text.lower "IMAGE" = "image" ∧ Text.lower " Pjpeg" = " pjpeg" := by
      decide +kernel
    rw [hread _ _ hparts, hlower.1, hlower.2]
  refine ⟨hjpeg, hagain _ hjpeg, hblanks _ ?_, hcase _ (by decide +kernel), hrefused ?_⟩
  · have hideographic : ∀ c ∈ "\u3000".toList, Text.isBlank c = true :=
      List.all_eq_true.1 (by decide +kernel)
    have hnewline : ∀ c ∈ "\n".toList, Text.isBlank c = true :=
      List.all_eq_true.1 (by decide +kernel)
    exact .parameters (.plain hideographic hnewline) "a/b"
  · rintro ⟨main, sub, hparts⟩
    have hnone : parse? "image//gif" = none := by decide +kernel
    rw [parse?_eq_some_iff.2 ⟨main, sub, hparts, rfl⟩] at hnone
    cases hnone

end MediaType

end ObjectLookup
