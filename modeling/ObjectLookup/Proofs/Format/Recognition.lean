import ObjectLookup.Format
import ObjectLookup.Proofs.Text.LowerCase
import ObjectLookup.Text.Given

/-! # What a format is recognised by

A content type names a format if its essence is in the format's list of media types (`IsOfType`). A
file name names one if it ends in a dot and, in any case, an extension of the format (`IsOfName`).
Neither says anything about the order in which formats are tried, nor about where a name is cut:
media types and extensions are listed under one format only (`find?_known_eq_iff`), and no extension
has a dot or a slash in it, so that the last dot behind the last slash is the one that counts
(`extensionOf?_eq_some`). The formats recognised are those named: `elim_parse?_eq_iff`,
`ofFileName_eq_iff`. So a name is recognised by how it ends, and by nothing in front of its last
slash (`ofFileName_by_ending`).
-/

namespace ObjectLookup

/-! ## The text behind the last separator -/

namespace Text

variable {sep : Char} {s t a b : List Char}

theorem notMem_upTo : sep ∉ upTo sep s := by
  intro h
  simpa using List.all_eq_true.1 List.all_takeWhile sep h

theorem notMem_afterLast : sep ∉ afterLast sep s := by
  rw [afterLast, List.mem_reverse]
  exact notMem_upTo

/-- What is behind the last separator ends the text. -/
theorem exists_append_afterLast (sep : Char) (s : List Char) : ∃ d, s = d ++ afterLast sep s := by
  refine ⟨(s.reverse.dropWhile (· ≠ sep)).reverse, ?_⟩
  rw [afterLast, upTo, ← List.reverse_append, List.takeWhile_append_dropWhile, List.reverse_reverse]

/-- An end of the text without separators is behind the last one. -/
theorem afterLast_append (h : sep ∉ b) : afterLast sep (a ++ b) = afterLast sep a ++ b := by
  have hb : ∀ c ∈ b.reverse, decide (c ≠ sep) = true := by
    intro c hc
    exact decide_eq_true fun hsep ↦ h (hsep ▸ List.mem_reverse.1 hc)
  rw [afterLast, afterLast, upTo, upTo, List.reverse_append, List.takeWhile_append_of_pos hb,
    List.reverse_append, List.reverse_reverse]

/-- The text up to the first separator ends at any separator at the latest. -/
theorem upTo_append_cons : upTo sep (s ++ sep :: t) = upTo sep s := by
  have hstop : (sep :: t).takeWhile (· ≠ sep) = [] := by simp
  rw [upTo, upTo, List.takeWhile_append, hstop]
  split
  · rename_i h
    rw [List.append_nil, (List.takeWhile_prefix _).eq_of_length h]
  · rfl

theorem afterLast_append_cons : afterLast sep (a ++ sep :: b) = afterLast sep b := by
  have hreverse : (a ++ sep :: b).reverse = b.reverse ++ sep :: a.reverse := by simp
  rw [afterLast, hreverse, upTo_append_cons, afterLast]

end Text

namespace Format

/-! ## Names of formats -/

/-- The content type, without parameters and blanks around it and in lower case, is a media type of
the format. -/
def IsOfType (f : Format) (contentType : Option String) : Prop :=
  f ≠ .unknown ∧
    ∃ t, contentType = some t ∧ String.ofList (MediaType.essence t.toList) ∈ f.mediaTypes

/-- The name ends in a dot and an extension of the format. -/
def IsOfName (f : Format) (name : String) : Prop :=
  f ≠ .unknown ∧
    ∃ p e, name.toList = p ++ '.' :: e ∧ Text.lower (String.ofList e) ∈ f.extensions

/-- If no text is listed under two formats, the format found is the one that the text is listed
under. -/
theorem find?_known_eq_iff {listed : Format → List String}
    (hone : ∀ f ∈ known, ∀ g ∈ known, ∀ x ∈ listed f, x ∈ listed g → f = g) {f : Format}
    (hf : f ≠ .unknown) (x : String) :
    (known.find? fun g ↦ x ∈ listed g).getD .unknown = f ↔ x ∈ listed f := by
  rcases hfound : known.find? fun g ↦ decide (x ∈ listed g) with _ | g
  · have hnone : x ∉ listed f := by
      simpa using List.find?_eq_none.1 hfound f (mem_known.2 hf)
    exact ⟨fun h ↦ absurd h.symm hf, fun h ↦ absurd h hnone⟩
  · have hg : x ∈ listed g := by simpa using List.find?_some hfound
    constructor
    · rintro rfl
      exact hg
    · exact fun h ↦ hone g (List.mem_of_find?_eq_some hfound) f (mem_known.2 hf) x hg h

/-! ## Recognition by content type -/

theorem eq_of_mem_mediaTypes :
    ∀ f ∈ known, ∀ g ∈ known, ∀ x ∈ f.mediaTypes, x ∈ g.mediaTypes → f = g := by
  decide +kernel

/-- Whatever is listed as a media type is one. -/
theorem isSome_ofEssence?_of_mem :
    ∀ f ∈ known, ∀ x ∈ f.mediaTypes, (MediaType.ofEssence? x.toList).isSome := by
  decide +kernel

theorem ofMediaType_eq_iff {f : Format} (hf : f ≠ .unknown) (m : MediaType) :
    ofMediaType m = f ↔ m.text ∈ f.mediaTypes :=
  find?_known_eq_iff eq_of_mem_mediaTypes hf m.text

/-- The text of a media type is the essence that it was read from. -/
theorem text_of_parse? {t : String} {m : MediaType} (h : MediaType.parse? t = some m) :
    m.text = String.ofList (MediaType.essence t.toList) := by
  have hparts := (MediaType.ofEssence?_eq_some.1 h).1
  rw [hparts, MediaType.text]
  apply String.toList_injective
  simp

/-- The format found by a content type is the one that it names. -/
theorem elim_parse?_eq_iff {f : Format} (hf : f ≠ .unknown) (contentType : Option String) :
    ((given? contentType).bind MediaType.parse?).elim .unknown ofMediaType = f ↔
      f.IsOfType contentType := by
  constructor
  · intro h
    rcases ht : given? contentType with _ | t
    · rw [ht] at h
      exact absurd h.symm hf
    · rcases hm : MediaType.parse? t with _ | m
      · rw [ht, Option.bind_some, hm] at h
        exact absurd h.symm hf
      · rw [ht, Option.bind_some, hm] at h
        have hlisted := (ofMediaType_eq_iff hf m).1 h
        rw [text_of_parse? hm] at hlisted
        exact ⟨hf, t, (given?_eq_some.1 ht).1, hlisted⟩
  · rintro ⟨-, t, rfl, hlisted⟩
    have hsome := isSome_ofEssence?_of_mem f (mem_known.2 hf) _ hlisted
    rw [String.toList_ofList] at hsome
    obtain ⟨m, hm⟩ := Option.isSome_iff_exists.1 hsome
    have hne : t ≠ "" := by
      rintro rfl
      cases hm
    rw [given?_eq_some.2 ⟨rfl, hne⟩, Option.bind_some]
    change (MediaType.ofEssence? _).elim .unknown ofMediaType = f
    rw [hm]
    exact (ofMediaType_eq_iff hf m).2 (text_of_parse? hm ▸ hlisted)

/-! ## Recognition by name -/

theorem eq_of_mem_extensions :
    ∀ f ∈ known, ∀ g ∈ known, ∀ x ∈ f.extensions, x ∈ g.extensions → f = g := by
  decide +kernel

/-- No extension is empty, nor has a dot or a slash in it. -/
theorem mem_extensions :
    ∀ f ∈ known, ∀ x ∈ f.extensions, x.toList ≠ [] ∧ '.' ∉ x.toList ∧ '/' ∉ x.toList := by
  decide +kernel

/-- The extension of a name is the text that it ends in behind a dot, without dots and slashes. -/
theorem extensionOf?_eq_some {name e : List Char} :
    extensionOf? name = some e ↔ e ≠ [] ∧ '.' ∉ e ∧ '/' ∉ e ∧ ∃ p, name = p ++ '.' :: e := by
  constructor
  · intro h
    unfold extensionOf? at h
    split at h
    · rename_i q e' hcut
      split at h
      · cases h
      · cases h
        obtain ⟨hlast, hdot⟩ := Text.cutLast?_eq_some.1 hcut
        have hslash : '/' ∉ q ++ '.' :: e := hlast ▸ Text.notMem_afterLast
        obtain ⟨d, hd⟩ := Text.exists_append_afterLast '/' name
        refine ⟨‹_›, hdot, fun he ↦ hslash (by simp [he]), d ++ q, ?_⟩
        rw [List.append_assoc, ← hlast]
        exact hd
    · cases h
  · rintro ⟨hne, hdot, hslash, p, rfl⟩
    have hlast : Text.afterLast '/' (p ++ '.' :: e) = Text.afterLast '/' p ++ '.' :: e :=
      Text.afterLast_append (by simpa using hslash)
    rw [extensionOf?, hlast, Text.cutLast?_eq_some.2 ⟨rfl, hdot⟩]
    exact if_neg hne

theorem ofExtension_eq_iff {f : Format} (hf : f ≠ .unknown) (extension : String) :
    ofExtension extension = f ↔ Text.lower extension ∈ f.extensions :=
  find?_known_eq_iff eq_of_mem_extensions hf (Text.lower extension)

/-- The format found by a name is the one that it names. -/
theorem ofFileName_eq_iff {f : Format} (hf : f ≠ .unknown) (name : String) :
    ofFileName name = f ↔ f.IsOfName name := by
  constructor
  · intro h
    rcases he : extensionOf? name.toList with _ | e
    · rw [ofFileName, he] at h
      exact absurd h.symm hf
    · rw [ofFileName, he] at h
      obtain ⟨-, -, -, p, hp⟩ := extensionOf?_eq_some.1 he
      exact ⟨hf, p, e, hp, (ofExtension_eq_iff hf _).1 h⟩
  · rintro ⟨-, p, e, hp, hlisted⟩
    obtain ⟨hne, hdot, hslash⟩ := mem_extensions f (mem_known.2 hf) _ hlisted
    have hdotted : '.' ∉ e := fun h ↦ hdot (Text.mem_toList_lower Text.isLower_dot h)
    have hslashed : '/' ∉ e := fun h ↦ hslash (Text.mem_toList_lower Text.isLower_slash h)
    have hempty : e ≠ [] := by
      rintro rfl
      exact hne rfl
    have he : extensionOf? name.toList = some e :=
      extensionOf?_eq_some.2 ⟨hempty, hdotted, hslashed, p, hp⟩
    rw [ofFileName, he]
    exact (ofExtension_eq_iff hf _).2 hlisted

/-! ## Endings of names -/

theorem isOfName_iff {f : Format} {name : String} : f.IsOfName name ↔
    f ≠ .unknown ∧ ∃ p e, name = p ++ "." ++ e ∧ Text.lower e ∈ f.extensions := by
  refine and_congr_right fun _ ↦ ⟨?_, ?_⟩
  · rintro ⟨p, e, hname, he⟩
    refine ⟨.ofList p, .ofList e, String.toList_injective ?_, he⟩
    simpa using hname
  · rintro ⟨p, e, rfl, he⟩
    refine ⟨p.toList, e.toList, by simp, ?_⟩
    rwa [String.ofList_toList]

theorem ofFileName_of_afterLast {name name' : String}
    (h : Text.afterLast '/' name.toList = Text.afterLast '/' name'.toList) :
    ofFileName name = ofFileName name' := by
  rw [ofFileName, ofFileName, extensionOf?, extensionOf?, h]

theorem ofFileName_of_no_dot {name : String} (h : '.' ∉ name.toList) :
    ofFileName name = .unknown := by
  refine Decidable.byContradiction fun hne ↦ ?_
  obtain ⟨-, p, e, hname, -⟩ := (ofFileName_eq_iff hne name).1 rfl
  exact h (by simp [hname])

/-- No extension, that of unknown formats included, has a dot in it. -/
theorem dot_notMem_extensions : ∀ f : Format, ∀ x ∈ f.extensions, '.' ∉ x.toList := by
  intro f
  cases f <;> decide +kernel

/-- A text that an extension is the lower case of has no dot in it. -/
theorem dot_notMem_of_lower {f : Format} {e : List Char}
    (h : Text.lower (.ofList e) ∈ f.extensions) : '.' ∉ e := fun hdot ↦
  dot_notMem_extensions f _ h (Text.mem_toList_lower Text.isLower_dot hdot)

/-- What unknown formats are shown with is no extension of a known one. -/
theorem notMem_extensions_of_unknown :
    ∀ f ∈ known, ∀ x ∈ Format.unknown.extensions, x ∉ f.extensions := by
  decide +kernel

/-- A name that ends in the extension of unknown formats is of no known format. -/
theorem ofFileName_of_unknown {p e : String} (h : Text.lower e ∈ Format.unknown.extensions) :
    ofFileName (p ++ "." ++ e) = .unknown := by
  refine Decidable.byContradiction fun hne ↦ ?_
  obtain ⟨-, q, x, hname, hx⟩ := (ofFileName_eq_iff hne _).1 rfl
  rw [← String.ofList_toList (s := e)] at h
  have hcut : Text.cutLast? '.' (p ++ "." ++ e).toList = some (p.toList, e.toList) :=
    Text.cutLast?_eq_some.2 ⟨by simp, dot_notMem_of_lower h⟩
  rw [Text.cutLast?_eq_some.2 ⟨hname, dot_notMem_of_lower hx⟩] at hcut
  cases hcut
  exact notMem_extensions_of_unknown _ (mem_known.2 hne) _ h hx

/-- Of which format a name is, it says by its end alone: it is of a known format if and only if it
is some text, a dot, and one of the extensions of the format in any case. So nothing counts but what
is behind the last slash. The directories in front of it may have any dots, and what unknown formats
are shown with is no extension. -/
theorem ofFileName_by_ending :
    (∀ (name : String) (f : Format), f ≠ .unknown →
      (ofFileName name = f ↔
        ∃ p e : String, name = p ++ "." ++ e ∧ Text.lower e ∈ f.extensions)) ∧
    (∀ name name' : String, Text.afterLast '/' name.toList = Text.afterLast '/' name'.toList →
      ofFileName name = ofFileName name') ∧
    (∀ d name : String, ofFileName (d ++ "/" ++ name) = ofFileName name) ∧
    (∀ d name : String, '.' ∉ name.toList → ofFileName (d ++ "/" ++ name) = .unknown) ∧
    ∀ p e : String, Text.lower e ∈ Format.unknown.extensions →
      ofFileName (p ++ "." ++ e) = .unknown := by
  have hdirectory (d name : String) : ofFileName (d ++ "/" ++ name) = ofFileName name := by
    apply ofFileName_of_afterLast
    simp [Text.afterLast_append_cons]
  refine ⟨?_, fun _ _ ↦ ofFileName_of_afterLast, hdirectory, ?_, ?_⟩
  · intro name f hf
    rw [ofFileName_eq_iff hf, isOfName_iff]
    exact and_iff_right hf
  · intro d name hdot
    rw [hdirectory]
    exact ofFileName_of_no_dot hdot
  · exact fun p e ↦ ofFileName_of_unknown

/-- The Kelvin sign is a capital k, what is before the last slash is no part of the name, and
nothing is recognised as unknown. -/
theorem ofFileName_by_ending_kelvin :
    ofFileName "scans.gif/a.J2\u212A" = .jp2 ∧
    ofFileName "scans.gif/a" = ofFileName "scans.png/a" ∧
    ofFileName ("scans.gif" ++ "/" ++ "a") = .unknown ∧
    ofFileName ("a.gif" ++ "." ++ "UNKNOWN") = .unknown := by
  obtain ⟨hending, hlast, -, hdot, hunknown⟩ := ofFileName_by_ending
  refine ⟨?_, ?_, ?_, ?_⟩
  · have hjp2 := hending "scans.gif/a.J2\u212A" .jp2 (by decide)
    refine hjp2.2 ⟨"scans.gif/a", "J2\u212A", ?_, ?_⟩ <;> decide +kernel
  · exact hlast "scans.gif/a" "scans.png/a" (by decide +kernel)
  · exact hdot "scans.gif" "a" (by decide +kernel)
  · exact hunknown "a.gif" "UNKNOWN" (by decide +kernel)

end Format

end ObjectLookup
