import ObjectLookup.Proofs.Text.Rows
import ObjectLookup.Settings
import ObjectLookup.Text.Blank

/-! # Which endpoints and delegate targets are accepted

The forms of an endpoint and of a delegate target are stated here without the readers: a text is put
together from parts, each of characters of its own kind (`IsEndpointForm`, `IsTargetForm`). No part
begins with a character of the part before it, so that the readers, which take as many characters as
they can, cut where the parts meet (`isEndpoint_iff`, `isTarget_iff`).

The readers look for the end of the text, and take a line break at the end for it. So a text is
accepted if it is of the form, and also if it is so but for one line break at its end
(`accepted_iff_form`).
-/

namespace ObjectLookup.Settings

/-! ## Forms -/

/-- One or more characters of a kind. -/
def IsRow (kind : Char → Bool) (s : List Char) : Prop := s ≠ [] ∧ ∀ c ∈ s, kind c = true

/-- Nothing, or a colon with decimal digits behind it. -/
inductive IsPort : List Char → Prop where
  | none : IsPort []
  | some {s : List Char} (h : IsRow Char.isDigit s) : IsPort (':' :: s)

/-- Nothing, or a slash with any text behind it that has no line break. -/
inductive IsUrlPath : List Char → Prop where
  | none : IsUrlPath []
  | some {s : List Char} (h : '\n' ∉ s) : IsUrlPath ('/' :: s)

/-- A scheme, a host, and perhaps a port and a path. -/
inductive IsEndpointForm : List Char → Prop where
  | mk {scheme host port path : List Char}
      (hscheme : scheme = "http".toList ∨ scheme = "https".toList) (hhost : IsRow isHostChar host)
      (hport : IsPort port) (hpath : IsUrlPath path) :
      IsEndpointForm (scheme ++ "://".toList ++ host ++ port ++ path)

/-- Characters of words, and dots, the first one an ASCII letter or an underscore. -/
inductive IsDotted : List Char → Prop where
  | mk {c : Char} {s : List Char} (hc : Text.isWordStart c = true)
      (hs : ∀ d ∈ s, isPathChar d = true) : IsDotted (c :: s)

/-- A module and the path of one of its members. -/
inductive IsTargetForm : List Char → Prop where
  | mk {m p : List Char} (hm : IsDotted m) (hp : IsDotted p) : IsTargetForm (m ++ ':' :: p)

/-- The text is of the form, or it is a text of the form with a line break behind it. -/
def UpToBreak (form : List Char → Prop) (s : List Char) : Prop :=
  form s ∨ ∃ u, form u ∧ s = u ++ ['\n']

section Reading

open Text

variable {kind : Char → Bool} {form : List Char → Prop} {a b s t u : List Char}

/-! ## Cutting where the parts meet -/

theorem atEnd_iff : atEnd t = true ↔ t = [] ∨ t = ['\n'] := by
  unfold atEnd
  split <;> simp_all

theorem upToBreak_iff : UpToBreak form s ↔ ∃ u t, form u ∧ atEnd t = true ∧ s = u ++ t := by
  simp only [UpToBreak, atEnd_iff]
  constructor
  · rintro (h | ⟨u, hu, rfl⟩)
    · exact ⟨s, [], h, .inl rfl, (List.append_nil s).symm⟩
    · exact ⟨u, ['\n'], hu, .inr rfl, rfl⟩
  · rintro ⟨u, t, hu, rfl | rfl, rfl⟩
    · rw [List.append_nil]
      exact .inl hu
    · exact .inr ⟨u, hu, rfl⟩

/-- Taking as many characters of the kind as there are cuts a row off, where what follows it does
not begin with another one. -/
theorem takes_row_iff {Q : List Char → Bool} :
    (decide (s.takeWhile kind ≠ []) && Q (s.dropWhile kind)) = true ↔
      ∃ a b, IsRow kind a ∧ Parts kind b ∧ Q b = true ∧ s = a ++ b := by
  rw [Bool.and_eq_true, decide_eq_true_iff]
  constructor
  · rintro ⟨hne, hQ⟩
    exact ⟨s.takeWhile kind, s.dropWhile kind, ⟨hne, fun c ↦ mem_takeWhile⟩, parts_dropWhile kind s,
      hQ, List.takeWhile_append_dropWhile.symm⟩
  · rintro ⟨a, b, ha, hb, hQ, rfl⟩
    rw [takeWhile_append_of_parts ha.2 hb, dropWhile_append_of_parts ha.2 hb]
    exact ⟨ha.1, hQ⟩

/-! ## Endpoints -/

theorem head?_of_path (hu : IsUrlPath u) (ht : atEnd t = true) {c : Char}
    (hc : (u ++ t).head? = some c) : c = '/' ∨ c = '\n' := by
  cases hu with
  | none =>
      rcases atEnd_iff.1 ht with rfl | rfl <;> cases hc
      exact .inr rfl
  | some h =>
      cases hc
      exact .inl rfl

theorem endpointPath_iff :
    endpointPath s = true ↔ ∃ path t, IsUrlPath path ∧ atEnd t = true ∧ s = path ++ t := by
  constructor
  · intro h
    unfold endpointPath at h
    split at h
    · rename_i r
      refine ⟨'/' :: r.takeWhile (· ≠ '\n'), r.dropWhile (· ≠ '\n'), .some ?_, h, ?_⟩
      · intro hmem
        simpa using mem_takeWhile hmem
      · rw [List.cons_append, List.takeWhile_append_dropWhile]
    · exact ⟨[], s, .none, h, rfl⟩
  · rintro ⟨path, t, hpath, ht, rfl⟩
    cases hpath with
    | none => rcases atEnd_iff.1 ht with rfl | rfl <;> rfl
    | @some r h =>
        have hall : ∀ c ∈ r, decide (c ≠ '\n') = true := fun c hc ↦
          decide_eq_true fun hbreak ↦ h (hbreak ▸ hc)
        have hparts : Parts (fun c ↦ decide (c ≠ '\n')) t := by
          intro c hc
          rcases atEnd_iff.1 ht with rfl | rfl <;> cases hc
          rfl
        change atEnd ((r ++ t).dropWhile (· ≠ '\n')) = true
        rw [dropWhile_append_of_parts hall hparts]
        exact ht

theorem endpointPort_iff : endpointPort s = true ↔
    ∃ port path t, IsPort port ∧ IsUrlPath path ∧ atEnd t = true ∧ s = port ++ path ++ t := by
  constructor
  · intro h
    unfold endpointPort at h
    split at h
    · obtain ⟨digits, rest, hdigits, -, hrest, rfl⟩ := takes_row_iff.1 h
      obtain ⟨path, t, hpath, ht, rfl⟩ := endpointPath_iff.1 hrest
      exact ⟨':' :: digits, path, t, .some hdigits, hpath, ht, by simp⟩
    · obtain ⟨path, t, hpath, ht, hs⟩ := endpointPath_iff.1 h
      exact ⟨[], path, t, .none, hpath, ht, hs⟩
  · rintro ⟨port, path, t, hport, hpath, ht, rfl⟩
    have hrest : endpointPath (path ++ t) = true := endpointPath_iff.2 ⟨path, t, hpath, ht, rfl⟩
    rw [List.append_assoc]
    cases hport with
    | none =>
        rw [List.nil_append]
        unfold endpointPort
        split
        · rename_i hcolon
          rcases head?_of_path hpath ht (congrArg List.head? hcolon) with h | h <;> cases h
        · exact hrest
    | @some digits hdigits =>
        have hparts : Parts Char.isDigit (path ++ t) := by
          intro c hc
          rcases head?_of_path hpath ht hc with rfl | rfl <;> rfl
        exact takes_row_iff.2 ⟨digits, path ++ t, hdigits, hparts, hrest, rfl⟩

theorem afterScheme?_eq_some : afterScheme? s = some t ↔
    ∃ scheme, (scheme = "http".toList ∨ scheme = "https".toList) ∧
      s = scheme ++ "://".toList ++ t := by
  constructor
  · intro h
    unfold afterScheme? at h
    split at h <;> cases h
    · exact ⟨_, .inr rfl, rfl⟩
    · exact ⟨_, .inl rfl, rfl⟩
  · rintro ⟨_, rfl | rfl, rfl⟩ <;> rfl

/-- The endpoints accepted are of the form, up to a line break. -/
theorem isEndpoint_iff : isEndpoint s = true ↔ UpToBreak IsEndpointForm s := by
  rw [upToBreak_iff]
  constructor
  · intro h
    unfold isEndpoint at h
    split at h
    · rename_i r hr
      obtain ⟨scheme, hscheme, rfl⟩ := afterScheme?_eq_some.1 hr
      obtain ⟨host, rest, hhost, -, hrest, rfl⟩ := takes_row_iff.1 h
      obtain ⟨port, path, t, hport, hpath, ht, rfl⟩ := endpointPort_iff.1 hrest
      exact ⟨_, t, .mk hscheme hhost hport hpath, ht, by simp⟩
    · cases h
  · rintro ⟨_, t, @⟨scheme, host, port, path, hscheme, hhost, hport, hpath⟩, ht, rfl⟩
    have hrest : endpointPort (port ++ path ++ t) = true :=
      endpointPort_iff.2 ⟨port, path, t, hport, hpath, ht, rfl⟩
    have hparts : Parts isHostChar (port ++ path ++ t) := by
      intro c hc
      cases hport with
      | none => rcases head?_of_path hpath ht hc with rfl | rfl <;> rfl
      | some h =>
          cases hc
          rfl
    have hafter : afterScheme? (scheme ++ "://".toList ++ host ++ port ++ path ++ t) =
        some (host ++ (port ++ path ++ t)) :=
      afterScheme?_eq_some.2 ⟨scheme, hscheme, by simp⟩
    simp only [isEndpoint, hafter]
    exact takes_row_iff.2 ⟨host, _, hhost, hparts, hrest, rfl⟩

/-! ## Delegate targets -/

theorem isPathChar_colon : isPathChar ':' = false := by decide +kernel
theorem isPathChar_break : isPathChar '\n' = false := by decide +kernel

/-- No blank is a character of words. -/
theorem apart_wordRanges :
    ∀ b ∈ Text.blankRanges, ∀ r ∈ Text.wordRanges, r.2 < b.1 ∨ b.2 < r.1 := by
  decide +kernel

theorem not_isBlank_of_isPathChar {c : Char} (h : isPathChar c = true) :
    Text.isBlank c = false := by
  refine Bool.eq_false_iff.2 fun hblank ↦ ?_
  obtain ⟨b, hb, hlow, hhigh⟩ := (Text.inRanges_iff _ c).1 hblank
  rcases Bool.or_eq_true_iff.1 h with hword | hdot
  · obtain ⟨r, hr, hlow', hhigh'⟩ := (Text.inRanges_iff _ c).1 hword
    have := apart_wordRanges b hb r hr
    omega
  · rw [beq_iff_eq.1 hdot] at hblank
    revert hblank
    decide

/-- What a dotted name begins with, it may go on with. -/
theorem isPathChar_of_isWordStart {c : Char} (h : Text.isWordStart c = true) :
    isPathChar c = true := by
  have hword {low high : Nat} (hmem : (low, high) ∈ Text.wordRanges) (hlow : low ≤ c.toNat)
      (hhigh : c.toNat ≤ high) : isPathChar c = true :=
    Bool.or_eq_true_iff.2 (.inl ((Text.inRanges_iff _ c).2 ⟨_, hmem, hlow, hhigh⟩))
  rcases Bool.or_eq_true_iff.1 h with halpha | hunderscore
  · rcases Bool.or_eq_true_iff.1 halpha with hupper | hlower
    · obtain ⟨hlow, hhigh⟩ := of_decide_eq_true hupper
      exact hword (.tail _ (.head _)) hlow hhigh
    · obtain ⟨hlow, hhigh⟩ := Bool.and_eq_true_iff.1 hlower
      exact hword (.tail _ (.tail _ (.tail _ (.head _)))) (of_decide_eq_true hlow)
        (of_decide_eq_true hhigh)
  · rw [beq_iff_eq.1 hunderscore]
    decide +kernel

theorem IsDotted.isPathChar (h : IsDotted s) : ∀ c ∈ s, isPathChar c = true := by
  obtain ⟨hc, hs⟩ := h
  intro d hd
  rcases List.mem_cons.1 hd with rfl | hd
  · exact isPathChar_of_isWordStart hc
  · exact hs d hd

theorem afterPath?_eq_some : afterPath? s = some t ↔
    ∃ m, IsDotted m ∧ Parts isPathChar t ∧ s = m ++ t := by
  cases s with
  | nil =>
      refine iff_of_false nofun ?_
      rintro ⟨_, ⟨-, -⟩, -, h⟩
      cases h
  | cons c s =>
      by_cases hc : Text.isWordStart c = true
      · rw [afterPath?, if_pos hc, Option.some_inj]
        constructor
        · rintro rfl
          exact ⟨c :: s.takeWhile Settings.isPathChar, .mk hc fun d ↦ mem_takeWhile,
            parts_dropWhile _ s, by rw [List.cons_append, List.takeWhile_append_dropWhile]⟩
        · rintro ⟨_, ⟨-, hs⟩, ht, h⟩
          cases h
          exact dropWhile_append_of_parts hs ht
      · rw [afterPath?, if_neg hc]
        refine iff_of_false nofun ?_
        rintro ⟨_, ⟨hc', -⟩, -, h⟩
        cases h
        exact hc hc'

/-- The targets accepted are of the form, up to a line break. -/
theorem isTarget_iff : isTarget s = true ↔ UpToBreak IsTargetForm s := by
  rw [upToBreak_iff]
  constructor
  · intro h
    unfold isTarget at h
    split at h
    · rename_i r hm
      obtain ⟨m, hdotted, -, rfl⟩ := afterPath?_eq_some.1 hm
      obtain ⟨t, hp, ht⟩ := Option.any_eq_true _ _ |>.1 h
      obtain ⟨p, hdotted', -, rfl⟩ := afterPath?_eq_some.1 hp
      exact ⟨_, t, .mk hdotted hdotted', ht, by simp⟩
    · cases h
  · rintro ⟨_, t, @⟨m, p, hm, hp⟩, ht, rfl⟩
    have hcolon : Parts isPathChar (':' :: (p ++ t)) := by
      rintro _ ⟨⟩
      exact isPathChar_colon
    have hend : Parts isPathChar t := by
      intro c hc
      rcases atEnd_iff.1 ht with rfl | rfl <;> cases hc
      exact isPathChar_break
    have hafter : afterPath? (m ++ ':' :: p ++ t) = some (':' :: (p ++ t)) :=
      afterPath?_eq_some.2 ⟨m, hm, hcolon, by simp⟩
    have hafter' : afterPath? (p ++ t) = some t := afterPath?_eq_some.2 ⟨p, hp, hend, rfl⟩
    simp only [isTarget, hafter, hafter', Option.any_some, ht]

/-! ## What is in a text of the form -/

theorem IsEndpointForm.break_notMem (h : IsEndpointForm u) : '\n' ∉ u := by
  obtain @⟨scheme, host, port, path, hscheme, hhost, hport, hpath⟩ := h
  have hscheme' : '\n' ∉ scheme := by rcases hscheme with rfl | rfl <;> decide
  have hhost' : '\n' ∉ host := fun hmem ↦ absurd (hhost.2 _ hmem) (by decide)
  have hport' : '\n' ∉ port := by
    cases hport with
    | none => exact List.not_mem_nil
    | some h =>
        intro hmem
        rcases List.mem_cons.1 hmem with hcolon | hmem
        · cases hcolon
        · exact absurd (h.2 _ hmem) (by decide)
  have hpath' : '\n' ∉ path := by
    cases hpath with
    | none => exact List.not_mem_nil
    | some h => simpa using h
  simp [hscheme', hhost', hport', hpath']

theorem IsDotted.notMem (h : IsDotted s) {c : Char} (hc : Settings.isPathChar c = false) :
    c ∉ s := fun hmem ↦ Bool.eq_false_iff.1 hc (h.isPathChar c hmem)

theorem IsTargetForm.break_notMem (h : IsTargetForm u) : '\n' ∉ u := by
  obtain ⟨hm, hp⟩ := h
  simp [hm.notMem isPathChar_break, hp.notMem isPathChar_break]

/-- A target accepted is cut at its only colon. There is no blank in front of it, and none behind it
but for a line break at the end. -/
theorem exists_cut_of_isTarget (h : isTarget s = true) :
    ∃ m p, s = m ++ ':' :: p ∧ ':' ∉ m ∧ ':' ∉ p ∧ (∀ c ∈ m, Text.isBlank c = false) ∧
      UpToBreak (fun p ↦ ∀ c ∈ p, Text.isBlank c = false) p := by
  have hblank {m : List Char} (hm : IsDotted m) : ∀ c ∈ m, Text.isBlank c = false :=
    fun c hc ↦ not_isBlank_of_isPathChar (hm.isPathChar c hc)
  rcases isTarget_iff.1 h with @⟨m, p, hm, hp⟩ | ⟨_, @⟨m, p, hm, hp⟩, rfl⟩
  · exact ⟨m, p, rfl, hm.notMem isPathChar_colon, hp.notMem isPathChar_colon, hblank hm,
      .inl (hblank hp)⟩
  · refine ⟨m, p ++ ['\n'], by simp, hm.notMem isPathChar_colon, ?_, hblank hm,
      .inr ⟨p, hblank hp, rfl⟩⟩
    simpa using hp.notMem isPathChar_colon

end Reading

/-! ## Settings -/

/-- Settings go by the form of one of their texts, up to a line break: they are accepted, or refused
because of it. So the form is all that counts, unless the text is of the form but for a line break
behind it. -/
structure IsJudgedBy (s : Settings) (form : List Char → Prop) (text : String) (p : Problem) :
    Prop where
  accepted : s.check = .ok s ↔ UpToBreak form text.toList
  refused : s.check = .error p.failure ↔ ¬ UpToBreak form text.toList
  exact : (s.check = .ok s ↔ form text.toList) ↔ ¬ ∃ u, form u ∧ text.toList = u ++ ['\n']

theorem isJudgedBy_of_problem? {s : Settings} {form : List Char → Prop} {text : String}
    {p : Problem} {b : Bool} (hp : s.problem? = if b then none else some p)
    (hb : b = true ↔ UpToBreak form text.toList) (hform : ∀ u, form u → '\n' ∉ u) :
    s.IsJudgedBy form text p := by
  have haccepted : s.check = .ok s ↔ UpToBreak form text.toList := by
    rw [check, hp, ← hb]
    cases b <;> simp
  refine ⟨haccepted, ?_, ?_⟩
  · rw [check, hp, ← hb]
    cases b <;> simp
  · rw [haccepted]
    constructor
    · rintro h ⟨u, hu, htext⟩
      exact hform _ (h.1 (.inr ⟨u, hu, htext⟩)) (by simp [htext])
    · exact fun h ↦ ⟨fun hup ↦ hup.resolve_right h, .inl⟩

variable {s t : Settings} {text : String}

theorem isJudgedBy_endpoint (htext : s.endpointUrl = some text) (hne : text ≠ "")
    (hrest : { s with endpointUrl := none }.problem? = none) :
    s.IsJudgedBy IsEndpointForm text (.endpoint text) := by
  obtain ⟨hcredentials, htimeouts, -, htarget⟩ := problem?_eq_none.1 hrest
  have hs : s.problem? = s.endpoint? := by
    change s.credentials? = none at hcredentials
    change s.timeouts? = none at htimeouts
    change s.target? = none at htarget
    rw [problem?, hcredentials, htimeouts, htarget, Option.none_or, Option.none_or, Option.or_none]
  refine isJudgedBy_of_problem? ?_ isEndpoint_iff fun u ↦ IsEndpointForm.break_notMem
  rw [hs, endpoint?, given?_eq_some.2 ⟨htext, hne⟩]

theorem isJudgedBy_target (htext : s.delegateTarget = some text) (hne : text ≠ "")
    (hrest : { s with delegateTarget := none }.problem? = none) :
    s.IsJudgedBy IsTargetForm text (.target text) := by
  obtain ⟨hcredentials, htimeouts, hendpoint, -⟩ := problem?_eq_none.1 hrest
  have hs : s.problem? = s.target? := by
    change s.credentials? = none at hcredentials
    change s.timeouts? = none at htimeouts
    change s.endpoint? = none at hendpoint
    rw [problem?, hcredentials, htimeouts, hendpoint, Option.none_or, Option.none_or,
      Option.none_or]
  refine isJudgedBy_of_problem? ?_ isTarget_iff fun u ↦ IsTargetForm.break_notMem
  rw [hs, target?, given?_eq_some.2 ⟨htext, hne⟩]

theorem isEndpoint_of_problem? (h : s.problem? = none) (htext : given? s.endpointUrl = some text) :
    isEndpoint text.toList = true := by
  obtain ⟨-, -, hendpoint, -⟩ := problem?_eq_none.1 h
  simpa [endpoint?, htext] using hendpoint

theorem isTarget_of_problem? (h : s.problem? = none) (htext : given? s.delegateTarget = some text) :
    isTarget text.toList = true := by
  obtain ⟨-, -, -, htarget⟩ := problem?_eq_none.1 h
  simpa [target?, htext] using htarget

/-- An endpoint is accepted if and only if it is of the form of one, and a delegate target likewise,
up to a line break at the end; all others are refused, with the text itself. For a text that is not
of the form but for such a break, the form alone is what counts. So a target accepted has one colon,
no blank in front of it, and none behind it but for that break, and an endpoint accepted has no
other line break. -/
theorem accepted_iff_form (s : Settings) :
    (∀ url, s.endpointUrl = some url → url ≠ "" →
      { s with endpointUrl := none }.problem? = none →
        s.IsJudgedBy IsEndpointForm url (.endpoint url)) ∧
    (∀ target, s.delegateTarget = some target → target ≠ "" →
      { s with delegateTarget := none }.problem? = none →
        s.IsJudgedBy IsTargetForm target (.target target)) ∧
    ∀ t, s.check = .ok t →
      (∀ target, given? t.delegateTarget = some target →
        ∃ m p, target.toList = m ++ ':' :: p ∧ ':' ∉ m ∧ ':' ∉ p ∧
          (∀ c ∈ m, Text.isBlank c = false) ∧
          UpToBreak (fun p ↦ ∀ c ∈ p, Text.isBlank c = false) p) ∧
      ∀ url, given? t.endpointUrl = some url → UpToBreak ('\n' ∉ ·) url.toList := by
  refine ⟨fun url ↦ isJudgedBy_endpoint, fun target ↦ isJudgedBy_target, ?_⟩
  intro t hcheck
  obtain ⟨hproblem, rfl⟩ := check_eq_ok.1 hcheck
  refine ⟨fun target htarget ↦ exists_cut_of_isTarget (isTarget_of_problem? hproblem htarget), ?_⟩
  intro url hurl
  rcases isEndpoint_iff.1 (isEndpoint_of_problem? hproblem hurl) with h | ⟨u, hu, htext⟩
  · exact .inl h.break_notMem
  · exact .inr ⟨u, hu.break_notMem, htext⟩

/-- An endpoint with a port and a path, and a target with a name of another script. -/
def local9000 : Settings where
  endpointUrl := some "https://minio.local:9000/données x"
  delegateTarget := some "zoo.clés:Router.find"

/-- Both texts are of their forms, the target is cut at its colon, and an endpoint with a line break
in the middle is not of the form even up to one at the end. -/
theorem accepted_iff_form_local9000 :
    (local9000.check = .ok local9000 ∧
      { local9000 with endpointUrl := none }.problem? = none ∧
      { local9000 with delegateTarget := none }.problem? = none) ∧
    IsEndpointForm "https://minio.local:9000/données x".toList ∧
    UpToBreak IsTargetForm "zoo.clés:Router.find".toList ∧
    ¬ UpToBreak IsEndpointForm "http://h/a\nb".toList ∧
    ∃ m p, "zoo.clés:Router.find".toList = m ++ ':' :: p ∧ ':' ∉ m ∧ ':' ∉ p := by
  have hcheck : local9000.check = .ok local9000 := check_eq_ok.2 ⟨by decide +kernel, rfl⟩
  have hendpoint : { local9000 with endpointUrl := none }.problem? = none := by decide +kernel
  have htarget : { local9000 with delegateTarget := none }.problem? = none := by decide +kernel
  have hbroken : ({ endpointUrl := some "http://h/a\nb" } : Settings).problem? =
      some (.endpoint "http://h/a\nb") := by decide +kernel
  obtain ⟨hendpoints, htargets, hcuts⟩ := accepted_iff_form local9000
  refine ⟨⟨hcheck, hendpoint, htarget⟩, ?_, ?_, ?_, ?_⟩
  · refine ((hendpoints _ rfl (by decide) hendpoint).exact.2 ?_).1 hcheck
    rintro ⟨u, -, hu⟩
    have hlast := congrArg List.getLast? hu
    rw [List.getLast?_concat] at hlast
    revert hlast
    decide +kernel
  · exact (htargets _ rfl (by decide) htarget).accepted.1 hcheck
  · obtain ⟨hendpoints', -, -⟩ := accepted_iff_form { endpointUrl := some "http://h/a\nb" }
    refine (hendpoints' _ rfl (by decide) rfl).refused.1 ?_
    simp only [check, hbroken]
  · obtain ⟨m, p, hcut, hm, hp, -, -⟩ := (hcuts _ hcheck).1 _ rfl
    exact ⟨m, p, hcut, hm, hp⟩

/-- A line break at the end is accepted, though no endpoint and no target of the form has one. -/
theorem break_accepted :
    let s : Settings := { endpointUrl := some "http://h\n" }
    let t : Settings := { delegateTarget := some "m:f\n" }
    (s.check = .ok s ∧ ¬ IsEndpointForm "http://h\n".toList) ∧
      t.check = .ok t ∧ ¬ IsTargetForm "m:f\n".toList := by
  refine ⟨⟨check_eq_ok.2 ⟨by decide +kernel, rfl⟩, ?_⟩, check_eq_ok.2 ⟨by decide +kernel, rfl⟩, ?_⟩
  · exact fun h ↦ h.break_notMem (by decide)
  · exact fun h ↦ h.break_notMem (by decide)

end ObjectLookup.Settings
