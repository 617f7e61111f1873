import ObjectLookup.Proofs.Decimal.Reader
import ObjectLookup.Proofs.Settings.Environment

/-! # Timeouts of settings

The check refuses a timeout that is at most zero. All numbers that it lets through are positive, but
NaN is let through too, since it compares with nothing (`isNonpositive_eq_false`). A timeout from a
variable is NaN if and only if the variable spells it out (`seconds_eq_nan`).
-/

namespace ObjectLookup

namespace Decimal.Binary64

theorem isNonpositive_eq_false {x : Binary64} :
    x.isNonpositive = false ↔ x.isPositive = true ∨ x = .nan := by
  by_cases hx : x = .nan
  · simp [hx]
  · simp [hx, isPositive_or_isNonpositive hx]

/-- What is not refused is positive, unless it is NaN. -/
theorem isPositive_iff_ne_nan {x : Binary64} (h : x.isNonpositive = false) :
    x.isPositive = true ↔ x ≠ .nan := by
  constructor
  · rintro hpositive rfl
    cases hpositive
  · exact (isNonpositive_eq_false.1 h).resolve_right

end Decimal.Binary64

namespace Settings

variable {s : Settings} {env : Variables} {v : Variable} {default x y : Decimal.Binary64}

theorem timeouts?_eq_none : s.timeouts? = none ↔
    s.connectTimeout.isNonpositive = false ∧ s.readTimeout.isNonpositive = false := by
  unfold timeouts?
  split
  · simp_all
  · split <;> simp_all

/-- Both timeouts are positive, except that they may be NaN. -/
structure PositiveUnlessNan (s : Settings) : Prop where
  connect : s.connectTimeout.isPositive = true ↔ s.connectTimeout ≠ .nan
  read : s.readTimeout.isPositive = true ↔ s.readTimeout ≠ .nan

theorem positiveUnlessNan_of_problem? (h : s.problem? = none) : s.PositiveUnlessNan := by
  obtain ⟨-, htimeouts, -, -⟩ := problem?_eq_none.1 h
  obtain ⟨hconnect, hread⟩ := timeouts?_eq_none.1 htimeouts
  exact ⟨Decimal.Binary64.isPositive_iff_ne_nan hconnect,
    Decimal.Binary64.isPositive_iff_ne_nan hread⟩

/-- Settings that have no other problem are judged by their timeouts. -/
theorem problem?_eq_none_iff_timeouts
    (h : { s with connectTimeout := x, readTimeout := y }.problem? = none) :
    s.problem? = none ↔ (s.connectTimeout.isPositive = true ∨ s.connectTimeout = .nan) ∧
      (s.readTimeout.isPositive = true ∨ s.readTimeout = .nan) := by
  obtain ⟨hcredentials, -, hendpoint, htarget⟩ := problem?_eq_none.1 h
  change s.credentials? = none at hcredentials
  change s.endpoint? = none at hendpoint
  change s.target? = none at htarget
  rw [problem?_eq_none, timeouts?_eq_none, Decimal.Binary64.isNonpositive_eq_false,
    Decimal.Binary64.isNonpositive_eq_false]
  constructor
  · rintro ⟨-, htimeouts, -, -⟩
    exact htimeouts
  · intro htimeouts
    exact ⟨hcredentials, htimeouts, hendpoint, htarget⟩

/-! ## Timeouts from variables -/

/-- The variable spells out NaN. -/
def SaysNan (env : Variables) (v : Variable) : Prop :=
  ∃ text, env.get? v.name = some text ∧ Decimal.SpellsNan text.toList

theorem seconds_eq_nan (h : seconds env v default = .ok x) (hdefault : default ≠ .nan) :
    x = .nan ↔ SaysNan env v := by
  rcases ht : text? env v with _ | text
  · simp only [seconds, ht] at h
    cases h
    refine iff_of_false hdefault ?_
    rintro ⟨text, htext, hnan⟩
    have hempty : text = "" := given?_eq_none.1 ht text htext
    rw [hempty] at hnan
    exact hnan.ne_nil rfl
  · obtain ⟨htext, -⟩ := given?_eq_some.1 ht
    rcases hr : Decimal.read? text with _ | y
    · simp only [seconds, ht, hr] at h
      cases h
    · simp only [seconds, ht, hr] at h
      cases h
      have hread : x = .nan ↔ Decimal.SpellsNan text.toList := by
        rw [← Decimal.read?_eq_nan_iff, hr, Option.some_inj]
      rw [hread, SaysNan]
      constructor
      · intro hnan
        exact ⟨text, htext, hnan⟩
      · rintro ⟨text', htext', hnan⟩
        rw [htext] at htext'
        cases htext'
        exact hnan

/-- The timeouts that load are NaN just if their variables say so. -/
theorem timeouts_eq_nan (h : ofVariables env = .ok s) :
    (s.connectTimeout = .nan ↔ SaysNan env .connectTimeout) ∧
      (s.readTimeout = .nan ↔ SaysNan env .readTimeout) := by
  have hfields := (ofVariables_eq_ok.1 h).1
  constructor
  · exact seconds_eq_nan (seconds_of_decoded (hfields .connectTimeout))
      (Decimal.ofDecimal_ne_nan _ _ _)
  · exact seconds_eq_nan (seconds_of_decoded (hfields .readTimeout))
      (Decimal.ofDecimal_ne_nan _ _ _)

/-- Settings are refused as an invalid value, or each of their timeouts is positive or NaN; and if
nothing else is wrong with them, then such timeouts are accepted. With settings from variables, too,
a timeout is positive unless it is NaN, and it is NaN if and only if its variable spells that out:
in any case, with a sign or not, with blanks around it. -/
theorem positive_unless_nan (s : Settings) (env : Variables) :
    ((∃ e, s.check = .error e ∧ e.IsRefusal) ∨ s.check = .ok s ∧ s.PositiveUnlessNan) ∧
    ({ s with connectTimeout := ({} : Settings).connectTimeout
              readTimeout := ({} : Settings).readTimeout }.problem? = none →
      (s.check = .ok s ↔ (s.connectTimeout.isPositive = true ∨ s.connectTimeout = .nan) ∧
        (s.readTimeout.isPositive = true ∨ s.readTimeout = .nan))) ∧
    ((∃ e, ofVariables env = .error e ∧ e.IsRefusal) ∨
      ∃ t, ofVariables env = .ok t ∧
        (t.connectTimeout.isPositive = true ↔ ¬ SaysNan env .connectTimeout) ∧
        (t.readTimeout.isPositive = true ↔ ¬ SaysNan env .readTimeout)) := by
  refine ⟨?_, ?_, ?_⟩
  · rcases hcheck : s.check with e | t
    · exact .inl ⟨e, rfl, isRefusal_of_check hcheck⟩
    · obtain ⟨hproblem, rfl⟩ := check_eq_ok.1 hcheck
      exact .inr ⟨rfl, positiveUnlessNan_of_problem? hproblem⟩
  · intro hrest
    rw [check_eq_ok, and_iff_left rfl]
    exact problem?_eq_none_iff_timeouts hrest
  · rcases hload : ofVariables env with e | t
    · exact .inl ⟨e, rfl, isRefusal_of_ofVariables hload⟩
    · obtain ⟨hconnect, hread⟩ := positiveUnlessNan_of_problem? (ofVariables_eq_ok.1 hload).2
      obtain ⟨hconnectNan, hreadNan⟩ := timeouts_eq_nan hload
      refine .inr ⟨t, rfl, ?_, ?_⟩
      · rw [hconnect, Ne, hconnectNan]
      · rw [hread, Ne, hreadNan]

/-- An endless connect timeout and a read timeout of half a second. -/
def patient : Settings where
  connectTimeout := .infinite false
  readTimeout := .ofDecimal false 5 (-1)

/-- Endless timeouts are positive, and a variable may ask for one. A timeout below zero is
refused. -/
theorem positive_unless_nan_patient :
    patient.check = .ok patient ∧
      (∃ s, ofVariables (.ofPairs [("S3RESOLVER_READ_TIMEOUT", "1_0e400")]) = .ok s ∧
        s.readTimeout.isPositive = true) ∧
      ∃ e, { patient with readTimeout := .ofDecimal true 1 0 }.check = .error e ∧
        e.IsRefusal := by
  obtain ⟨-, haccepted, hloaded⟩ :=
    positive_unless_nan patient (.ofPairs [("S3RESOLVER_READ_TIMEOUT", "1_0e400")])
  obtain ⟨hchecked, -, -⟩ :=
    positive_unless_nan { patient with readTimeout := .ofDecimal true 1 0 } .empty
  refine ⟨?_, ?_, ?_⟩
  · have hrest : { patient with connectTimeout := ({} : Settings).connectTimeout
                                readTimeout := ({} : Settings).readTimeout }.problem? = none := by
      decide +kernel
    exact (haccepted hrest).2 ⟨.inl rfl, .inl (by decide +kernel)⟩
  · have hloads : ofVariables (.ofPairs [("S3RESOLVER_READ_TIMEOUT", "1_0e400")]) =
        .ok { readTimeout := .infinite false } := ofVariables_of_toOption (by decide +kernel)
    rcases hloaded with ⟨e, he, -⟩ | h
    · rw [hloads] at he
      cases he
    · obtain ⟨s, hs, -, hread⟩ := h
      refine ⟨s, hs, hread.2 ?_⟩
      rintro ⟨text, htext, hnan⟩
      cases htext
      rw [← Decimal.read?_eq_nan_iff] at hnan
      revert hnan
      decide +kernel
  · rcases hchecked with h | ⟨h, -⟩
    · exact h
    · exact absurd (check_eq_ok.1 h).1 (by decide +kernel)

/-- NaN is accepted, in settings and from a variable, and it is not above zero. -/
theorem nan_accepted :
    let s : Settings := { connectTimeout := .nan }
    s.check = .ok s ∧ ofVariables (.ofPairs [("S3RESOLVER_CONNECT_TIMEOUT", " -NaN\n")]) = .ok s ∧
      s.connectTimeout.isPositive = false := by
  intro s
  exact ⟨check_eq_ok.2 ⟨by decide +kernel, rfl⟩, ofVariables_of_toOption (by decide +kernel), rfl⟩

end Settings

end ObjectLookup
