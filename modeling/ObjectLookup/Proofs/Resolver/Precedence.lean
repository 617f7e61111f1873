import ObjectLookup.Proofs.Format.Recognition
import ObjectLookup.Proofs.Resolver.Memory
import ObjectLookup.Proofs.Scripted.Store

/-! # What the format of an object is

`Format.IsInferred` states the precedence: a format that the content type names goes before one that
the identifier names, which goes before one that the key names. Exactly one format has it
(`infer_eq_iff`), whatever the three texts are.

A resolver whose object can be fetched answers with that format, and answers with it from then on
without turning to the outside (`resolveFormat_by_precedence`).
-/

namespace ObjectLookup

namespace Format

variable {contentType : Option String} {identifier key : String} {f : Format}

/-- The format of an object, by what names it first. If nothing does, it is unknown. -/
inductive IsInferred (contentType : Option String) (identifier key : String) : Format → Prop where
  | byType {f : Format} (h : f.IsOfType contentType) : IsInferred contentType identifier key f
  | byIdentifier {f : Format} (htype : ∀ g : Format, ¬ g.IsOfType contentType)
      (h : f.IsOfName identifier) : IsInferred contentType identifier key f
  | byKey {f : Format} (htype : ∀ g : Format, ¬ g.IsOfType contentType)
      (hidentifier : ∀ g : Format, ¬ g.IsOfName identifier) (h : f.IsOfName key) :
      IsInferred contentType identifier key f
  | unknown (htype : ∀ g : Format, ¬ g.IsOfType contentType)
      (hidentifier : ∀ g : Format, ¬ g.IsOfName identifier)
      (hkey : ∀ g : Format, ¬ g.IsOfName key) : IsInferred contentType identifier key .unknown

/-- The format found is unknown if and only if none is named. -/
theorem eq_unknown_iff {x : Format} {names : Format → Prop}
    (hx : ∀ g ≠ .unknown, x = g ↔ names g) (hnames : ∀ g, names g → g ≠ .unknown) :
    x = .unknown ↔ ∀ g, ¬ names g := by
  constructor
  · rintro rfl g hg
    exact hnames g hg ((hx g (hnames g hg)).2 hg).symm
  · intro hnone
    by_cases h : x = .unknown
    · exact h
    · exact absurd ((hx x h).1 rfl) (hnone x)

theorem elim_parse?_eq_unknown_iff :
    ((given? contentType).bind MediaType.parse?).elim .unknown ofMediaType = .unknown ↔
      ∀ g : Format, ¬ g.IsOfType contentType :=
  eq_unknown_iff (fun _ hg ↦ elim_parse?_eq_iff hg contentType) fun _ h ↦ h.1

theorem ofFileName_eq_unknown_iff {name : String} :
    ofFileName name = .unknown ↔ ∀ g : Format, ¬ g.IsOfName name :=
  eq_unknown_iff (fun _ hg ↦ ofFileName_eq_iff hg name) fun _ h ↦ h.1

/-- Behind a content type that names nothing, the identifier is next. -/
theorem infer_of_type (htype : ∀ g : Format, ¬ g.IsOfType contentType) :
    infer contentType identifier key =
      if ofFileName identifier ≠ .unknown then ofFileName identifier else ofFileName key := by
  unfold infer
  rw [elim_parse?_eq_unknown_iff.2 htype]
  exact if_neg fun h ↦ h rfl

/-- Behind an identifier that names nothing either, the key is next. -/
theorem infer_of_identifier (htype : ∀ g : Format, ¬ g.IsOfType contentType)
    (hidentifier : ∀ g : Format, ¬ g.IsOfName identifier) :
    infer contentType identifier key = ofFileName key := by
  rw [infer_of_type htype, ofFileName_eq_unknown_iff.2 hidentifier]
  exact if_neg fun h ↦ h rfl

/-- The format inferred is the one that the precedence gives. -/
theorem IsInferred.infer_eq (h : IsInferred contentType identifier key f) :
    infer contentType identifier key = f := by
  cases h with
  | byType h =>
      unfold infer
      rw [(elim_parse?_eq_iff h.1 contentType).2 h]
      exact if_pos h.1
  | byIdentifier htype h =>
      rw [infer_of_type htype, (ofFileName_eq_iff h.1 identifier).2 h]
      exact if_pos h.1
  | byKey htype hidentifier h =>
      rw [infer_of_identifier htype hidentifier]
      exact (ofFileName_eq_iff h.1 key).2 h
  | unknown htype hidentifier hkey =>
      rw [infer_of_identifier htype hidentifier]
      exact ofFileName_eq_unknown_iff.2 hkey

/-- The precedence gives a format for any three texts. -/
theorem exists_isInferred (contentType : Option String) (identifier key : String) :
    ∃ f, IsInferred contentType identifier key f := by
  by_cases htype : ∃ g : Format, g.IsOfType contentType
  · obtain ⟨g, hg⟩ := htype
    exact ⟨g, .byType hg⟩
  · by_cases hidentifier : ∃ g : Format, g.IsOfName identifier
    · obtain ⟨g, hg⟩ := hidentifier
      exact ⟨g, .byIdentifier (not_exists.1 htype) hg⟩
    · by_cases hkey : ∃ g : Format, g.IsOfName key
      · obtain ⟨g, hg⟩ := hkey
        exact ⟨g, .byKey (not_exists.1 htype) (not_exists.1 hidentifier) hg⟩
      · exact ⟨.unknown,
          .unknown (not_exists.1 htype) (not_exists.1 hidentifier) (not_exists.1 hkey)⟩

theorem infer_eq_iff : infer contentType identifier key = f ↔
    IsInferred contentType identifier key f := by
  constructor
  · rintro rfl
    obtain ⟨g, hg⟩ := exists_isInferred contentType identifier key
    rw [hg.infer_eq]
    exact hg
  · exact IsInferred.infer_eq

end Format

namespace Resolver

variable {σ : Type} {host : Host σ} {r : Resolver σ} {s : Session σ} {h : Handle σ}
  {t : Option String}

/-- Where nothing fails, the content type of a handle is taken. -/
theorem takeContentType_of_ok (ht : (s.perform h.contentType).1 = .ok t)
    (hclose : ((s.perform h.contentType).2.perform h.close).1 = .ok ()) :
    ∃ s', takeContentType h s = (.ok t, s') := by
  rcases hs : (s.perform h.contentType).2.perform h.close with ⟨x, s'⟩
  rw [hs] at hclose
  cases hclose
  refine ⟨s', ?_⟩
  simp only [takeContentType, hs, ht]

/-- A format in memory stays there, whatever else is asked, and it is what the resolver answers
with, at no cost. -/
theorem resolveFormat_run_of_recognised {f : Format} (hr : r.recognised = some f) (s : Session σ)
    (ts : List (Turn σ)) (s' : Session σ) :
    (r.run host s ts).1.resolveFormat host s' = ⟨.ok f, (r.run host s ts).1, s'⟩ := by
  apply resolveFormat_of_recognised
  apply run_keeps (P := fun r ↦ r.recognised = some f) _ hr
  intro r q s hr
  exact (ask_of_recognised hr q s).1

/-- A resolver whose object can be fetched and raises nothing has a format: the one by content type,
identifier and key, in this order. No text makes it fail. Whatever is asked of the resolver
afterwards, a later question for the format is answered with this one, in any session and with
nothing done to it: what the store holds by then does not matter. -/
theorem resolveFormat_by_precedence (host : Host σ) {r : Resolver σ} (s : Session σ)
    (hr : r.recognised = none) (hh : (r.fetch host s).result = .ok h)
    (ht : ((r.fetch host s).session.perform h.contentType).1 = .ok t)
    (hclose : (((r.fetch host s).session.perform h.contentType).2.perform h.close).1 = .ok ()) :
    let step := r.resolveFormat host s
    ∃ l f, (r.location host s).result = .ok l ∧ step.result = .ok f ∧
      (∀ g, Format.IsInferred t r.identifier.value l.key g ↔ g = f) ∧
      ∀ ts : List (Turn σ),
        let later := (step.self.run host step.session ts).1
        ∀ s', later.resolveFormat host s' = ⟨.ok f, later, s'⟩ := by
  intro step
  obtain ⟨s₁, htake⟩ := takeContentType_of_ok ht hclose
  rcases resolveFormat_cases host hr s with ⟨e, hh', _⟩ | ⟨h', e, s', hh', htake', _⟩ |
    ⟨h', t', s', l, hh', htake', hl, hstep⟩ <;> rw [hh] at hh' <;> cases hh' <;>
    rw [htake] at htake' <;> cases htake'
  refine ⟨l, .infer t r.identifier.value l.key, hl, ?_, ?_, ?_⟩
  · exact congrArg Step.result hstep
  · intro g
    rw [← Format.infer_eq_iff, eq_comm]
  · intro ts later s'
    exact resolveFormat_run_of_recognised (congrArg (·.self.recognised) hstep) step.session ts s'

/-- An image of an unknown type. -/
def scan : Scripted.StoredObject := { data := some [0x49], contentType := some "unknown/unknown" }

/-- A resolver that has the key of its image from a delegate. -/
def scanner : Resolver Scripted.Stage where
  identifier := ⟨"scans.v2/cats"⟩
  settings := {}
  strategy := some (.dynamic (Scripted.delegate 0 (.const (.text "a.TIF"))) (some "images"))

/-- Neither the content type nor the identifier names a format, so that the key decides. It still
does when a content type that names one has been stored meanwhile. -/
theorem resolveFormat_by_precedence_scanner :
    let s := Scripted.session [⟨⟨"images", "a.TIF"⟩, .object scan⟩]
    let corrected := Scripted.session
      [⟨⟨"images", "a.TIF"⟩, .object { scan with contentType := some "image/gif" }⟩]
    let turn : Turn Scripted.Stage := { question := .checkAccess, meanwhile := fun _ ↦ corrected }
    let step := scanner.resolveFormat Scripted.host s
    let later := (step.self.run Scripted.host step.session [turn]).1
    step.result = .ok .tiff ∧ (later.resolveFormat Scripted.host corrected).result = .ok .tiff := by
  intro s corrected turn step later
  obtain ⟨l, f, hl, hf, hinferred, hlater⟩ :=
    resolveFormat_by_precedence Scripted.host s (r := scanner) rfl rfl rfl rfl
  cases hl
  have hkey : Format.IsInferred (some "unknown/unknown") "scans.v2/cats" "a.TIF" .tiff :=
    Format.infer_eq_iff.1 (by decide +kernel)
  cases (hinferred .tiff).1 hkey
  exact ⟨hf, congrArg Step.result (hlater [turn] corrected)⟩

end Resolver

end ObjectLookup
