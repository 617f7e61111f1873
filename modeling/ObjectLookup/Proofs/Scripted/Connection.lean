import ObjectLookup.Proofs.Scripted.Store
import ObjectLookup.Proofs.Strategy.Alike

/-! # Scripted connections do not go by their options

A scripted connection takes down the options that it is made with, and never looks at them again. So
connections of different options act alike, in stages that differ in nothing but in what was taken
down (`connectsAlike_connect`).
-/

namespace ObjectLookup.Scripted

open Act

def Stage.withoutConnections (stage : Stage) : Stage := { stage with connections := [] }

/-- The stages differ in nothing but in the options of their connections. -/
def SameButConnections (o p : Stage) : Prop := o.withoutConnections = p.withoutConnections

namespace SameButConnections

variable {o p : Stage}

/-- What goes by the rest of a stage is the same. -/
theorem apply_eq {α : Type} (h : SameButConnections o p) (f : Stage → α)
    (hf : ∀ stage : Stage, f stage.withoutConnections = f stage) : f o = f p := by
  rw [← hf o, Eq.trans (congrArg f h) (hf p)]

/-- What changes the rest of a stage in the same way keeps the difference. -/
theorem update {f : Stage → Stage} (h : SameButConnections o p)
    (hf : ∀ stage : Stage,
      (f stage.withoutConnections).withoutConnections = (f stage).withoutConnections) :
    SameButConnections (f o) (f p) :=
  h.apply_eq (fun stage ↦ (f stage).withoutConnections) hf

end SameButConnections

theorem tracks_sameButConnections (i : Nat) : Tracks SameButConnections i i where
  fetched _ _ h := h.apply_eq (fun stage ↦ stage.fetched[i]?) fun _ ↦ rfl
  change g _ _ h := h.update (f := Stage.change i g) fun _ ↦ rfl

theorem alike_addFetched (x : StoredObject) :
    Alike SameButConnections Eq (addFetched x) (addFetched x) := by
  intro o p h
  refine ⟨.ok ?_, h.update (f := fun stage ↦ (addFetched x stage).2) fun _ ↦ rfl⟩
  exact h.apply_eq (fun stage ↦ stage.fetched.length) fun _ ↦ rfl

theorem alike_getObject (l : Location) :
    Alike SameButConnections (S3.Response.Alike SameButConnections) (getObject l)
      (getObject l) := by
  have hget : Alike SameButConnections SameButConnections (get : Act Stage Stage) get :=
    fun o p h ↦ ⟨.ok h, h⟩
  apply hget.bind
  intro o p h
  have hreply : o.reply? l = p.reply? l := h.apply_eq (Stage.reply? l) fun _ ↦ rfl
  rw [hreply]
  rcases p.reply? l with _ | x | e
  · exact .throw _
  · dsimp only
    rcases x.data with _ | data
    · exact fun _ _ h ↦ ⟨.ok ⟨rfl, rfl, rfl, .none⟩, h⟩
    · apply (alike_addFetched x).bind
      rintro i _ rfl
      have hstream := alike_stream (tracks_sameButConnections i)
      exact fun _ _ h ↦ ⟨.ok ⟨rfl, rfl, rfl, .some hstream⟩, h⟩
  · exact .throw _

/-- Whatever the options are, connections are made alike. -/
theorem connectsAlike_connect : S3.ConnectsAlike SameButConnections connect connect :=
  fun _ _ _ _ _ h ↦ ⟨.ok alike_getObject, h⟩

theorem alike_importModule : Importer.Alike SameButConnections (Catalogue.importModule [])
    (Catalogue.importModule []) := by
  intro name
  have hnone : Catalogue.importAll [] none (Catalogue.path name) = pure none ∨
      ∃ e, Catalogue.importAll [] none (Catalogue.path name) = throw e := by
    rcases Catalogue.path name with _ | ⟨n, ns⟩
    · exact .inl rfl
    · exact .inr ⟨_, rfl⟩
  unfold Catalogue.importModule
  rcases hnone with h | ⟨e, h⟩
  · rw [h]
    exact .throw _
  · rw [h]
    exact .throw e

end ObjectLookup.Scripted
