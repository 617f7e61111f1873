import ObjectLookup.Proofs.Resolver.Alike
import Mathlib.Data.List.Forall2

/-! # Resolvers and their content in use

A scene has the resolvers that share a session, and the content that they have opened. What is done
in it, one deed after the other, is that a resolver is asked, or that content is used, in any order.
Each deed shows something: the outcome of the question, or what the content reads.

Alike scenes show the same under every sequence of deeds, and stay alike (`Scene.Alike.play`).
-/

namespace ObjectLookup

variable {σ τ : Type} {S : σ → τ → Prop}

/-- Something that is done with the resolvers of a scene, or with the content that was opened. -/
inductive Deed where
  | ask (i : Nat) (q : Question)
  | use (n : Nat) (u : Use)
deriving DecidableEq, Repr

/-- What a deed shows. -/
inductive Sight where
  | outcome (x : Except Failure View)
  | reading (x : Reading)
  /-- There is no such resolver, or no such content. -/
  | nothing

structure Scene (σ : Type) where
  resolvers : List (Resolver σ)
  /-- The content that was opened so far, in order. -/
  sources : List (ContentSource σ) := []
  session : Session σ

/-- The content that a reply brings. -/
def Reply.sources : Reply σ → List (ContentSource σ)
  | .opened c => [c]
  | _ => []

/-- The content that a step brings. -/
def Step.sources (step : Step (Resolver σ) σ (Reply σ)) : List (ContentSource σ) :=
  match step.result with
  | .ok reply => reply.sources
  | .error _ => []

namespace Scene

/-- Does one thing. -/
def act (host : Host σ) (sc : Scene σ) : Deed → Sight × Scene σ
  | .ask i q =>
    match sc.resolvers[i]? with
    | none => (.nothing, sc)
    | some r =>
      let step := r.ask host q sc.session
      (.outcome step.outcome,
        ⟨sc.resolvers.set i step.self, sc.sources ++ step.sources, step.session⟩)
  | .use n u =>
    match sc.sources[n]? with
    | none => (.nothing, sc)
    | some c =>
      let (x, c, s) := c.use u sc.session
      (.reading x, ⟨sc.resolvers, sc.sources.set n c, s⟩)

/-- Does one thing after the other; returns what they show. -/
def play (host : Host σ) (sc : Scene σ) : List Deed → List Sight × Scene σ
  | [] => ([], sc)
  | d :: ds =>
    let (x, sc) := sc.act host d
    let (xs, sc) := sc.play host ds
    (x :: xs, sc)

/-- Scenes of alike resolvers and alike content, in alike sessions. -/
structure Alike (S : σ → τ → Prop) (sc : Scene σ) (sc' : Scene τ) : Prop where
  resolvers : List.Forall₂ (Resolver.Alike S) sc.resolvers sc'.resolvers
  sources : List.Forall₂ (ContentSource.Alike S) sc.sources sc'.sources
  session : sc.session.Alike S sc'.session

end Scene

section Lists

variable {α β : Type} {R : α → β → Prop} {xs : List α} {ys : List β}

theorem getElem?_of_forall₂ (h : List.Forall₂ R xs ys) (n : Nat) :
    Option.Rel R xs[n]? ys[n]? := by
  induction h generalizing n with
  | nil => exact .none
  | cons hxy _ ih =>
      cases n with
      | zero => exact .some hxy
      | succ n => exact ih n

theorem forall₂_set (h : List.Forall₂ R xs ys) (n : Nat) {x : α} {y : β} (hxy : R x y) :
    List.Forall₂ R (xs.set n x) (ys.set n y) := by
  induction h generalizing n with
  | nil => exact .nil
  | cons hfirst hrest ih =>
      cases n with
      | zero => exact .cons hxy hrest
      | succ n => exact .cons hfirst (ih n)

end Lists

theorem Step.Alike.sources {x : Step (Resolver σ) σ (Reply σ)} {y : Step (Resolver τ) τ (Reply τ)}
    (h : x.Alike S (Reply.Alike S) y) :
    List.Forall₂ (ContentSource.Alike S) x.sources y.sources := by
  unfold Step.sources
  rcases h.result.cases with ⟨e, hx, hy⟩ | ⟨reply, reply', hx, hy, hreply⟩ <;> rw [hx, hy]
  · exact .nil
  · cases hreply with
    | located | accessible | recognised => exact .nil
    | opened hcd => exact .cons hcd .nil

namespace Scene.Alike

variable {host : Host σ} {host' : Host τ} {sc : Scene σ} {sc' : Scene τ}

/-- A deed shows the same in alike scenes, and leaves them alike. -/
theorem act (hhost : host.Alike S host') (h : sc.Alike S sc') (d : Deed) :
    (sc.act host d).1 = (sc'.act host' d).1 ∧ (sc.act host d).2.Alike S (sc'.act host' d).2 := by
  cases d with
  | ask i q =>
      rcases optionRel_cases (getElem?_of_forall₂ h.resolvers i) with
        ⟨hr, hr'⟩ | ⟨r, r', hr, hr', hrr'⟩ <;> simp only [Scene.act, hr, hr']
      · exact ⟨trivial, h⟩
      · have hstep := hrr'.ask hhost h.session q
        refine ⟨congrArg Sight.outcome hstep.outcome_eq, ?_, ?_, hstep.session⟩
        · exact forall₂_set h.resolvers i hstep.self
        · exact List.rel_append h.sources hstep.sources
  | use n u =>
      rcases optionRel_cases (getElem?_of_forall₂ h.sources n) with
        ⟨hc, hc'⟩ | ⟨c, c', hc, hc', hcc'⟩ <;> simp only [Scene.act, hc, hc']
      · exact ⟨trivial, h⟩
      · obtain ⟨hreading, hself, hsession⟩ := hcc'.alike_use h.session u
        refine ⟨congrArg Sight.reading hreading, h.resolvers, ?_, hsession⟩
        exact forall₂_set h.sources n hself

/-- Whatever is done, it shows the same in alike scenes. -/
theorem play (hhost : host.Alike S host') (h : sc.Alike S sc') (ds : List Deed) :
    (sc.play host ds).1 = (sc'.play host' ds).1 ∧
      (sc.play host ds).2.Alike S (sc'.play host' ds).2 := by
  induction ds generalizing sc sc' with
  | nil => exact ⟨rfl, h⟩
  | cons d ds ih =>
      obtain ⟨hsight, hafter⟩ := h.act hhost d
      obtain ⟨hsights, hend⟩ := ih hafter
      simp only [Scene.play]
      exact ⟨by rw [hsight, hsights], hend⟩

end Scene.Alike

end ObjectLookup
