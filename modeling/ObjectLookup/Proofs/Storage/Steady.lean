import ObjectLookup.ContentSource
import ObjectLookup.Strategy
import ObjectLookup.Proofs.Storage.Act

/-! # Steady surroundings

What a user can see of a fetched object is how its content source reads, under every sequence of
uses (`Handle.seen`). Handles that are alike as actions are seen alike (`Handle.Alike.seen_eq`).

A client is steady over a property of the outside if the property is kept by all that a resolver
does with the store, and if the answer for a location, a failure or an object as it is seen, is the
same wherever the property holds. Delegates and strategies are predictable if their answers depend
on what they are asked and on nothing else.
-/

namespace ObjectLookup

variable {σ τ : Type}

/-! ## What is seen of an object -/

/-- What a user does with a content source. -/
inductive Use where
  | contentType | contentLength | read | close
deriving DecidableEq, Repr

/-- What a use shows. -/
inductive Reading where
  | contentType (result : Except Failure (Option String))
  | contentLength (result : Except Failure (Option Int))
  | data (result : Except Failure (List UInt8))
  | closed (result : Except Failure Unit)

namespace ContentSource

def use (c : ContentSource σ) (u : Use) (s : Session σ) :
    Reading × ContentSource σ × Session σ :=
  match u with
  | .contentType => (.contentType (c.contentType s).1, c, (c.contentType s).2)
  | .contentLength => (.contentLength (c.contentLength s).1, c, (c.contentLength s).2)
  | .read => (.data (c.read s).result, (c.read s).self, (c.read s).session)
  | .close => (.closed (c.close s).result, (c.close s).self, (c.close s).session)

/-- What a sequence of uses shows. -/
def readings (c : ContentSource σ) (s : Session σ) : List Use → List Reading
  | [] => []
  | u :: us =>
    let (x, c, s) := c.use u s
    x :: readings c s us

end ContentSource

/-- What can be seen of a handle: how its content source reads. -/
def Handle.seen (h : Handle σ) (s : Session σ) : List Use → List Reading :=
  ContentSource.readings ⟨h, none, false⟩ s

/-! ## Handles that are alike -/

section Alike

variable {S : σ → τ → Prop}

/-- Streams that in related states have as much left, and read and close alike. -/
structure Stream.Alike (S : σ → τ → Prop) (x : Stream σ) (y : Stream τ) : Prop where
  read : ∀ size, Act.Alike S Eq (x.read size) (y.read size)
  remaining : ∀ o p, S o p → x.remaining o = y.remaining p
  close : Act.Alike S Eq x.close y.close

/-- Handles with actions that are alike from related states. -/
structure Handle.Alike (S : σ → τ → Prop) (h : Handle σ) (k : Handle τ) : Prop where
  contentType : Act.Alike S Eq h.contentType k.contentType
  contentLength : Act.Alike S Eq h.contentLength k.contentLength
  openStream : ∀ closed,
    Act.Alike S (Option.Rel (Stream.Alike S)) (h.openStream closed) (k.openStream closed)
  release : ∀ closed, Act.Alike S Eq (h.release closed) (k.release closed)
  closed : h.closed = k.closed

theorem Handle.Alike.close {h : Handle σ} {k : Handle τ} (hk : h.Alike S k) :
    Act.Alike S Eq h.close k.close := by
  rw [Handle.close, Handle.close, hk.closed]
  exact hk.release k.closed

/-- Content sources of handles that are alike, which have come equally far. -/
structure ContentSource.Alike (S : σ → τ → Prop) (c : ContentSource σ) (d : ContentSource τ) :
    Prop where
  handle : c.handle.Alike S d.handle
  stream : Option.Rel (Stream.Alike S) c.stream d.stream
  closed : c.closed = d.closed

/-- Alike actions have the same result, where it is the relation of the values. -/
theorem Act.Alike.perform_eq {α : Type} {a : Act σ α} {b : Act τ α} (h : Act.Alike S Eq a b)
    {s : Session σ} {t : Session τ} (hst : S s.outside t.outside) :
    (s.perform a).1 = (t.perform b).1 ∧ S (s.perform a).2.outside (t.perform b).2.outside :=
  ⟨(h s.outside t.outside hst).1.eq, (h s.outside t.outside hst).2⟩

namespace ContentSource.Alike

variable {c : ContentSource σ} {d : ContentSource τ} {s : Session σ} {t : Session τ}

theorem newStream (h : c.Alike S d) (hst : S s.outside t.outside) :
    Agree (Option.Rel (Stream.Alike S)) (c.newStream s).result (d.newStream t).result ∧
      (c.newStream s).self.Alike S (d.newStream t).self ∧
      S (c.newStream s).session.outside (d.newStream t).session.outside := by
  rcases c with ⟨hc, sc, cc⟩
  rcases d with ⟨hd, sd, cd⟩
  obtain ⟨hhandle, hstream, hclosed⟩ := h
  cases hclosed
  cases cc with
  | true => exact ⟨.error _, ⟨hhandle, hstream, rfl⟩, hst⟩
  | false =>
      cases hstream with
      | some hxy => exact ⟨.ok (.some hxy), ⟨hhandle, .some hxy, rfl⟩, hst⟩
      | none =>
          -- Only here is the handle asked for its stream, and the source keeps what comes.
          have hopen : Act.Alike S (Option.Rel (Stream.Alike S)) hc.stream hd.stream := by
            rw [Handle.stream, Handle.stream, hhandle.closed]
            exact hhandle.openStream hd.closed
          obtain ⟨hagree, hstate⟩ := hopen s.outside t.outside hst
          simp only [ContentSource.newStream, Session.perform]
          rcases ha : hc.stream s.outside with ⟨x, o⟩
          rcases hb : hd.stream t.outside with ⟨y, p⟩
          rw [ha, hb] at hagree hstate
          cases hagree with
          | ok hxy => exact ⟨.ok hxy, ⟨hhandle, hxy, rfl⟩, hstate⟩
          | error e => exact ⟨.error _, ⟨hhandle, .none, rfl⟩, hstate⟩

theorem read (h : c.Alike S d) (hst : S s.outside t.outside) :
    (c.read s).result = (d.read t).result ∧ (c.read s).self.Alike S (d.read t).self ∧
      S (c.read s).session.outside (d.read t).session.outside := by
  obtain ⟨hagree, hself, hstate⟩ := h.newStream hst
  rcases hx : (c.newStream s).result with e | x <;>
    rcases hy : (d.newStream t).result with e' | y <;> rw [hx, hy] at hagree
  · cases hagree
    simp only [ContentSource.read, hx, hy]
    exact ⟨trivial, hself, hstate⟩
  · cases hagree
  · cases hagree
  · rcases hagree with hxy | _
    cases hxy with
    | none =>
        simp only [ContentSource.read, hx, hy]
        exact ⟨trivial, hself, hstate⟩
    | some hxy =>
        simp only [ContentSource.read, hx, hy]
        obtain ⟨hbytes, hstate'⟩ := (hxy.read none).perform_eq hstate
        exact ⟨hbytes, hself, hstate'⟩

theorem close (h : c.Alike S d) (hst : S s.outside t.outside) :
    (c.close s).result = (d.close t).result ∧ (c.close s).self.Alike S (d.close t).self ∧
      S (c.close s).session.outside (d.close t).session.outside := by
  obtain ⟨hresult, hstate⟩ := h.handle.close.perform_eq hst
  refine ⟨hresult, ⟨?_, h.stream, rfl⟩, hstate⟩
  exact ⟨h.handle.contentType, h.handle.contentLength, h.handle.openStream, h.handle.release, rfl⟩

/-- Sources that are alike show the same under every use, and are alike afterwards. -/
theorem use (h : c.Alike S d) (hst : S s.outside t.outside) (u : Use) :
    (c.use u s).1 = (d.use u t).1 ∧ (c.use u s).2.1.Alike S (d.use u t).2.1 ∧
      S (c.use u s).2.2.outside (d.use u t).2.2.outside := by
  cases u with
  | contentType =>
      obtain ⟨hresult, hstate⟩ := h.handle.contentType.perform_eq hst
      exact ⟨congrArg Reading.contentType hresult, h, hstate⟩
  | contentLength =>
      obtain ⟨hresult, hstate⟩ := h.handle.contentLength.perform_eq hst
      exact ⟨congrArg Reading.contentLength hresult, h, hstate⟩
  | read =>
      obtain ⟨hresult, hself, hstate⟩ := h.read hst
      exact ⟨congrArg Reading.data hresult, hself, hstate⟩
  | close =>
      obtain ⟨hresult, hself, hstate⟩ := h.close hst
      exact ⟨congrArg Reading.closed hresult, hself, hstate⟩

theorem readings_eq (h : c.Alike S d) (hst : S s.outside t.outside) (us : List Use) :
    c.readings s us = d.readings t us := by
  induction us generalizing c d s t with
  | nil => rfl
  | cons u us ih =>
      obtain ⟨hreading, hself, hstate⟩ := h.use hst u
      simp only [ContentSource.readings]
      rw [hreading, ih hself hstate]

end ContentSource.Alike

/-- Handles that are alike are seen alike. -/
theorem Handle.Alike.seen_eq {h : Handle σ} {k : Handle τ} (hk : h.Alike S k) {s : Session σ}
    {t : Session τ} (hst : S s.outside t.outside) : h.seen s = k.seen t := by
  funext us
  have hsource : ContentSource.Alike S ⟨h, none, false⟩ ⟨k, none, false⟩ := ⟨hk, .none, rfl⟩
  exact hsource.readings_eq hst us

end Alike

/-! ## Steady clients -/

/-- The answer of a client: the failure, or what can be seen of the object. -/
def Client.answer (c : Client σ) (l : Location) (s : Session σ) :
    Except Failure (List Use → List Reading) :=
  (s.perform (c.fetch l)).1.map fun h ↦ h.seen (s.perform (c.fetch l)).2

/-- Wherever `I` holds outside, the client answers a location in the same way, and fetching an
object, asking it for its content type and closing it keep `I`. -/
structure Client.IsSteady (c : Client σ) (I : σ → Prop) : Prop where
  keeps_fetch : ∀ l, Act.Keeps I (c.fetch l)
  keeps_contentType : ∀ l o h, (c.fetch l o).1 = .ok h → Act.Keeps I h.contentType
  keeps_close : ∀ l o h, (c.fetch l o).1 = .ok h → Act.Keeps I h.close
  answer_eq : ∀ l (s t : Session σ), I s.outside → I t.outside → c.answer l s = c.answer l t

/-- The session has built the client, and `I` holds outside. -/
structure Session.IsServedBy (c : Client σ) (I : σ → Prop) (s : Session σ) : Prop where
  client : s.client = some c
  outside : I s.outside

namespace Session.IsServedBy

variable {c : Client σ} {I : σ → Prop} {s : Session σ}

theorem record (h : s.IsServedBy c I) (e : Event) : (s.record e).IsServedBy c I :=
  ⟨h.client, h.outside⟩

theorem log (h : s.IsServedBy c I) (l : Level) (p : Component) (m : String) :
    (s.log l p m).IsServedBy c I := h.record _

theorem perform {α : Type} {a : Act σ α} (h : s.IsServedBy c I) (ha : Act.Keeps I a) :
    (s.perform a).2.IsServedBy c I := ⟨h.client, ha s.outside h.outside⟩

end Session.IsServedBy

/-! ## Predictable delegates and strategies -/

section Predictable

variable {c : Client σ} {I : σ → Prop} {s t : Session σ}

/-- Wherever `I` holds outside, the answer of the delegate depends on its arguments alone, and
calling it keeps `I`. -/
def Delegate.IsPredictable (I : σ → Prop) : Delegate σ → Prop
  | .disabled | .unloadable _ _ => True
  | .callable _ run => ∃ answer : String → Context → Except Failure Value,
      ∀ identifier context o, I o →
        (run.answer identifier context o).1 = answer identifier context ∧
          I (run.answer identifier context o).2

theorem Delegate.IsPredictable.call {d : Delegate σ} (h : d.IsPredictable I)
    (hs : s.IsServedBy c I) (ht : t.IsServedBy c I) (identifier : String) (context : Context) :
    (d.call identifier context s).1 = (d.call identifier context t).1 ∧
      (d.call identifier context s).2.IsServedBy c I := by
  cases d with
  | disabled => exact ⟨rfl, hs⟩
  | unloadable target cause => exact ⟨rfl, hs⟩
  | callable origin run =>
      obtain ⟨answer, hanswer⟩ := h
      obtain ⟨hresult, hstate⟩ := hanswer identifier context s.outside hs.outside
      refine ⟨?_, hs.client, hstate⟩
      exact hresult.trans (hanswer identifier context t.outside ht.outside).1.symm

theorem Answer.read_eq (v : Value) (identifier : String) (s t : Session σ) :
    (Answer.read v identifier s).1 = (Answer.read v identifier t).1 := by
  rcases h : Answer.ofValue v with p | a <;> simp only [Answer.read, h]

theorem Session.IsServedBy.read (hs : s.IsServedBy c I) (v : Value) (identifier : String) :
    (Answer.read v identifier s).2.IsServedBy c I := by
  rcases h : Answer.ofValue v with p | a <;> simp only [Answer.read, h]
  · cases p with
    | unusable mapping => exact hs.log _ _ _
    | emptyKey | unsupported | overlong => exact hs
  · exact hs

theorem Delegate.IsPredictable.ask {d : Delegate σ} (h : d.IsPredictable I)
    (hs : s.IsServedBy c I) (ht : t.IsServedBy c I) (identifier : String) (context : Context) :
    (Strategy.ask d identifier context s).1 = (Strategy.ask d identifier context t).1 ∧
      (Strategy.ask d identifier context s).2.IsServedBy c I := by
  let note := "Invoking " ++ getObjectKey ++ " for " ++ identifier
  obtain ⟨hcall, hserved⟩ := h.call (hs.log .debug .strategies note)
    (ht.log .debug .strategies note) identifier context
  rcases hx : d.call identifier context (s.log .debug .strategies note) with ⟨x, s'⟩
  rcases hy : d.call identifier context (t.log .debug .strategies note) with ⟨y, t'⟩
  rw [hx, hy] at hcall
  rw [hx] at hserved
  cases hcall
  rcases x with e | v
  · simp only [Strategy.ask, note, hx, hy]
    exact ⟨trivial, hserved.log _ _ _⟩
  · simp only [Strategy.ask, note, hx, hy]
    exact ⟨Answer.read_eq v identifier s' t', hserved.read v identifier⟩

/-- Wherever `I` holds outside, the location that the strategy finds depends on its arguments
alone, and looking it up keeps `I`. -/
def Strategy.IsPredictable (I : σ → Prop) : Strategy σ → Prop
  | .direct _ => True
  | .dynamic d _ => d.IsPredictable I
  | .custom resolve => ∃ answer : Identifier → Context → Except Failure Location,
      ∀ identifier context o, I o →
        (resolve identifier context o).1 = answer identifier context ∧
          I (resolve identifier context o).2

theorem Strategy.IsPredictable.resolve {st : Strategy σ} (h : st.IsPredictable I)
    (hs : s.IsServedBy c I) (ht : t.IsServedBy c I) (identifier : Identifier)
    (context : Context) :
    (st.resolve identifier context s).1 = (st.resolve identifier context t).1 ∧
      (st.resolve identifier context s).2.IsServedBy c I := by
  cases st with
  | direct bucket => exact ⟨rfl, hs⟩
  | dynamic d bucket =>
      obtain ⟨hask, hserved⟩ := Delegate.IsPredictable.ask h hs ht identifier.value context
      refine ⟨?_, hserved⟩
      exact congrArg (fun a ↦ a.bind (ofAnswer bucket identifier.value)) hask
  | custom resolve =>
      obtain ⟨answer, hanswer⟩ := h
      obtain ⟨hresult, hstate⟩ := hanswer identifier context s.outside hs.outside
      refine ⟨?_, hs.client, hstate⟩
      exact hresult.trans (hanswer identifier context t.outside ht.outside).1.symm

end Predictable

end ObjectLookup
