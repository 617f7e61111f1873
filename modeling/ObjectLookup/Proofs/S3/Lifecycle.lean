import ObjectLookup.Proofs.Session.Watched
import ObjectLookup.Proofs.Scripted.Store

/-! # The life of an S3 object

An object is opened and closed by whoever has it, in any order and as often as they like. All that
it knows of that is whether it has been closed (`Object.fst_callAll`): it is closed from the first
attempt on, whatever comes of it. So its body is closed by that attempt and by no other
(`Object.callAll_watched`), and given out until then.
-/

namespace ObjectLookup.S3

variable {σ : Type} {l : Location} {response : Response σ} {body : Stream σ}

namespace Object

/-! ## Calls -/

/-- What is done with an object. -/
inductive Call where
  | openBody | close
deriving DecidableEq, Repr

/-- What a call returns. -/
inductive Returned (σ : Type) where
  | body (body : Option (Stream σ))
  | closed

def call (x : Object σ) (c : Call) (s : Session σ) : Step (Object σ) σ (Returned σ) :=
  match c with
  | .openBody => ⟨x.openBody.map .body, x, s⟩
  | .close =>
    let (result, s) := s.perform x.close
    ⟨result.map fun () ↦ .closed, x.afterClose, s⟩

/-- What a sequence of calls leaves. -/
def callAll (x : Object σ) (s : Session σ) : List Call → Object σ × Session σ
  | [] => (x, s)
  | c :: cs =>
    let step := x.call c s
    callAll step.self step.session cs

theorem self_call (x : Object σ) (c : Call) (s : Session σ) :
    (x.call c s).self = { x with closed := x.closed || decide (c = .close) } := by
  cases c with
  | openBody =>
      rw [decide_eq_false (nofun : ¬ Call.openBody = .close), Bool.or_false]
      rfl
  | close =>
      rw [decide_eq_true rfl, Bool.or_true]
      rfl

/-- Calls leave nothing behind in the object but that it was closed. -/
theorem fst_callAll (x : Object σ) (s : Session σ) (cs : List Call) :
    (x.callAll s cs).1 = { x with closed := x.closed || decide (.close ∈ cs) } := by
  induction cs generalizing x s with
  | nil => simp [callAll]
  | cons c cs ih =>
      rw [callAll, ih, self_call]
      simp [Bool.or_assoc, eq_comm]

/-! ## Open and closed objects -/

variable {x : Object σ}

theorem call_openBody_of_closed (h : x.closed = true) (s : Session σ) :
    x.call .openBody s = ⟨.error (closedFailure x.location), x, s⟩ := by
  simp only [call, openBody, h, if_true]
  rfl

theorem call_openBody_of_open (h : x.closed = false) (s : Session σ) :
    x.call .openBody s = ⟨.ok (.body x.response.body), x, s⟩ := by
  simp only [call, openBody, h]
  rfl

/-- Closing an object once more does nothing. -/
theorem call_close_of_closed (h : x.closed = true) (s : Session σ) :
    x.call .close s = ⟨.ok .closed, x, s⟩ := by
  have hafter : x.afterClose = x := by rw [afterClose, ← h]
  simp only [call, close_of_closed h, hafter]
  rfl

/-- Closing an object that is open closes its body. -/
theorem call_close_of_open (h : x.closed = false) (hbody : x.response.body = some body)
    (s : Session σ) :
    x.call .close s = ⟨(s.perform body.close).1.map fun () ↦ .closed, x.afterClose,
      (s.perform body.close).2⟩ := by
  have hclose : x.close = body.close := by simp only [close, h, hbody]
  simp only [call, hclose]

/-- No call changes the session once the object is closed. -/
theorem callAll_of_closed (h : x.closed = true) (s : Session σ) (cs : List Call) :
    x.callAll s cs = (x, s) := by
  induction cs with
  | nil => rfl
  | cons c cs ih =>
      have hcall : (x.call c s).self = x ∧ (x.call c s).session = s := by
        cases c with
        | openBody => exact ⟨rfl, rfl⟩
        | close =>
            rw [call_close_of_closed h]
            exact ⟨rfl, rfl⟩
      rw [callAll, hcall.1, hcall.2, ih]

/-- Of all calls together, the first to close the object closes the body, and nothing else is done
outside. -/
theorem snd_callAll (h : x.closed = false) (hbody : x.response.body = some body) (s : Session σ)
    (cs : List Call) :
    (x.callAll s cs).2 = if .close ∈ cs then (s.perform body.close).2 else s := by
  induction cs with
  | nil => rfl
  | cons c cs ih =>
      cases c with
      | openBody =>
          rw [callAll, call_openBody_of_open h]
          simpa using ih
      | close =>
          rw [callAll, call_close_of_open h hbody, callAll_of_closed rfl]
          simp

end Object

/-! ## Watched bodies -/

/-- The response, whose body has a row in the ledger. -/
def Response.watched (i : Nat) (response : Response σ) : Response (Watched σ) where
  contentType := response.contentType
  contentLength := response.contentLength
  etag := response.etag
  body := response.body.map (Stream.watched i)

namespace Object

def watched (i : Nat) (x : Object σ) : Object (Watched σ) where
  location := x.location
  response := x.response.watched i
  closed := x.closed

/-- The first attempt to close the object is entered as one to close the body, and no other call
is. Else the ledger changes nothing. -/
theorem callAll_watched {x : Object σ} (h : x.closed = false) (hbody : x.response.body = some body)
    (s : Session σ) (cs : List Call) :
    (x.watched 0).callAll (s.watched [[]]) cs =
      ((x.callAll s cs).1.watched 0,
        (x.callAll s cs).2.watched [if .close ∈ cs then [.closeStream] else []]) := by
  have hwatched : (x.watched 0).response.body = some (body.watched 0) := by
    simp only [watched, Response.watched, hbody]
    rfl
  refine Prod.ext ?_ ?_
  · rw [fst_callAll, fst_callAll]
    rfl
  · rw [snd_callAll (x := x.watched 0) h hwatched, snd_callAll h hbody]
    split <;> rfl

end Object

/-! ## Objects of a response -/

/-- Whatever calls an object of a response has seen, it gives out the body of the response until
the first attempt to close it, and refuses to after that. That attempt closes the body and ends as
that ends; every later one does nothing. So the body is closed once in all, or not at all if the
object is not. What is told of the object is the same all the time. -/
theorem body_closed_once (hbody : response.body = some body) (l : Location) (s : Session σ)
    (before : List Object.Call) :
    let x : Object σ := ⟨l, response, false⟩
    let y := (x.callAll s before).1
    let session := (x.callAll s before).2
    (.close ∉ before →
      session = s ∧ (∀ t, y.call .openBody t = ⟨.ok (.body (some body)), y, t⟩) ∧
      ∀ t, (y.call .close t).result = (t.perform body.close).1.map (fun () ↦ .closed) ∧
        (y.call .close t).session = (t.perform body.close).2) ∧
    (.close ∈ before →
      session = (s.perform body.close).2 ∧
      (∀ t, y.call .openBody t =
        ⟨.error (.invalidValue ("S3 object " ++ l.uri ++ " is closed")), y, t⟩) ∧
      ∀ t, y.call .close t = ⟨.ok .closed, y, t⟩) ∧
    (x.watched 0).callAll (s.watched [[]]) before =
      (y.watched 0, session.watched [if .close ∈ before then [.closeStream] else []]) ∧
    y.handle.contentType = x.handle.contentType ∧
    y.handle.contentLength = x.handle.contentLength ∧ y.etag = x.etag := by
  intro x y session
  have hy : y = { x with closed := decide (.close ∈ before) } := by
    simp only [y, Object.fst_callAll, x, Bool.false_or]
  have hsession : session = if .close ∈ before then (s.perform body.close).2 else s :=
    Object.snd_callAll (x := x) rfl hbody s before
  refine ⟨fun hnot ↦ ?_, fun hclose ↦ ?_, Object.callAll_watched (x := x) rfl hbody s before, ?_⟩
  · have hopen : y.closed = false := by rw [hy, decide_eq_false hnot]
    have hresponse : y.response.body = some body := by rw [hy]; exact hbody
    refine ⟨by rw [hsession, if_neg hnot], fun t ↦ ?_, fun t ↦ ?_⟩
    · rw [Object.call_openBody_of_open hopen, hresponse]
    · rw [Object.call_close_of_open hopen hresponse]
      exact ⟨rfl, rfl⟩
  · have hclosed : y.closed = true := by rw [hy, decide_eq_true hclose]
    refine ⟨by rw [hsession, if_pos hclose], fun t ↦ ?_, Object.call_close_of_closed hclosed⟩
    rw [Object.call_openBody_of_closed hclosed, hy]
    rfl
  · rw [hy]
    exact ⟨rfl, rfl, rfl⟩

/-- An object that was fetched, whose stream fails to close. -/
def stuck : Session Scripted.Stage where
  outside := { fetched := [{
    object := { data := some [1, 2], faults := { bodyClose := some (.invalidValue "stuck") } }
    rest := [1, 2] }] }

/-- The first attempt to close the object fails, and it counts: the body is not closed again, and
not given out any more. -/
theorem body_closed_once_stuck :
    let response : Response Scripted.Stage :=
      { contentType := some "image/png", body := some (Scripted.stream 0) }
    let x : Object Scripted.Stage := ⟨⟨"images", "a.png"⟩, response, false⟩
    let y := (x.callAll stuck [.openBody, .close]).1
    response.body = some (Scripted.stream 0) ∧
      ((x.callAll stuck [.openBody]).1.call .close stuck).result =
        .error (.invalidValue "stuck") ∧
      y.call .close stuck = ⟨.ok .closed, y, stuck⟩ ∧
      y.call .openBody stuck =
        ⟨.error (.invalidValue "S3 object s3://images/a.png is closed"), y, stuck⟩ ∧
      ((x.watched 0).callAll (stuck.watched [[]])
        [.openBody, .close, .openBody, .close]).2.outside.ledger = [[.closeStream]] := by
  intro response x y
  have hbody : response.body = some (Scripted.stream 0) := rfl
  obtain ⟨hfirst, -⟩ := body_closed_once hbody ⟨"images", "a.png"⟩ stuck [.openBody]
  obtain ⟨-, hlater, -⟩ := body_closed_once hbody ⟨"images", "a.png"⟩ stuck [.openBody, .close]
  obtain ⟨-, -, hledger, -⟩ := body_closed_once hbody ⟨"images", "a.png"⟩ stuck
    [.openBody, .close, .openBody, .close]
  obtain ⟨-, hopen, hclose⟩ := hlater (by decide)
  refine ⟨hbody, ?_, hclose stuck, hopen stuck, ?_⟩
  · exact ((hfirst (by decide)).2.2 stuck).1.trans rfl
  · rw [hledger]
    rfl

end ObjectLookup.S3
