import ObjectLookup.Delegate.Load
import ObjectLookup.Proofs.Settings.Form
import ObjectLookup.Proofs.Text.Pieces

/-! # Loading defers every failure

A target that settings accept is cut in one way into a module and the names behind it (`IsCut`).
What loading it comes to is put down in `ComesTo`: the last member, if everything up to it is there
and it can be called, or else the stand-in for the failure that was met first. Loading comes to that
and to nothing else (`comesTo_iff`). It imports the module once, and nothing if no delegate is
wanted.

A stand-in refuses each of its calls in the same way, and leaves the session alone
(`call_of_refusal`).
-/

namespace ObjectLookup

variable {σ : Type} {e : Failure}

/-! ## Following names -/

namespace Member

variable {m n k : Member σ} {name : String} {path : List String}

/-- Followed from left to right, the names lead from one member to another. -/
inductive Reaches : Member σ → List String → Member σ → Prop where
  | here (m : Member σ) : Reaches m [] m
  | step {m n k : Member σ} {name : String} {path : List String} (h : m.member name = .ok n)
      (hpath : Reaches n path k) : Reaches m (name :: path) k

/-- All names lead on but one, which fails; those behind it do not count. -/
inductive Stops : Member σ → List String → Failure → Prop where
  | at {m n : Member σ} {before after : List String} {name : String} {e : Failure}
      (hbefore : Reaches m before n) (h : n.member name = .error e) :
      Stops m (before ++ name :: after) e

theorem follow_eq_ok : m.follow path = .ok k ↔ m.Reaches path k := by
  induction path generalizing m with
  | nil =>
      constructor
      · intro h
        cases h
        exact .here _
      · intro h
        cases h
        rfl
  | cons name path ih =>
      constructor
      · intro h
        rcases hm : m.member name with e | n <;> simp only [follow, hm] at h
        · cases h
        · exact .step hm (ih.1 h)
      · intro h
        cases h with
        | step hm hpath => simp only [follow, hm, ih.2 hpath]

theorem follow_eq_error : m.follow path = .error e ↔ m.Stops path e := by
  constructor
  · intro h
    induction path generalizing m with
    | nil => cases h
    | cons name path ih =>
        rcases hm : m.member name with e' | n <;> simp only [follow, hm] at h
        · cases h
          show m.Stops ([] ++ name :: path) e
          exact .at (.here m) hm
        · obtain ⟨hbefore, hname⟩ := ih h
          exact .at (.step hm hbefore) hname
  · rintro ⟨hbefore, hname⟩
    induction hbefore with
    | here m => simp only [List.nil_append, follow, hname]
    | step hm _ ih => simp only [List.cons_append, follow, hm, ih hname]

end Member

namespace Delegate

variable {importer : Importer σ} {settings : Settings} {s t : Session σ} {target module : String}
  {names : List String} {d : Delegate σ} {m : Member σ}

/-! ## Cutting a target -/

/-- The target is the module, its only colon, and the names with dots between them. -/
structure IsCut (target module : String) (names : List String) : Prop where
  text : target.toList = module.toList ++ ':' :: ['.'].intercalate (names.map String.toList)
  colon_module : ':' ∉ module.toList
  ne_nil : names ≠ []
  colon_names : ∀ name ∈ names, ':' ∉ name.toList
  dot_names : ∀ name ∈ names, '.' ∉ name.toList

theorem IsCut.cutFirst? (h : IsCut target module names) :
    Text.cutFirst? ':' target.toList =
      some (module.toList, ['.'].intercalate (names.map String.toList)) :=
  Text.cutFirst?_eq_some.2 ⟨h.text, h.colon_module⟩

theorem IsCut.targetModule_eq (h : IsCut target module names) : targetModule target = module := by
  simp only [targetModule, h.cutFirst?, String.ofList_toList]

theorem IsCut.targetPath_eq (h : IsCut target module names) : targetPath target = names := by
  have hpieces : Text.pieces '.' (['.'].intercalate (names.map String.toList)) =
      names.map String.toList := by
    apply Text.pieces_intercalate
    · intro p hp
      obtain ⟨name, hname, rfl⟩ := List.mem_map.1 hp
      exact h.dot_names name hname
    · simpa using h.ne_nil
  have hid : String.ofList ∘ String.toList = id := funext fun _ ↦ String.ofList_toList
  simp only [targetPath, h.cutFirst?, hpieces, List.map_map, hid, List.map_id]

theorem exists_isCut (h : Settings.isTarget target.toList = true) :
    ∃ module names, IsCut target module names := by
  obtain ⟨m, p, htext, hm, hp, -⟩ := Settings.exists_cut_of_isTarget h
  have hid : String.toList ∘ String.ofList = id := funext fun _ ↦ String.toList_ofList
  refine ⟨String.ofList m, (Text.pieces '.' p).map String.ofList, ?_, ?_, ?_, ?_, ?_⟩
  · rw [String.toList_ofList, List.map_map, hid, List.map_id, Text.intercalate_pieces, htext]
  · rwa [String.toList_ofList]
  · exact mt List.map_eq_nil_iff.1 (Text.pieces_ne_nil '.' p)
  · intro name hname
    obtain ⟨piece, hpiece, rfl⟩ := List.mem_map.1 hname
    rw [String.toList_ofList]
    exact fun hcolon ↦ hp (Text.subset_of_mem_pieces hpiece hcolon)
  · intro name hname
    obtain ⟨piece, hpiece, rfl⟩ := List.mem_map.1 hname
    rw [String.toList_ofList]
    exact Text.notMem_of_mem_pieces hpiece

/-! ## What loading comes to -/

theorem wanted?_eq_none : wanted? settings = none ↔
    settings.delegateEnabled = false ∨ settings.delegateTarget = none ∨
      settings.delegateTarget = some "" := by
  unfold wanted?
  split
  · rename_i henabled
    rw [given?_eq_none, henabled]
    rcases settings.delegateTarget with _ | t <;> simp
  · rename_i henabled
    simp [henabled]

theorem wanted?_eq_some : wanted? settings = some target ↔
    settings.delegateEnabled = true ∧ settings.delegateTarget = some target ∧ target ≠ "" := by
  unfold wanted?
  split
  · rename_i henabled
    rw [given?_eq_some, and_iff_right henabled]
  · rename_i henabled
    exact iff_of_false nofun fun h ↦ henabled h.1

theorem load_of_find_error (hw : wanted? settings = some target)
    (h : (find importer target s).1 = .error e) :
    (load importer settings s).1 = .unloadable target e := by
  rcases hf : find importer target s with ⟨e' | m, s'⟩ <;> rw [hf] at h <;> cases h
  simp only [load, hw, hf]

theorem load_of_not_callable (hw : wanted? settings = some target)
    (h : (find importer target s).1 = .ok m) (hm : m.call? = none) :
    (load importer settings s).1 = .unloadable target (notCallable target) := by
  rcases hf : find importer target s with ⟨e' | m', s'⟩ <;> rw [hf] at h <;> cases h
  simp only [load, hw, hf, hm]

theorem load_of_callable {run : Lookup σ} (hw : wanted? settings = some target)
    (h : (find importer target s).1 = .ok m) (hm : m.call? = some run) :
    (load importer settings s).1 = .callable (.loaded target) run := by
  rcases hf : find importer target s with ⟨e' | m', s'⟩ <;> rw [hf] at h <;> cases h
  simp only [load, hw, hf, hm]

/-- What loading a target comes to: the member at the end of its path, if all on the way is there
and that can be called, and else the stand-in for the first failure. -/
inductive ComesTo (importer : Importer σ) (target module : String) (names : List String) (o : σ) :
    Delegate σ → Prop where
  | loaded {m n : Member σ} {run : Lookup σ} (hm : (importer module o).1 = .ok m)
      (hn : m.Reaches names n) (hrun : n.call? = some run) :
      ComesTo importer target module names o (.callable (.loaded target) run)
  | unimported {e : Failure} (he : (importer module o).1 = .error e) :
      ComesTo importer target module names o (.unloadable target e)
  | unreached {m : Member σ} {e : Failure} (hm : (importer module o).1 = .ok m)
      (he : m.Stops names e) : ComesTo importer target module names o (.unloadable target e)
  | uncallable {m n : Member σ} (hm : (importer module o).1 = .ok m) (hn : m.Reaches names n)
      (hrun : n.call? = none) :
      ComesTo importer target module names o
        (.unloadable target ⟨.other "TypeError" (target ++ " is not callable"), []⟩)

theorem find_of_import_error (h : IsCut target module names)
    (he : (importer module s.outside).1 = .error e) : (find importer target s).1 = .error e := by
  have himport : ((s.record (.imported target)).perform (importer (targetModule target))).1 =
      .error e := by
    rw [h.targetModule_eq]
    exact he
  rcases hx : (s.record (.imported target)).perform (importer (targetModule target)) with
    ⟨e' | m, s'⟩ <;> rw [hx] at himport <;> cases himport
  simp only [find, hx]

theorem find_of_import_ok (h : IsCut target module names)
    (hm : (importer module s.outside).1 = .ok m) :
    (find importer target s).1 = m.follow names := by
  have himport : ((s.record (.imported target)).perform (importer (targetModule target))).1 =
      .ok m := by
    rw [h.targetModule_eq]
    exact hm
  rcases hx : (s.record (.imported target)).perform (importer (targetModule target)) with
    ⟨e | m', s'⟩ <;> rw [hx] at himport <;> cases himport
  simp only [find, hx, h.targetPath_eq]

/-- Loading comes to what the target comes to, and to nothing else. -/
theorem comesTo_iff (h : IsCut target module names) (hw : wanted? settings = some target) :
    ComesTo importer target module names s.outside d ↔ (load importer settings s).1 = d := by
  constructor
  · intro hd
    cases hd with
    | loaded hm hn hrun =>
        refine load_of_callable hw ?_ hrun
        rw [find_of_import_ok h hm]
        exact Member.follow_eq_ok.2 hn
    | unimported he => exact load_of_find_error hw (find_of_import_error h he)
    | unreached hm he =>
        refine load_of_find_error hw ?_
        rw [find_of_import_ok h hm]
        exact Member.follow_eq_error.2 he
    | uncallable hm hn hrun =>
        refine load_of_not_callable hw ?_ hrun
        rw [find_of_import_ok h hm]
        exact Member.follow_eq_ok.2 hn
  · rintro rfl
    rcases hm : (importer module s.outside).1 with e | m
    · rw [load_of_find_error hw (find_of_import_error h hm)]
      exact .unimported hm
    · have hfind : (find importer target s).1 = m.follow names := find_of_import_ok h hm
      rcases hn : m.follow names with e | n <;> rw [hn] at hfind
      · rw [load_of_find_error hw hfind]
        exact .unreached hm (Member.follow_eq_error.1 hn)
      · rcases hrun : n.call? with _ | run
        · rw [load_of_not_callable hw hfind hrun]
          exact .uncallable hm (Member.follow_eq_ok.1 hn) hrun
        · rw [load_of_callable hw hfind hrun]
          exact .loaded hm (Member.follow_eq_ok.1 hn) hrun

/-! ## What loading does -/

/-- The module was imported once, and but for log lines nothing else was done. -/
structure ImportsOnce (importer : Importer σ) (target module : String) (s t : Session σ) :
    Prop where
  outside : t.outside = (importer module s.outside).2
  client : t.client = s.client
  events : ∃ notes : List LogRecord,
    t.events = s.events ++ .imported target :: notes.map .logged

theorem session_find (importer : Importer σ) (target : String) (s : Session σ) :
    (find importer target s).2 =
      ((s.record (.imported target)).perform (importer (targetModule target))).2 := by
  rcases hx : (s.record (.imported target)).perform (importer (targetModule target)) with
    ⟨e | m, s'⟩ <;> simp only [find, hx]

theorem ImportsOnce.log (h : ImportsOnce importer target module s t) (level : Level)
    (component : Component) (message : String) :
    ImportsOnce importer target module s (t.log level component message) where
  outside := h.outside
  client := h.client
  events := by
    obtain ⟨notes, hnotes⟩ := h.events
    refine ⟨notes ++ [⟨level, component, message⟩], ?_⟩
    rw [Session.log, Session.events_record, hnotes, List.map_append, List.append_assoc]
    rfl

theorem importsOnce_load (h : IsCut target module names) (hw : wanted? settings = some target) :
    ImportsOnce importer target module s (load importer settings s).2 := by
  have hfind : ImportsOnce importer target module s (find importer target s).2 := by
    rw [session_find, h.targetModule_eq]
    exact ⟨rfl, rfl, [], by simp⟩
  rcases hf : find importer target s with ⟨e | m, t⟩ <;> rw [hf] at hfind
  · simp only [load, hw, hf]
    exact hfind.log _ _ _
  · rcases hm : m.call? with _ | run <;> simp only [load, hw, hf, hm]
    · exact hfind
    · exact hfind.log _ _ _

theorem load_of_unwanted (hw : wanted? settings = none) :
    load importer settings s = (.disabled, s.log .debug .delegate "Delegate disabled") := by
  simp only [load, hw]

/-! ## Stand-ins -/

/-- What a stand-in fails with. -/
def refusal? : Delegate σ → Option Failure
  | .disabled => some ⟨disabledFault, []⟩
  | .unloadable target e => some (.because (loadFault target e) e)
  | .callable _ _ => none

/-- A stand-in refuses every call in the same way, and leaves the session as it is. -/
theorem call_of_refusal {g : Failure} (h : d.refusal? = some g) (identifier : String)
    (context : Context) (s : Session σ) : d.call identifier context s = (.error g, s) := by
  cases d with
  | disabled =>
      cases h
      rfl
  | unloadable target e =>
      cases h
      rfl
  | callable origin run => cases h

end Delegate

end ObjectLookup
