import ObjectLookup.Proofs.Scripted.Playback
import ObjectLookup.Proofs.Text.Pieces
import ObjectLookup.Scripted.Catalogue

/-! # What importing from a catalogue meets first

The package of a module is imported before the module is looked for. So what goes wrong with a
package, or with a package of that, is met before anything that is wrong with the module itself
(`Meets`). For each name one thing is met and no other (`exists_meets`, `Meets.unique`), and that is
what importing the module ends in (`importModule_of_meets`).
-/

namespace ObjectLookup.Scripted.Catalogue

variable {c : Catalogue} {name package : String} {parent : Option Module} {m : Module}
  {names more : List String} {o : Stage} {x y : Except Failure Module}

/-! ## Packages -/

/-- The name is that of the package, a dot, and one more name. -/
def IsBelow (name package : String) : Prop :=
  ∃ rest, name.toList = package.toList ++ '.' :: rest ∧ '.' ∉ rest

theorem root_or_isBelow (name : String) : '.' ∉ name.toList ∨ ∃ package, IsBelow name package := by
  rcases h : Text.cutLast? '.' name.toList with _ | ⟨package, rest⟩
  · exact .inl (Text.cutLast?_eq_none.1 h)
  · obtain ⟨hname, hrest⟩ := Text.cutLast?_eq_some.1 h
    exact .inr ⟨String.ofList package, rest, by rw [hname, String.toList_ofList], hrest⟩

theorem path_of_root (h : '.' ∉ name.toList) : path name = [name] := by
  have hparts : Text.pieces '.' name.toList = [name.toList] := Text.pieces_of_notMem h
  simp [path, hparts]

/-- What is on the way to a package is on the way to the modules in it, which come last. -/
theorem path_of_isBelow (h : IsBelow name package) : path name = path package ++ [name] := by
  obtain ⟨rest, hname, hrest⟩ := h
  have hparts : Text.pieces '.' name.toList = Text.pieces '.' package.toList ++ [rest] := by
    rw [hname, Text.pieces_append_cons, Text.pieces_of_notMem hrest]
  have hwhole : List.intercalate ['.'] (Text.pieces '.' package.toList ++ [rest]) =
      name.toList := by
    rw [← hparts, Text.intercalate_pieces]
  simp only [path, hparts, List.length_append, List.length_singleton, List.range_succ,
    List.map_append, List.map_singleton]
  congr 1
  · refine List.map_congr_left fun n hn ↦ ?_
    rw [List.take_append_of_le_length (List.mem_range.1 hn)]
  · rw [List.take_of_length_le (by simp), hwhole, String.ofList_toList]

/-! ## Importing one module after the other -/

/-- The module of a name, if it is in the catalogue and its import does not fail. -/
def found (c : Catalogue) (name : String) (parent : Option Module) : Except Failure Module :=
  match c.get? name with
  | none => .error ⟨noModule name parent, []⟩
  | some m =>
    match m.failure with
    | some e => .error e
    | none => .ok m

theorem importAll_cons (c : Catalogue) (parent : Option Module) (name : String)
    (names : List String) (o : Stage) :
    c.importAll parent (name :: names) o = match c.found name parent with
      | .error e => (.error e, o)
      | .ok m => c.importAll (some m) names { o with imported := name :: o.imported } := by
  rcases hm : c.get? name with _ | m
  · simp only [importAll, found, hm]
    rfl
  · simp only [importAll, found, hm, Act.bind_apply, raise?_apply]
    rcases m.failure with _ | e <;> rfl

theorem importAll_append (c : Catalogue) (parent : Option Module) (names more : List String)
    (o : Stage) :
    c.importAll parent (names ++ more) o = match c.importAll parent names o with
      | (.error e, o) => (.error e, o)
      | (.ok k, o) => c.importAll k more o := by
  induction names generalizing parent o with
  | nil => rfl
  | cons name names ih =>
      rw [List.cons_append, importAll_cons, importAll_cons]
      rcases c.found name parent with e | m
      · rfl
      · exact ih _ _

/-- What is met on the way to a module: what is met for its package, if that fails, and else what
becomes of the module itself. -/
inductive Meets (c : Catalogue) : String → Except Failure Module → Prop where
  | root {name : String} (h : '.' ∉ name.toList) : Meets c name (c.found name none)
  | inside {name package : String} {m : Module} (h : IsBelow name package)
      (hpackage : Meets c package (.ok m)) : Meets c name (c.found name (some m))
  | blocked {name package : String} {e : Failure} (h : IsBelow name package)
      (hpackage : Meets c package (.error e)) : Meets c name (.error e)

theorem fst_importAll_of_meets (h : Meets c name x) (o : Stage) :
    (c.importAll none (path name) o).1 = x.map some := by
  induction h generalizing o with
  | @root name hroot =>
      rw [path_of_root hroot, importAll_cons]
      rcases c.found name none with e | m <;> rfl
  | @inside name package m hbelow _ ih =>
      rw [path_of_isBelow hbelow, importAll_append]
      have hpackage := ih o
      rcases himport : c.importAll none (path package) o with ⟨e | k, o'⟩ <;>
        rw [himport] at hpackage <;> cases hpackage
      simp only [importAll_cons]
      rcases c.found name (some m) with e | m' <;> rfl
  | @blocked name package e hbelow _ ih =>
      rw [path_of_isBelow hbelow, importAll_append]
      have hpackage := ih o
      rcases himport : c.importAll none (path package) o with ⟨e' | k, o'⟩ <;>
        rw [himport] at hpackage <;> cases hpackage
      rfl

theorem exists_meets (c : Catalogue) (name : String) : ∃ x, Meets c name x := by
  induction hn : name.toList.length using Nat.strongRecOn generalizing name with
  | ind n ih =>
      rcases root_or_isBelow name with hroot | ⟨package, hbelow⟩
      · exact ⟨_, .root hroot⟩
      · have hshorter : package.toList.length < n := by
          obtain ⟨rest, hname, -⟩ := hbelow
          rw [← hn, hname, List.length_append]
          simp
        obtain ⟨x, hx⟩ := ih _ hshorter package rfl
        rcases x with e | m
        · exact ⟨_, .blocked hbelow hx⟩
        · exact ⟨_, .inside hbelow hx⟩

/-- Only one thing is met on the way to a module. -/
theorem Meets.unique (hx : Meets c name x) (hy : Meets c name y) : x = y := by
  have h := (fst_importAll_of_meets hx {}).symm.trans (fst_importAll_of_meets hy {})
  rcases x with e | m <;> rcases y with e' | m' <;> cases h <;> rfl

/-- A module that is imported is the one of its name. -/
theorem importModule_of_meets (h : Meets c name x) (o : Stage) :
    ∃ imported, (c.importModule name o).1 =
      x.map fun m ↦ moduleMember m.name (m.members ++ c.submodules m imported) := by
  have himport := fst_importAll_of_meets h o
  rcases hall : c.importAll none (path name) o with ⟨e | k, o'⟩ <;> rw [hall] at himport <;>
    rcases x with e' | m <;> cases himport
  · refine ⟨[], ?_⟩
    simp only [importModule, Act.bind_apply, hall]
    rfl
  · refine ⟨o'.imported, ?_⟩
    simp only [importModule, Act.bind_apply, hall]
    rfl

end ObjectLookup.Scripted.Catalogue
