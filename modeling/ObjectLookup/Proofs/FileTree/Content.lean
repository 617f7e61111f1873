import ObjectLookup.FileTree

/-! # The content of a file

Where a path leads depends on the directories that it passes through, and a file is none of them. So
making, changing or removing the file that a path leads to leaves the path leading to the same place
(`locate_of_directories`), and the operations on a file are described by the content that is found
under its path: `content?_create`, `content?_append`, `at?_unlink`.
-/

namespace ObjectLookup.FileTree

variable {t u : FileTree} {p : Path} {place q : List String} {node : Node}

/-! ## Nodes -/

theorem lookup_cons_ite (k q : List String) (x : Node) (nodes : List (List String × Node)) :
    ((k, x) :: nodes).lookup q = if q = k then some x else nodes.lookup q := by
  by_cases h : q = k
  · simp [h]
  · have hne : (q == k) = false := by simpa using h
    simp [List.lookup_cons, h, hne]

theorem lookup_map_ite (place q : List String) (node : Node) (nodes : List (List String × Node)) :
    (nodes.map fun n ↦ if n.1 = place then (place, node) else n).lookup q =
      if q = place then (nodes.lookup q).map fun _ ↦ node else nodes.lookup q := by
  induction nodes with
  | nil => simp
  | cons n nodes ih =>
      obtain ⟨k, x⟩ := n
      by_cases hk : k = place <;> grind [lookup_cons_ite]

theorem lookup_filter_ne (place q : List String) (nodes : List (List String × Node)) :
    (nodes.filter (·.1 ≠ place)).lookup q = if q = place then none else nodes.lookup q := by
  induction nodes with
  | nil => simp
  | cons n nodes ih =>
      obtain ⟨k, x⟩ := n
      by_cases hk : k = place <;> grind [lookup_cons_ite]

theorem any_iff_isSome_lookup (place : List String) (nodes : List (List String × Node)) :
    nodes.any (·.1 = place) ↔ (nodes.lookup place).isSome := by
  induction nodes with
  | nil => simp
  | cons n nodes ih =>
      obtain ⟨k, x⟩ := n
      by_cases hk : place = k
      · simp [hk]
      · have hk' : k ≠ place := fun h ↦ hk h.symm
        rw [lookup_cons_ite, if_neg hk, ← ih]
        simp [hk']

theorem node?_set (hplace : place ≠ []) (node : Node) (t : FileTree) (q : List String) :
    (t.set place node).node? q = if q = place then some node else t.node? q := by
  by_cases hq : q = []
  · subst hq
    simp [node?, hplace.symm]
  · simp only [node?, set, hq, if_false]
    by_cases hany : t.nodes.any (·.1 = place)
    · obtain ⟨x, hx⟩ := Option.isSome_iff_exists.1 ((any_iff_isSome_lookup _ _).1 hany)
      rw [if_pos hany]
      simp only [lookup_map_ite]
      by_cases hqp : q = place
      · simp [hqp, hx]
      · simp [hqp]
    · have hx : t.nodes.lookup place = none :=
        Option.not_isSome_iff_eq_none.1 fun h ↦ hany ((any_iff_isSome_lookup _ _).2 h)
      rw [if_neg hany]
      simp only [List.lookup_append, lookup_cons_ite]
      by_cases hqp : q = place
      · simp [hqp, hx]
      · simp [hqp]

/-- The root is a directory. -/
theorem ne_nil_of_node? (hnode : t.node? place ≠ some .directory) : place ≠ [] := by
  rintro rfl
  exact hnode rfl

theorem node?_remove (hplace : place ≠ []) (t : FileTree) (q : List String) :
    (t.remove place).node? q = if q = place then none else t.node? q := by
  by_cases hq : q = []
  · subst hq
    simp [node?, hplace.symm]
  · simp only [node?, remove, hq, if_false, lookup_filter_ne]

/-! ## Paths -/

/-- A tree with the same directories, and perhaps more, has the same paths. -/
theorem walk_of_directories (h : ∀ q, t.node? q = some .directory → u.node? q = some .directory)
    {names : List String} (hwalk : t.walk q names = .ok place) : u.walk q names = .ok place := by
  induction names generalizing q with
  | nil => exact hwalk
  | cons name names ih =>
      rcases hq : t.node? q with _ | _ | chunks <;> simp only [walk, hq] at hwalk
      · cases hwalk
      · simp only [walk, h q hq]
        split at hwalk
        · cases hwalk
        · rename_i hlimit
          simp only [hlimit, if_false]
          exact ih hwalk
      · cases hwalk

theorem locate_of_directories (hcurrent : u.current = t.current)
    (h : ∀ q, t.node? q = some .directory → u.node? q = some .directory)
    (hp : t.locate p = .ok place) : u.locate p = .ok place := by
  unfold locate at hp ⊢
  split at hp
  · cases hp
  · rename_i hlong
    simp only [hlong, hcurrent]
    exact walk_of_directories h hp

/-- What is not a directory may come, change or go, and the path still leads to its place. -/
theorem locate_set (hp : t.locate p = .ok place) (hnode : t.node? place ≠ some .directory)
    (node : Node) : (t.set place node).locate p = .ok place := by
  have hplace : place ≠ [] := ne_nil_of_node? hnode
  refine locate_of_directories ?_ ?_ hp
  · unfold set
    split <;> rfl
  · intro q hq
    have hne : q ≠ place := by
      rintro rfl
      exact hnode hq
    rw [node?_set hplace, if_neg hne, hq]

theorem locate_remove (hp : t.locate p = .ok place) (hnode : t.node? place ≠ some .directory) :
    (t.remove place).locate p = .ok place := by
  have hplace : place ≠ [] := ne_nil_of_node? hnode
  refine locate_of_directories (t := t) rfl ?_ hp
  intro q hq
  have hne : q ≠ place := by
    rintro rfl
    exact hnode hq
  rw [node?_remove hplace, if_neg hne, hq]

/-! ## Contents -/

/-- The content of the file that a path leads to. -/
def content? (t : FileTree) (p : Path) : Option (List UInt8) := (t.at? p).bind Node.content?

/-- There is no directory where the path leads, so that a file can be made or emptied there. -/
def IsFree (t : FileTree) (p : Path) : Prop :=
  ∃ place, t.locate p = .ok place ∧ t.node? place ≠ some .directory

theorem content?_eq_some {content : List UInt8} (h : t.content? p = some content) :
    ∃ place chunks, t.locate p = .ok place ∧ t.node? place = some (.file chunks) ∧
      content = chunks.reverse.flatten := by
  rcases hp : t.locate p with problem | place
  · simp [content?, at?, hp] at h
  · rcases hn : t.node? place with _ | _ | chunks <;>
      simp [content?, at?, hp, hn, Node.content?] at h
    exact ⟨place, chunks, rfl, hn, h.symm⟩

theorem content?_set (hp : t.locate p = .ok place) (hnode : t.node? place ≠ some .directory)
    (chunks : List (List UInt8)) :
    (t.set place (.file chunks)).content? p = some chunks.reverse.flatten := by
  have hplace : place ≠ [] := ne_nil_of_node? hnode
  simp only [content?, at?, locate_set hp hnode, node?_set hplace, if_true]
  rfl

/-- A file that is made or emptied is empty. -/
theorem content?_create (h : t.IsFree p) : ∃ u, t.create p = .ok u ∧ u.content? p = some [] := by
  obtain ⟨place, hp, hnode⟩ := h
  refine ⟨t.set place (.file []), ?_, content?_set hp hnode []⟩
  simp only [create, hp]
  rcases hn : t.node? place with _ | _ | chunks
  · simp [bind, Except.bind, hn, pure, Except.pure]
  · exact absurd hn hnode
  · simp [bind, Except.bind, hn, pure, Except.pure]

/-- What is appended comes behind what was there. -/
theorem content?_append {content : List UInt8} (h : t.content? p = some content)
    (bytes : List UInt8) : (t.append p bytes).content? p = some (content ++ bytes) := by
  obtain ⟨place, chunks, hp, hn, rfl⟩ := content?_eq_some h
  have hnode : t.node? place ≠ some .directory := by simp [hn]
  simp only [append, at?, hp, hn]
  rw [content?_set hp hnode]
  simp

/-- A file that is removed is gone. -/
theorem at?_unlink {content : List UInt8} (h : t.content? p = some content) :
    ∃ u, t.unlink p = .ok u ∧ u.at? p = none := by
  obtain ⟨place, chunks, hp, hn, rfl⟩ := content?_eq_some h
  have hnode : t.node? place ≠ some .directory := by simp [hn]
  have hplace : place ≠ [] := ne_nil_of_node? hnode
  refine ⟨t.remove place, ?_, ?_⟩
  · simp only [unlink, hp, hn]
  · simp only [at?, locate_remove hp hnode, node?_remove hplace, if_true]

theorem size_of_content? {content : List UInt8} (h : t.content? p = some content) :
    t.size p = content.length := by
  rw [size, show (t.at? p).bind Node.content? = some content from h]
  rfl

theorem content?_of_at?_eq_none (h : t.at? p = none) : t.content? p = none := by
  rw [content?, h]
  rfl

end ObjectLookup.FileTree
