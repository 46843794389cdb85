import LogHarvest.Proofs.FileTree.Put

/-!
# Adding a file to a tree

A file is added where names lead: to a directory that is there, or to one that is made for it with
those above it. It may be listed anywhere among the entries of its directory. Whatever was in the
tree before is still there, so paths open what they opened before, and where a file could be written
it still can be, unless the new file or a directory made for it stands there.
-/

namespace LogHarvest

open Text.Utf8 (Bytes)

namespace FileNode

/-- A file with a directory above it for each of some names. -/
def chain (bytes : Bytes) : List Text → FileNode
  | [] => .file bytes
  | name :: rest => .dir [(name, chain bytes rest)]

/-- A node is another one with a file of some bytes added where names lead. -/
inductive Adds (bytes : Bytes) : List Text → FileNode → FileNode → Prop
  | here {name : Text} {rest : List Text} {before later : List (Text × FileNode)}
      (hnew : ∀ e ∈ before ++ later, e.1 ≠ name) :
      Adds bytes (name :: rest) (.dir (before ++ later))
        (.dir (before ++ (name, chain bytes rest) :: later))
  | inside {name : Text} {rest : List Text} {child child' : FileNode}
      {before later : List (Text × FileNode)} (hfirst : ∀ e ∈ before, e.1 ≠ name)
      (h : Adds bytes rest child child') :
      Adds bytes (name :: rest) (.dir (before ++ (name, child) :: later))
        (.dir (before ++ (name, child') :: later))

section Entries

variable {name other : Text} {n : FileNode} {before later entries : List (Text × FileNode)}

theorem find?_eq_none_of_new (h : ∀ e ∈ entries, e.1 ≠ name) :
    entries.find? (fun e => e.1 = name) = none :=
  List.find?_eq_none.2 fun e he => by simpa using h e he

theorem find?_middle_self (h : ∀ e ∈ before, e.1 ≠ name) :
    (before ++ (name, n) :: later).find? (fun e => e.1 = name) = some (name, n) := by
  rw [List.find?_append, find?_eq_none_of_new h]
  simp

theorem find?_middle_ne (h : other ≠ name) :
    (before ++ (name, n) :: later).find? (fun e => e.1 = other) =
      (before ++ later).find? fun e => e.1 = other := by
  rw [List.find?_append, List.find?_append, List.find?_cons_of_neg (by simpa using Ne.symm h)]

theorem setEntry_of_new (h : ∀ e ∈ entries, e.1 ≠ name) :
    setEntry name n entries = entries ++ [(name, n)] := by
  induction entries with
  | nil => rfl
  | cons e rest ih =>
      obtain ⟨he, hrest⟩ := List.forall_mem_cons.1 h
      rw [setEntry, if_neg he, ih hrest, List.cons_append]

theorem setEntry_middle {old : FileNode} (h : ∀ e ∈ before, e.1 ≠ name) :
    setEntry name n (before ++ (name, old) :: later) = before ++ (name, n) :: later := by
  induction before with
  | nil => simp [setEntry]
  | cons e before ih =>
      obtain ⟨he, hbefore⟩ := List.forall_mem_cons.1 h
      rw [List.cons_append, setEntry, if_neg he, ih hbefore, List.cons_append]

end Entries

variable {bytes : Bytes} {path place : List Text} {n n' node : FileNode}

/-! ### Planting -/

theorem plant_nothing (path : List Text) : plant (.file bytes) path (.dir []) = chain bytes path := by
  induction path with
  | nil => rfl
  | cons name rest ih =>
      rw [plant, chain, ← ih]
      rfl

/-- Planting a file where there is none adds it. -/
theorem adds_plant (h : n.get path = .error .notFound) :
    Adds bytes path n (plant (.file bytes) path n) := by
  induction path generalizing n with
  | nil => simp [get] at h
  | cons name rest ih =>
      cases n with
      | file old => simp [get] at h
      | dir entries =>
          rw [plant]
          unfold entry?
          simp only [FileNode.entries]
          cases hfind : entries.find? fun e => e.1 = name with
          | none =>
              have hnew : ∀ e ∈ entries ++ [], e.1 ≠ name := fun e he => by
                rw [List.append_nil] at he
                simpa using List.find?_eq_none.1 hfind e he
              have hplanted : Adds bytes (name :: rest) _ _ := .here hnew
              rw [List.append_nil] at hnew hplanted
              simp only [Option.map_none, Option.getD_none, setEntry_of_new hnew, plant_nothing]
              exact hplanted
          | some e =>
              obtain ⟨e, child⟩ := e
              obtain ⟨he, before, later, rfl, hbefore⟩ := List.find?_eq_some_iff_append.1 hfind
              obtain rfl : e = name := by simpa using he
              have hfirst : ∀ f ∈ before, f.1 ≠ e := fun f hf => by simpa using hbefore f hf
              simp only [Option.map_some, Option.getD_some, setEntry_middle hfirst]
              simp only [get, hfind] at h
              exact .inside hfirst (ih h)

/-! ### What stands where -/

theorem get_chain (bytes : Bytes) (path : List Text) :
    (chain bytes path).get path = .ok (.file bytes) := by
  induction path with
  | nil => rfl
  | cons name rest ih => simpa [chain, get] using ih

theorem Adds.get_self (h : Adds bytes path n n') : n'.get path = .ok (.file bytes) := by
  induction h with
  | here hnew =>
      simp only [get, find?_middle_self (List.forall_mem_append.1 hnew).1]
      exact get_chain bytes _
  | inside hfirst h ih =>
      simp only [get, find?_middle_self hfirst]
      exact ih

theorem Adds.get_before (h : Adds bytes path n n') : n.get path = .error .notFound := by
  induction h with
  | here hnew => simp only [get, find?_eq_none_of_new hnew]
  | inside hfirst h ih =>
      simp only [get, find?_middle_self hfirst]
      exact ih

/-- A file is added to directories alone. -/
theorem Adds.isDir_and_isDir (h : Adds bytes path n n') : n.isDir = true ∧ n'.isDir = true := by
  cases h <;> exact ⟨rfl, rfl⟩

/-- What stood somewhere before a file was added still stands there, a directory perhaps with more in
it. -/
theorem Adds.get_of_get (h : Adds bytes path n n') (hget : n.get place = .ok node) :
    ∃ node', n'.get place = .ok node' ∧
      (node' = node ∨ node.isDir = true ∧ node'.isDir = true) := by
  induction h generalizing place with
  | @here name rest before later hnew =>
      cases place with
      | nil =>
          obtain rfl := Except.ok.inj hget
          exact ⟨_, rfl, .inr ⟨rfl, rfl⟩⟩
      | cons step place =>
          have hstep : step ≠ name := by
            rintro rfl
            simp [get, find?_eq_none_of_new hnew] at hget
          refine ⟨node, ?_, .inl rfl⟩
          simp only [get, find?_middle_ne hstep] at hget ⊢
          exact hget
  | @inside name rest child child' before later hfirst h ih =>
      cases place with
      | nil =>
          obtain rfl := Except.ok.inj hget
          exact ⟨_, rfl, .inr ⟨rfl, rfl⟩⟩
      | cons step place =>
          by_cases hstep : step = name
          · subst hstep
            simp only [get, find?_middle_self hfirst] at hget ⊢
            exact ih hget
          · refine ⟨node, ?_, .inl rfl⟩
            simp only [get, find?_middle_ne hstep] at hget ⊢
            exact hget

theorem Adds.get_file (h : Adds bytes path n n') {old : Bytes}
    (hget : n.get place = .ok (.file old)) : n'.get place = .ok (.file old) := by
  obtain ⟨node', hnode', rfl | ⟨hdir, -⟩⟩ := h.get_of_get hget
  · exact hnode'
  · simp [isDir, isFile] at hdir

theorem Adds.get_dir (h : Adds bytes path n n') {inner : List (Text × FileNode)}
    (hget : n.get place = .ok (.dir inner)) : ∃ inner', n'.get place = .ok (.dir inner') := by
  obtain ⟨node', hnode', rfl | ⟨-, hdir⟩⟩ := h.get_of_get hget
  · exact ⟨inner, hnode'⟩
  · cases node' with
    | file old => simp [isDir, isFile] at hdir
    | dir inner' => exact ⟨inner', hnode'⟩

/-- A file added below a node that is there is added to that node. -/
theorem Adds.at {root : List Text} {path : List Text} (h : Adds bytes (root ++ path) n n')
    (hroot : n.get root = .ok node) :
    ∃ node', n'.get root = .ok node' ∧ Adds bytes path node node' := by
  induction root generalizing n n' with
  | nil =>
      obtain rfl := Except.ok.inj hroot
      exact ⟨n', rfl, h⟩
  | cons name root ih =>
      rw [List.cons_append] at h
      cases h with
      | here hnew => simp [get, find?_eq_none_of_new hnew] at hroot
      | inside hfirst h =>
          simp only [get, find?_middle_self hfirst] at hroot ⊢
          exact ih h hroot

/-! ### Writing elsewhere -/

/-- A file can be written where it could be before, unless a directory was made for the added file
there. -/
theorem Adds.exists_put (h : Adds bytes path n n') {old : Bytes} {m : FileNode}
    (hput : n.put old place = .ok m) (hplace : ¬place <+: path) :
    ∃ m', n'.put old place = .ok m' := by
  induction h generalizing place m with
  | @here name rest before later hnew =>
      cases place with
      | nil => simp [put] at hput
      | cons step place =>
          obtain ⟨entries, child', hentries, -, hchild⟩ := put_cons_eq_ok hput
          obtain rfl := FileNode.dir.inj hentries
          have hstep : step ≠ name := by
            rintro rfl
            obtain ⟨rfl, -⟩ | ⟨e, child, hfind, -⟩ := hchild
            · exact hplace (by simp)
            · simp [find?_eq_none_of_new hnew] at hfind
          refine exists_put_cons ?_
          rw [find?_middle_ne hstep]
          obtain ⟨hrest, -, hfile⟩ | ⟨e, child, hfind, hput⟩ := hchild
          · exact .inl ⟨hrest, hfile⟩
          · exact .inr ⟨e, child, child', hfind, hput⟩
  | @inside name rest child child' before later hfirst h ih =>
      cases place with
      | nil => simp [put] at hput
      | cons step place =>
          obtain ⟨entries, written, hentries, -, hchild⟩ := put_cons_eq_ok hput
          obtain rfl := FileNode.dir.inj hentries
          refine exists_put_cons ?_
          by_cases hstep : step = name
          · subst hstep
            rw [find?_middle_self hfirst] at hchild ⊢
            obtain ⟨rfl, -⟩ | ⟨e, old, hfind, hput⟩ := hchild
            · exact absurd (by simp) hplace
            · obtain ⟨rfl, rfl⟩ : step = e ∧ child = old := by simpa using hfind
              have hbelow : ¬place <+: rest := fun hprefix =>
                hplace (List.cons_prefix_cons.2 ⟨rfl, hprefix⟩)
              obtain ⟨m', hm'⟩ := ih hput hbelow
              exact .inr ⟨step, child', m', rfl, hm'⟩
          · rw [find?_middle_ne hstep] at hchild ⊢
            obtain ⟨hrest, -, hfile⟩ | ⟨e, old, hfind, hput⟩ := hchild
            · exact .inl ⟨hrest, hfile⟩
            · exact .inr ⟨e, old, written, hfind, hput⟩

end FileNode

/-! ### Trees -/

namespace FileTree

/-- A tree is another one with a file of some bytes added where names lead. -/
structure Adds (bytes : Bytes) (path : List Text) (tree tree' : FileTree) : Prop where
  top : FileNode.Adds bytes path tree.top tree'.top
  topName : tree'.topName = tree.topName
  work : tree'.work = tree.work

variable {bytes : Bytes} {path : List Text} {tree tree' : FileTree}

theorem adds_plant {name : Text} (h : tree.top.get (tree.locate name) = .error .notFound) :
    Adds bytes (tree.locate name) tree (tree.plant name (.file bytes)) :=
  ⟨FileNode.adds_plant h, rfl, rfl⟩

theorem Adds.locate (h : Adds bytes path tree tree') (name : Text) :
    tree'.locate name = tree.locate name := by
  rw [FileTree.locate, FileTree.locate, start, start, h.work]

/-- A path opens what it opened before. -/
theorem Adds.opened (h : Adds bytes path tree tree') {name : Text} {place : List Text}
    (hopened : tree.opened name = .ok place) : tree'.opened name = .ok place :=
  opened_eq_ok_of_dirs hopened h.work fun _ _ hdir => h.top.get_dir hdir

theorem Adds.isDir (h : Adds bytes path tree tree') {name : Text} (hdir : tree.isDir name = true) :
    tree'.isDir name = true := by
  obtain ⟨place, inner, hplace, hinner⟩ := isDir_iff.1 hdir
  obtain ⟨inner', hinner'⟩ := h.top.get_dir hinner
  exact isDir_iff.2 ⟨place, inner', h.opened hplace, hinner'⟩

/-- A file can be written at a path where it could be before, unless the path opens the place of the
added file or one above it. -/
theorem Adds.exists_putFile (h : Adds bytes path tree tree') {name : Text} {old : Bytes}
    {written : FileTree} (hput : tree.putFile name old = .ok written)
    (hplace : ∀ place, tree.opened name = .ok place → ¬place <+: path) :
    ∃ written', tree'.putFile name old = .ok written' := by
  obtain ⟨place, top, hopened, htop, -⟩ := putFile_eq_ok_iff.1 hput
  obtain ⟨top', htop'⟩ := h.top.exists_put htop (hplace place hopened)
  exact ⟨_, putFile_eq_ok_iff.2 ⟨place, top', h.opened hopened, htop', rfl⟩⟩

end FileTree

end LogHarvest
