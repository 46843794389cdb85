import LogHarvest.FileTree.Basic
import LogHarvest.Proofs.Success

/-!
# Reading back what has been written

Writing a file changes one file and nothing that a path leads through: directories stay
directories. So the path that was written still opens the same place, where the new bytes stand
and can be written over again.
-/

namespace LogHarvest

open Text.Utf8 (Bytes)

namespace FileNode

section Entries

variable {name other : Text} {n : FileNode} {entries : List (Text × FileNode)}

theorem find?_setEntry_self :
    (setEntry name n entries).find? (fun e => e.1 = name) = some (name, n) := by
  induction entries with
  | nil => simp [setEntry]
  | cons e rest ih =>
      rw [setEntry]
      split
      · simp
      · next he => simpa [he] using ih

theorem find?_setEntry_ne (h : other ≠ name) :
    (setEntry name n entries).find? (fun e => e.1 = other) =
      entries.find? (fun e => e.1 = other) := by
  induction entries with
  | nil => simp [setEntry, Ne.symm h]
  | cons e rest ih =>
      rw [setEntry]
      split
      · next he => simp [he, Ne.symm h]
      · rw [List.find?_cons, List.find?_cons, ih]

end Entries

variable {bytes : Bytes} {n n' : FileNode}

/-- Names after those that lead to a node go on from there. -/
theorem get_append {root : List Text} {m : FileNode} (h : n.get root = .ok m) (path : List Text) :
    n.get (root ++ path) = m.get path := by
  induction root generalizing n with
  | nil =>
      obtain rfl := Except.ok.inj h
      rfl
  | cons name root ih =>
      cases n with
      | file old => simp [get] at h
      | dir entries =>
          rw [List.cons_append, get]
          rw [get] at h
          split at h
          · simp at h
          · exact ih h

/-- What leads to a directory leads through directories. -/
theorem get_dir_of_prefix {place root : List Text} {inner : List (Text × FileNode)}
    (h : n.get root = .ok (.dir inner)) (hplace : place <+: root) :
    ∃ inner', n.get place = .ok (.dir inner') := by
  obtain ⟨rest, rfl⟩ := hplace
  induction place generalizing n with
  | nil =>
      cases n with
      | file old => cases rest <;> simp [get] at h
      | dir entries => exact ⟨entries, rfl⟩
  | cons name place ih =>
      cases n with
      | file old => simp [get] at h
      | dir entries =>
          rw [List.cons_append, get] at h
          rw [get]
          split at h
          · simp at h
          · exact ih h

/-- Writing below a directory writes below one of its entries, which is made if it is the file
itself. -/
theorem put_cons_eq_ok {name : Text} {rest : List Text} (h : n.put bytes (name :: rest) = .ok n') :
    ∃ entries child', n = .dir entries ∧ n' = .dir (setEntry name child' entries) ∧
      ((rest = [] ∧ child' = .file bytes ∧
          ∀ e inner, entries.find? (fun e => e.1 = name) ≠ some (e, .dir inner)) ∨
        ∃ e child, entries.find? (fun e => e.1 = name) = some (e, child) ∧
          child.put bytes rest = .ok child') := by
  cases n with
  | file old => simp [put] at h
  | dir entries =>
      cases rest with
      | nil =>
          rw [put] at h
          split at h
          · simp at h
          · next hfind =>
            obtain rfl := Except.ok.inj h
            exact ⟨entries, .file bytes, rfl, rfl, .inl ⟨rfl, rfl, fun e inner => hfind e inner⟩⟩
      | cons next rest =>
          rw [put] at h
          · split at h
            · simp at h
            · next e child hfind =>
              obtain ⟨child', hchild, rfl⟩ := map_eq_ok_iff.1 h
              exact ⟨entries, child', rfl, rfl, .inr ⟨e, child, hfind, hchild⟩⟩
          · simp

theorem put_nil_eq_ok (h : n.put bytes [] = .ok n') : ∃ old, n = .file old ∧ n' = .file bytes := by
  cases n with
  | file old => exact ⟨old, rfl, (Except.ok.inj h).symm⟩
  | dir entries => simp [put] at h

/-- A file can be written in a directory unless another directory stands there, and below one of its
entries if it can be written in the entry. -/
theorem exists_put_cons {name : Text} {rest : List Text} {entries : List (Text × FileNode)}
    (h : (rest = [] ∧ ∀ e inner, entries.find? (fun e => e.1 = name) ≠ some (e, .dir inner)) ∨
      ∃ e child child', entries.find? (fun e => e.1 = name) = some (e, child) ∧
        child.put bytes rest = .ok child') :
    ∃ n', (dir entries).put bytes (name :: rest) = .ok n' := by
  obtain ⟨rfl, hfile⟩ | ⟨e, child, child', hfind, hput⟩ := h
  · rw [put]
    split
    · next e inner hdir => exact absurd hdir (hfile e inner)
    · exact ⟨_, rfl⟩
  · cases rest with
    | nil =>
        obtain ⟨old, rfl, -⟩ := put_nil_eq_ok hput
        exact ⟨_, by rw [put, hfind]⟩
    | cons next rest =>
        refine ⟨.dir (setEntry name child' entries), ?_⟩
        rw [put]
        · simp only [hfind, hput]
          rfl
        · simp

theorem get_put {path : List Text} (h : n.put bytes path = .ok n') :
    n'.get path = .ok (.file bytes) := by
  induction path generalizing n n' with
  | nil =>
      obtain ⟨old, -, rfl⟩ := put_nil_eq_ok h
      rfl
  | cons name rest ih =>
      obtain ⟨entries, child', -, rfl, hchild⟩ := put_cons_eq_ok h
      simp only [get, find?_setEntry_self]
      obtain ⟨rfl, rfl, -⟩ | ⟨e, child, -, hput⟩ := hchild
      · rfl
      · exact ih hput

/-- A directory is one also after a file has been written anywhere. -/
theorem get_dir_of_put {path place : List Text} {inner : List (Text × FileNode)}
    (h : n.put bytes path = .ok n') (hdir : n.get place = .ok (.dir inner)) :
    ∃ inner', n'.get place = .ok (.dir inner') := by
  induction path generalizing n n' place with
  | nil =>
      obtain ⟨old, rfl, rfl⟩ := put_nil_eq_ok h
      cases place <;> simp [get] at hdir
  | cons name rest ih =>
      obtain ⟨entries, child', rfl, rfl, hchild⟩ := put_cons_eq_ok h
      cases place with
      | nil => exact ⟨_, rfl⟩
      | cons step place =>
          rw [get] at hdir ⊢
          by_cases hstep : step = name
          · subst hstep
            rw [find?_setEntry_self]
            split at hdir
            · simp at hdir
            · next e below hbelow =>
              obtain ⟨rfl, -, hfile⟩ | ⟨f, child, hchild, hput⟩ := hchild
              · -- What the file takes the place of was no directory, and led to none.
                cases below with
                | file old => cases place <;> simp [get] at hdir
                | dir inner => exact absurd hbelow (hfile e inner)
              · obtain ⟨rfl, rfl⟩ : e = f ∧ below = child := by simpa [hbelow] using hchild
                exact ih hput hdir
          · rw [find?_setEntry_ne hstep]
            exact ⟨inner, hdir⟩

/-- No file can be written over a directory. -/
theorem get_ne_dir_of_put {path : List Text} (h : n.put bytes path = .ok n')
    (inner : List (Text × FileNode)) : n.get path ≠ .ok (.dir inner) := by
  induction path generalizing n n' with
  | nil =>
      obtain ⟨old, rfl, -⟩ := put_nil_eq_ok h
      simp [get]
  | cons name rest ih =>
      obtain ⟨entries, child', rfl, -, hchild⟩ := put_cons_eq_ok h
      rw [get]
      split
      · simp
      · next e child hfind =>
        obtain ⟨rfl, -, hfile⟩ | ⟨f, old, hold, hput⟩ := hchild
        · intro hdir
          obtain rfl := Except.ok.inj hdir
          exact hfile e inner hfind
        · obtain ⟨rfl, rfl⟩ : e = f ∧ child = old := by simpa [hfind] using hold
          exact ih hput

/-- Where a file has been written another can be written over it. -/
theorem exists_put_again {path : List Text} (h : n.put bytes path = .ok n') (bytes' : Bytes) :
    ∃ n'', n'.put bytes' path = .ok n'' := by
  induction path generalizing n n' with
  | nil =>
      obtain ⟨old, -, rfl⟩ := put_nil_eq_ok h
      exact ⟨_, rfl⟩
  | cons name rest ih =>
      obtain ⟨entries, child', rfl, rfl, hchild⟩ := put_cons_eq_ok h
      refine exists_put_cons ?_
      rw [find?_setEntry_self]
      obtain ⟨rfl, rfl, -⟩ | ⟨e, child, -, hput⟩ := hchild
      · exact .inl ⟨rfl, by simp⟩
      · obtain ⟨child'', hagain⟩ := ih hput
        exact .inr ⟨name, child', child'', rfl, hagain⟩

/-- A file elsewhere is not changed by writing. -/
theorem get_file_of_put {path place : List Text} {old : Bytes} (h : n.put bytes path = .ok n')
    (hplace : place ≠ path) (hget : n.get place = .ok (.file old)) :
    n'.get place = .ok (.file old) := by
  induction path generalizing n n' place with
  | nil =>
      obtain ⟨was, rfl, rfl⟩ := put_nil_eq_ok h
      cases place with
      | nil => exact absurd rfl hplace
      | cons step place => simp [get] at hget
  | cons name rest ih =>
      obtain ⟨entries, child', rfl, rfl, hchild⟩ := put_cons_eq_ok h
      cases place with
      | nil => simp [get] at hget
      | cons step place =>
          rw [get] at hget ⊢
          by_cases hstep : step = name
          · subst hstep
            have hrest : place ≠ rest := fun heq => hplace (by rw [heq])
            rw [find?_setEntry_self]
            split at hget
            · simp at hget
            · next e below hbelow =>
              obtain ⟨rfl, -, hfile⟩ | ⟨f, child, hchild, hput⟩ := hchild
              · -- A file stood where the new one stands, so nothing was below it.
                cases below with
                | file was =>
                    cases place with
                    | nil => exact absurd rfl hrest
                    | cons next place => simp [get] at hget
                | dir inner => exact absurd hbelow (hfile e inner)
              · obtain ⟨rfl, rfl⟩ : e = f ∧ below = child := by simpa [hbelow] using hchild
                exact ih hput hrest hget
          · rw [find?_setEntry_ne hstep]
            exact hget

/-- What stands beside the way to a file is not changed by writing it. -/
theorem get_of_put_beside {path place : List Text} (h : n.put bytes path = .ok n')
    (hbelow : ¬path <+: place) (habove : ¬place <+: path) : n'.get place = n.get place := by
  induction path generalizing n n' place with
  | nil => exact absurd List.nil_prefix hbelow
  | cons name rest ih =>
      obtain ⟨entries, child', rfl, rfl, hchild⟩ := put_cons_eq_ok h
      cases place with
      | nil => exact absurd List.nil_prefix habove
      | cons step place =>
          rw [get, get]
          by_cases hstep : step = name
          · subst hstep
            have hbelow' : ¬rest <+: place := fun hprefix =>
              hbelow (List.cons_prefix_cons.2 ⟨rfl, hprefix⟩)
            have habove' : ¬place <+: rest := fun hprefix =>
              habove (List.cons_prefix_cons.2 ⟨rfl, hprefix⟩)
            obtain ⟨rfl, -, -⟩ | ⟨e, child, hfind, hput⟩ := hchild
            · exact absurd List.nil_prefix hbelow'
            · rw [find?_setEntry_self, hfind]
              exact ih hput hbelow' habove'
          · rw [find?_setEntry_ne hstep]

end FileNode

namespace FileTree

variable {tree tree' : FileTree} {path : Text} {bytes : Bytes}

/-- A file can be written at a path. -/
def CanWrite (tree : FileTree) (path : Text) : Prop :=
  ∃ opened, tree.putFile (Path.tidy path) [] = .ok opened

/-- What a path leads through, if nothing on the way ceases to be a directory. -/
theorem enter_eq_ok_of_dirs
    (hdirs : ∀ place inner, tree.top.get place = .ok (.dir inner) →
      ∃ inner', tree'.top.get place = .ok (.dir inner'))
    {parts place found : List Text} (h : tree.enter place parts = .ok found) :
    tree'.enter place parts = .ok found := by
  induction parts generalizing place with
  | nil => exact h
  | cons part rest ih =>
      rw [enter] at h
      split at h
      · next inner hplace =>
        obtain ⟨inner', hplace'⟩ := hdirs place inner hplace
        simp only [enter, hplace']
        exact ih h
      · simp at h
      · simp at h

theorem opened_eq_ok_of_dirs {found : List Text} (h : tree.opened path = .ok found)
    (hwork : tree'.work = tree.work)
    (hdirs : ∀ place inner, tree.top.get place = .ok (.dir inner) →
      ∃ inner', tree'.top.get place = .ok (.dir inner')) : tree'.opened path = .ok found := by
  rw [opened] at h ⊢
  split at h
  · simp at h
  · next hpath =>
    rw [if_neg hpath, start, hwork]
    exact enter_eq_ok_of_dirs hdirs h

theorem isDir_iff : tree.isDir path = true ↔
    ∃ place inner, tree.opened path = .ok place ∧ tree.top.get place = .ok (.dir inner) := by
  unfold isDir get? get
  cases hopened : tree.opened path with
  | error fault => simp
  | ok place =>
      cases hplace : tree.top.get place with
      | error fault => simp [hplace]
      | ok n => cases n <;> simp [hplace, FileNode.isDir, FileNode.isFile]

/-- A file is written at the place that its path opens, and nothing but the top changes. -/
theorem putFile_eq_ok_iff : tree.putFile path bytes = .ok tree' ↔
    ∃ place top, tree.opened path = .ok place ∧ tree.top.put bytes place = .ok top ∧
      tree' = { tree with top := top } := by
  unfold putFile
  cases tree.opened path with
  | error fault => simp
  | ok place =>
      simp only [map_eq_ok_iff, Except.ok.injEq, exists_and_left, exists_eq_left',
        @eq_comm _ _ tree']

/-- What has been written at a path stands there, at the place that the path opened before. -/
theorem putFile_eq_ok (h : tree.putFile path bytes = .ok tree') :
    ∃ place, tree'.opened path = .ok place ∧ tree.top.put bytes place = .ok tree'.top := by
  obtain ⟨place, top, hplace, htop, rfl⟩ := putFile_eq_ok_iff.1 h
  exact ⟨place,
    opened_eq_ok_of_dirs hplace rfl fun _ _ hdir => FileNode.get_dir_of_put htop hdir, htop⟩

/-- A directory is one also after a file has been written at any path. -/
theorem isDir_of_putFile {other : Text} (h : tree.putFile path bytes = .ok tree')
    (hdir : tree.isDir other = true) : tree'.isDir other = true := by
  obtain ⟨place, top, -, htop, rfl⟩ := putFile_eq_ok_iff.1 h
  obtain ⟨found, inner, hfound, hinner⟩ := isDir_iff.1 hdir
  obtain ⟨inner', hinner'⟩ := FileNode.get_dir_of_put htop hinner
  exact isDir_iff.2 ⟨found, inner',
    opened_eq_ok_of_dirs hfound rfl fun _ _ hdir => FileNode.get_dir_of_put htop hdir, hinner'⟩

theorem bytesAt_putFile (h : tree.putFile path bytes = .ok tree') :
    tree'.bytesAt path = .ok bytes := by
  obtain ⟨place, hopened, hput⟩ := putFile_eq_ok h
  rw [bytesAt, get, hopened]
  simp only [FileNode.get_put hput]

theorem exists_putFile_again (h : tree.putFile path bytes = .ok tree') (bytes' : Bytes) :
    ∃ tree'', tree'.putFile path bytes' = .ok tree'' := by
  obtain ⟨place, hopened, hput⟩ := putFile_eq_ok h
  obtain ⟨top, hagain⟩ := FileNode.exists_put_again hput bytes'
  exact ⟨_, putFile_eq_ok_iff.2 ⟨place, top, hopened, hagain, rfl⟩⟩

end FileTree

end LogHarvest
