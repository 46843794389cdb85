import LogHarvest.FileTree.Walk
import LogHarvest.Proofs.FileTree.Adding
import LogHarvest.Proofs.Text.Order

/-!
# What a walk lists

A walk lists files that are there, each by the names that lead to it. A file that is added to the
tree adds at most itself: the other files are listed in the same order as before, and it is listed at
one place among them, also if it comes with directories of its own.
-/

namespace LogHarvest

open Text.Utf8 (Bytes)

/-- A list is another one or that with one item more. -/
def GainsAtMost {α : Type} (x : α) (l l' : List α) : Prop :=
  l' = l ∨ ∃ front rest, l = front ++ rest ∧ l' = front ++ x :: rest

theorem GainsAtMost.between {α : Type} {x : α} {l l' : List α} (h : GainsAtMost x l l')
    (before later : List α) : GainsAtMost x (before ++ l ++ later) (before ++ l' ++ later) := by
  obtain rfl | ⟨front, rest, rfl, rfl⟩ := h
  · exact .inl rfl
  · exact .inr ⟨before ++ front, rest ++ later, by simp, by simp⟩

namespace FileNode

/-! ### Directories without ambiguous names -/

/-- No directory has two entries of one name. -/
inductive Distinct : FileNode → Prop
  | file (bytes : Bytes) : Distinct (.file bytes)
  | dir {entries : List (Text × FileNode)} (hnames : (entries.map Prod.fst).Nodup)
      (hentries : ∀ e ∈ entries, e.2.Distinct) : Distinct (.dir entries)

mutual

/-- Whether the names in each directory are distinct. -/
def isDistinct : FileNode → Bool
  | .file _ => true
  | .dir entries => decide (entries.map Prod.fst).Nodup && allDistinct entries

/-- The same of each of some entries. -/
def allDistinct : List (Text × FileNode) → Bool
  | [] => true
  | (_, n) :: rest => n.isDistinct && allDistinct rest

end

mutual

theorem isDistinct_iff : ∀ n : FileNode, n.isDistinct = true ↔ n.Distinct
  | .file bytes => iff_of_true rfl (.file bytes)
  | .dir entries => by
      rw [isDistinct, Bool.and_eq_true, decide_eq_true_iff, allDistinct_iff entries]
      constructor
      · rintro ⟨hnames, hentries⟩
        exact .dir hnames hentries
      · intro h
        cases h with
        | dir hnames hentries => exact ⟨hnames, hentries⟩

theorem allDistinct_iff :
    ∀ entries : List (Text × FileNode), allDistinct entries = true ↔ ∀ e ∈ entries, e.2.Distinct
  | [] => by simp [allDistinct]
  | (name, n) :: rest => by
      rw [allDistinct, Bool.and_eq_true, isDistinct_iff n, allDistinct_iff rest,
        List.forall_mem_cons]

end

instance : DecidablePred Distinct := fun n => decidable_of_iff _ (isDistinct_iff n)

theorem find?_eq_some_of_nodup {entries : List (Text × FileNode)} {e : Text × FileNode}
    (h : (entries.map Prod.fst).Nodup) (he : e ∈ entries) :
    entries.find? (fun f => f.1 = e.1) = some e := by
  induction entries with
  | nil => simp at he
  | cons first rest ih =>
      rw [List.map_cons, List.nodup_cons] at h
      obtain rfl | hrest := List.mem_cons.1 he
      · simp
      · have hne : first.1 ≠ e.1 := fun heq => h.1 (heq ▸ List.mem_map_of_mem hrest)
        rw [List.find?_cons_of_neg (by simpa using hne)]
        exact ih h.2 hrest

theorem get_cons_of_mem {entries : List (Text × FileNode)} {e : Text × FileNode}
    (h : (entries.map Prod.fst).Nodup) (he : e ∈ entries) (below : List Text) :
    (dir entries).get (e.1 :: below) = e.2.get below := by
  rw [get, find?_eq_some_of_nodup h he]

theorem Distinct.get {n m : FileNode} {place : List Text} (h : n.Distinct)
    (hm : n.get place = .ok m) : m.Distinct := by
  induction place generalizing n with
  | nil =>
      obtain rfl := Except.ok.inj hm
      exact h
  | cons name place ih =>
      cases h with
      | file bytes => simp [FileNode.get] at hm
      | dir hnames hentries =>
          rw [FileNode.get] at hm
          split at hm
          · simp at hm
          · next e child hfind =>
            exact ih (hentries _ (List.mem_of_find?_eq_some hfind)) hm

theorem distinct_chain (bytes : Bytes) (path : List Text) : (chain bytes path).Distinct := by
  induction path with
  | nil => exact .file bytes
  | cons name rest ih => exact .dir (by simp) fun e he => List.mem_singleton.1 he ▸ ih

/-- A file that is added leaves the names of each directory distinct. -/
theorem Adds.distinct {bytes : Bytes} {path : List Text} {n n' : FileNode}
    (h : Adds bytes path n n') (hn : n.Distinct) : n'.Distinct := by
  induction h with
  | @here name rest before later hnew =>
      cases hn with
      | dir hnames hentries =>
          have hname : name ∉ (before ++ later).map Prod.fst := fun hmem => by
            obtain ⟨e, he, heq⟩ := List.mem_map.1 hmem
            exact hnew e he heq
          obtain ⟨hbefore, hlater⟩ := List.forall_mem_append.1 hentries
          refine .dir ?_ (List.forall_mem_append.2
            ⟨hbefore, List.forall_mem_cons.2 ⟨distinct_chain bytes rest, hlater⟩⟩)
          rw [List.map_append] at hname hnames ⊢
          exact List.nodup_middle.2 (List.nodup_cons.2 ⟨hname, hnames⟩)
  | @inside name rest child child' before later hfirst h ih =>
      cases hn with
      | dir hnames hentries =>
          obtain ⟨hbefore, hinner⟩ := List.forall_mem_append.1 hentries
          obtain ⟨hchild, hlater⟩ := List.forall_mem_cons.1 hinner
          refine .dir ?_ (List.forall_mem_append.2
            ⟨hbefore, List.forall_mem_cons.2 ⟨ih hchild, hlater⟩⟩)
          simpa using hnames

/-! ### One directory -/

section Directory

variable (rule : WalkRule) (above : List Text)

/-- The files of a directory itself that a walk lists. -/
def listedFiles (entries : List (Text × FileNode)) : List (List Text) :=
  (Text.sortByName (entries.filter fun e => e.2.isFile)).filterMap fun e =>
    if rule.listsFile (Path.ofParts (above ++ [e.1])) then some (above ++ [e.1]) else none

/-- What a walk lists below an entry, with its name, if it is a directory that the walk enters. -/
def listedBelow? (e : Text × FileNode) : Option (Text × List (List Text)) :=
  if e.2.isDir && rule.entersDir (Path.ofParts (above ++ [e.1])) then
    some (e.1, walkNode rule (above ++ [e.1]) e.2)
  else none

/-- The files that a walk lists below the subdirectories of a directory. -/
def listedBelow (entries : List (Text × FileNode)) : List (List Text) :=
  (Text.sortByName (entries.filterMap (listedBelow? rule above))).flatMap Prod.snd

theorem walkDirs_eq (entries : List (Text × FileNode)) :
    walkDirs rule above entries = entries.filterMap (listedBelow? rule above) := by
  induction entries with
  | nil => rw [walkDirs, List.filterMap_nil]
  | cons e rest ih =>
      obtain ⟨name, n⟩ := e
      rw [walkDirs, ih, List.filterMap_cons, listedBelow?]
      dsimp only
      split <;> rfl

theorem walkNode_dir (entries : List (Text × FileNode)) :
    walkNode rule above (.dir entries) =
      listedFiles rule above entries ++ listedBelow rule above entries := by
  rw [walkNode, walkDirs_eq]
  rfl

end Directory

variable {rule : WalkRule} {above : List Text} {n n' : FileNode}

/-- What a walk lists leads to files. -/
theorem exists_file_of_mem_walkNode (h : n.Distinct) {path : List Text}
    (hpath : path ∈ walkNode rule above n) :
    ∃ below bytes, path = above ++ below ∧ n.get below = .ok (.file bytes) := by
  induction h generalizing above with
  | file bytes => simp [walkNode] at hpath
  | @dir entries hnames hentries ih =>
      rw [walkNode_dir, List.mem_append] at hpath
      obtain hfile | hbelow := hpath
      · obtain ⟨e, he, hlisted⟩ := List.mem_filterMap.1 hfile
        rw [Text.sortByName, List.mem_mergeSort, List.mem_filter] at he
        obtain ⟨he, hisFile⟩ := he
        split at hlisted
        · obtain rfl := Option.some.inj hlisted
          refine ⟨[e.1], ?_⟩
          rw [get_cons_of_mem hnames he]
          cases hnode : e.2 with
          | file bytes => exact ⟨bytes, rfl, rfl⟩
          | dir inner => simp [hnode, isFile] at hisFile
        · simp at hlisted
      · obtain ⟨listed, hlisted, hpath⟩ := List.mem_flatMap.1 hbelow
        rw [Text.sortByName, List.mem_mergeSort, List.mem_filterMap] at hlisted
        obtain ⟨e, he, hlisted⟩ := hlisted
        unfold listedBelow? at hlisted
        split at hlisted
        · obtain rfl := Option.some.inj hlisted
          obtain ⟨below, bytes, rfl, hget⟩ := ih e he hpath
          refine ⟨e.1 :: below, bytes, by simp, ?_⟩
          rw [get_cons_of_mem hnames he, hget]
        · simp at hlisted

/-! ### One entry more -/

section Entry

variable (rule : WalkRule) (above : List Text) (before later : List (Text × FileNode))

/-- A directory does not change which files are listed beside it. -/
theorem listedFiles_middle_dir {e : Text × FileNode} (he : e.2.isFile = false) :
    listedFiles rule above (before ++ e :: later) = listedFiles rule above (before ++ later) := by
  simp only [listedFiles, List.filter_append, List.filter_cons, he, Bool.false_eq_true, if_false]

/-- A file does not change what is listed below the directories beside it. -/
theorem listedBelow_middle_file {e : Text × FileNode} (he : e.2.isFile = true) :
    listedBelow rule above (before ++ e :: later) = listedBelow rule above (before ++ later) := by
  have hnone : listedBelow? rule above e = none := by
    simp [listedBelow?, isDir, he]
  simp only [listedBelow, List.filterMap_append, List.filterMap_cons, hnone]

/-- A file is listed at most once, among those beside it. -/
theorem listedFiles_middle_file (name : Text) (bytes : Bytes) :
    GainsAtMost (above ++ [name]) (listedFiles rule above (before ++ later))
      (listedFiles rule above (before ++ (name, .file bytes) :: later)) := by
  obtain ⟨front, rest, hothers, hwith⟩ := Text.exists_sortByName_middle
    (before.filter fun e => e.2.isFile) (later.filter fun e => e.2.isFile) (name, file bytes)
  have hfile : (file bytes).isFile = true := rfl
  simp only [listedFiles, List.filter_append, List.filter_cons, hfile, if_true, hothers,
    hwith _ rfl, List.filterMap_append, List.filterMap_cons]
  split
  · exact .inl rfl
  · next path hlisted =>
    split at hlisted
    · obtain rfl := Option.some.inj hlisted
      exact .inr ⟨_, _, rfl, rfl⟩
    · simp at hlisted

/-- What a walk lists below an entry. -/
def listedUnder (e : Text × FileNode) : List (List Text) :=
  ((listedBelow? rule above e).map Prod.snd).getD []

/-- What is listed below an entry has its place among what is listed below those beside it. -/
theorem exists_listedBelow_middle (name : Text) :
    ∃ front rest, listedBelow rule above (before ++ later) = front ++ rest ∧
      ∀ n : FileNode, listedBelow rule above (before ++ (name, n) :: later) =
        front ++ listedUnder rule above (name, n) ++ rest := by
  obtain ⟨front, rest, hothers, hwith⟩ := Text.exists_sortByName_middle
    (before.filterMap (listedBelow? rule above)) (later.filterMap (listedBelow? rule above))
    (name, ([] : List (List Text)))
  refine ⟨front.flatMap Prod.snd, rest.flatMap Prod.snd, ?_, fun n => ?_⟩
  · rw [listedBelow, List.filterMap_append, hothers, List.flatMap_append]
  · rw [listedBelow, List.filterMap_append, List.filterMap_cons, listedUnder]
    cases hbelow : listedBelow? rule above (name, n) with
    | none => simp [hothers]
    | some listed =>
        have hname : listed.1 = name := by
          unfold listedBelow? at hbelow
          split at hbelow
          · rw [← Option.some.inj hbelow]
          · simp at hbelow
        simp [hwith listed hname]

/-- What is gained in a directory is gained below its entry, if the walk enters it. -/
theorem listedUnder_gains {path : List Text} {name : Text} {n n' : FileNode} (hn : n.isDir = true)
    (hn' : n'.isDir = true)
    (h : GainsAtMost path (walkNode rule (above ++ [name]) n) (walkNode rule (above ++ [name]) n')) :
    GainsAtMost path (listedUnder rule above (name, n)) (listedUnder rule above (name, n')) := by
  simp only [listedUnder, listedBelow?, hn, hn', Bool.true_and]
  split
  · exact h
  · exact .inl rfl

end Entry

/-! ### One file more -/

theorem walkNode_empty (rule : WalkRule) (above : List Text) :
    walkNode rule above (.dir []) = [] := by
  simp [walkNode_dir, listedFiles, listedBelow, Text.sortByName]

theorem listedUnder_empty (rule : WalkRule) (above : List Text) (name : Text) :
    listedUnder rule above (name, .dir []) = [] := by
  rw [listedUnder, listedBelow?]
  split
  · exact walkNode_empty rule (above ++ [name])
  · rfl

/-- A new entry that leads to a file alone is listed at most once. -/
theorem walkNode_here {name : Text} {rest : List Text} {bytes : Bytes}
    {before later : List (Text × FileNode)}
    (h : GainsAtMost (above ++ name :: rest) (walkNode rule (above ++ [name]) (.dir []))
      (walkNode rule (above ++ [name]) (chain bytes rest))) :
    GainsAtMost (above ++ name :: rest) (walkNode rule above (.dir (before ++ later)))
      (walkNode rule above (.dir (before ++ (name, chain bytes rest) :: later))) := by
  rw [walkNode_dir, walkNode_dir]
  cases rest with
  | nil =>
      rw [chain, listedBelow_middle_file _ _ _ _ rfl]
      exact (listedFiles_middle_file rule above before later name bytes).between [] _
  | cons next rest =>
      rw [listedFiles_middle_dir _ _ _ _ rfl]
      obtain ⟨front, others, hothers, hwith⟩ :=
        exists_listedBelow_middle rule above before later name
      have hgains := listedUnder_gains rule above rfl rfl h
      rw [listedUnder_empty] at hgains
      rw [hothers, hwith]
      simpa using hgains.between (listedFiles rule above (before ++ later) ++ front) others

theorem walkNode_chain (rule : WalkRule) (bytes : Bytes) (path : List Text) (above : List Text) :
    GainsAtMost (above ++ path) (walkNode rule above (.dir []))
      (walkNode rule above (chain bytes path)) := by
  induction path generalizing above with
  | nil =>
      left
      rw [walkNode_empty, chain, walkNode]
  | cons name rest ih =>
      have hrest := ih (above ++ [name])
      rw [List.append_assoc, List.singleton_append] at hrest
      have hnew : GainsAtMost (above ++ name :: rest) (walkNode rule above (.dir ([] ++ [])))
          (walkNode rule above (.dir ([] ++ [(name, chain bytes rest)]))) := walkNode_here hrest
      exact hnew

/-- A walk lists at most the added file besides what it listed before. -/
theorem Adds.walkNode_gains {bytes : Bytes} {path : List Text} (h : Adds bytes path n n')
    (rule : WalkRule) (above : List Text) :
    GainsAtMost (above ++ path) (walkNode rule above n) (walkNode rule above n') := by
  induction h generalizing above with
  | @here name rest before later hnew =>
      have hrest := walkNode_chain rule bytes rest (above ++ [name])
      rw [List.append_assoc, List.singleton_append] at hrest
      exact walkNode_here hrest
  | @inside name rest child child' before later hfirst h ih =>
      have hchild := ih (above ++ [name])
      rw [List.append_assoc, List.singleton_append] at hchild
      obtain ⟨hdir, hdir'⟩ := h.isDir_and_isDir
      rw [walkNode_dir, walkNode_dir, listedFiles_middle_dir _ _ _ _ (by simpa [isDir] using hdir),
        listedFiles_middle_dir _ _ _ _ (by simpa [isDir] using hdir')]
      obtain ⟨front, others, -, hwith⟩ := exists_listedBelow_middle rule above before later name
      have hgains := listedUnder_gains rule above hdir hdir' hchild
      rw [hwith, hwith]
      simpa using hgains.between (listedFiles rule above (before ++ later) ++ front) others

/-- A file that was not there and is listed now has one place in the list. -/
theorem Adds.exists_walkNode_eq {bytes : Bytes} {path : List Text} (h : Adds bytes path n n')
    (hdistinct : n.Distinct) {rule : WalkRule} (hlisted : path ∈ walkNode rule [] n') :
    ∃ front rest, walkNode rule [] n = front ++ rest ∧ walkNode rule [] n' = front ++ path :: rest := by
  obtain hsame | hmore := h.walkNode_gains rule []
  · rw [hsame] at hlisted
    obtain ⟨below, bytes, rfl, hget⟩ := exists_file_of_mem_walkNode hdistinct hlisted
    simp [h.get_before] at hget
  · exact hmore

end FileNode

/-! ### Trees -/

namespace FileTree

variable {tree tree' : FileTree} {rule : WalkRule} {path : Text} {node : FileNode}
  {f : List Text}

theorem walk_eq_of_get (h : tree.top.get (tree.locate path) = .ok node) :
    tree.walk rule path = node.walkNode rule [] := by
  rw [walk, h]

/-- What a walk lists are files below the path where it starts. -/
theorem exists_file_of_mem_walk (hdistinct : tree.top.Distinct)
    (hf : f ∈ tree.walk rule path) :
    ∃ bytes, tree.top.get (tree.locate path ++ f) = .ok (.file bytes) := by
  cases hstart : tree.top.get (tree.locate path) with
  | error fault => simp [walk, hstart] at hf
  | ok node =>
      rw [walk_eq_of_get hstart] at hf
      obtain ⟨below, bytes, rfl, hget⟩ :=
        FileNode.exists_file_of_mem_walkNode (hdistinct.get hstart) hf
      exact ⟨bytes, (FileNode.get_append hstart _).trans hget⟩

/-- A file that is added below the path where a walk starts has one place in what it lists. -/
theorem Adds.exists_walk_eq {bytes : Bytes} (h : Adds bytes (tree.locate path ++ f) tree tree')
    (hdistinct : tree.top.Distinct) (hstart : tree.top.get (tree.locate path) = .ok node)
    (hf : f ∈ tree'.walk rule path) :
    ∃ front rest, tree.walk rule path = front ++ rest ∧
      tree'.walk rule path = front ++ f :: rest := by
  obtain ⟨node', hnode', hbelow⟩ := h.top.at hstart
  rw [← h.locate] at hnode'
  rw [walk_eq_of_get hnode'] at hf ⊢
  rw [walk_eq_of_get hstart]
  exact hbelow.exists_walkNode_eq (hdistinct.get hstart) hf

end FileTree

end LogHarvest
