import LogHarvest.Proofs.FileTree.Walk
import LogHarvest.Proofs.Glob
import Mathlib.Data.List.Permutation

/-!
# A walk as a part of the full listing

A walk decides about each directory on its way whether to enter it, and about the files of each
directory that it comes to. All in all it lists those files of the full listing of the tree that its
rule keeps, and whether it keeps a file can be said of the file's path alone. The full listing has
each file once, in an order that is a property of the paths, so a walk shows neither in which order
the entries of a directory are given nor where the directory lies that it starts from.
-/

namespace LogHarvest

open WalkRule (globMatches anyMatches)

/-! ### The order of a listing -/

/-- One path stands before another one in a listing: in each directory its files come first, by
name, and then what is below its subdirectories, by name too. -/
inductive ListedBefore : List Text → List Text → Prop
  | files {a b : Text} (hle : Text.le a b = true) (hne : a ≠ b) : ListedBefore [a] [b]
  | fileFirst {a b : Text} {q : List Text} (hq : q ≠ []) : ListedBefore [a] (b :: q)
  | subdirectories {a b : Text} {p q : List Text} (hp : p ≠ []) (hq : q ≠ [])
      (hle : Text.le a b = true) (hne : a ≠ b) : ListedBefore (a :: p) (b :: q)
  | inside (a : Text) {p q : List Text} (h : ListedBefore p q) : ListedBefore (a :: p) (a :: q)

namespace ListedBefore

variable {p q : List Text}

theorem not_nil_right (p : List Text) : ¬ListedBefore p [] := by
  intro h
  cases h

theorem append_left (above : List Text) (h : ListedBefore p q) :
    ListedBefore (above ++ p) (above ++ q) := by
  induction above with
  | nil => exact h
  | cons a above ih => exact .inside a ih

theorem asymm (h : ListedBefore p q) : ¬ListedBefore q p := by
  intro h'
  induction h with
  | files hle hne =>
      cases h' with
      | files hle' => exact hne (Text.le_antisymm hle hle')
      | fileFirst hq => exact hq rfl
      | subdirectories hp => exact hp rfl
      | inside => exact hne rfl
  | fileFirst hq =>
      cases h' with
      | files => exact hq rfl
      | fileFirst hp => exact hp rfl
      | subdirectories _ hp => exact hp rfl
      | inside _ h => exact not_nil_right _ h
  | subdirectories hp hq hle hne =>
      cases h' with
      | files => exact hp rfl
      | fileFirst => exact hq rfl
      | subdirectories _ _ hle' => exact hne (Text.le_antisymm hle hle')
      | inside => exact hne rfl
  | inside a h ih =>
      cases h' with
      | files _ hne => exact hne rfl
      | fileFirst => exact not_nil_right _ h
      | subdirectories _ _ _ hne => exact hne rfl
      | inside _ h' => exact ih h'

theorem nodup_of_pairwise {l : List (List Text)} (h : l.Pairwise ListedBefore) : l.Nodup := by
  refine h.imp ?_
  rintro p q hpq rfl
  exact hpq.asymm hpq

/-- Two lists of the same paths in the order of a listing are the same. -/
theorem eq_of_pairwise {l l' : List (List Text)} (h : l.Pairwise ListedBefore)
    (h' : l'.Pairwise ListedBefore) (hmem : ∀ p, p ∈ l ↔ p ∈ l') : l = l' := by
  have hperm : l.Perm l' :=
    (List.perm_ext_iff_of_nodup (nodup_of_pairwise h) (nodup_of_pairwise h')).2 hmem
  exact hperm.eq_of_pairwise (fun p q _ _ hpq hqp => absurd hqp hpq.asymm) h h'

end ListedBefore

/-! ### The files below a node -/

namespace FileNode

/-- Names lead from a node to a file below it. -/
def HasFile (n : FileNode) (path : List Text) : Prop :=
  path ≠ [] ∧ ∃ bytes, n.get path = .ok (.file bytes)

theorem not_hasFile_file (bytes : Text.Utf8.Bytes) (path : List Text) :
    ¬HasFile (.file bytes) path := by
  rintro ⟨hne, old, hget⟩
  cases path with
  | nil => exact hne rfl
  | cons name path => simp [get] at hget

variable {entries : List (Text × FileNode)}

/-- The files below a directory are its own files and the files below its subdirectories. -/
theorem hasFile_dir_iff (hnames : (entries.map Prod.fst).Nodup) {path : List Text} :
    HasFile (.dir entries) path ↔
      (∃ e ∈ entries, e.2.isFile = true ∧ path = [e.1]) ∨
        ∃ e ∈ entries, ∃ below, e.2.HasFile below ∧ path = e.1 :: below := by
  constructor
  · rintro ⟨hne, bytes, hget⟩
    obtain ⟨name, below, rfl⟩ := List.exists_cons_of_ne_nil hne
    rw [get] at hget
    split at hget
    · simp at hget
    · next found child hfind =>
      have hmem := List.mem_of_find?_eq_some hfind
      obtain rfl : found = name := by simpa using List.find?_some hfind
      cases below with
      | nil =>
          obtain rfl := Except.ok.inj hget
          exact .inl ⟨_, hmem, rfl, rfl⟩
      | cons next below => exact .inr ⟨_, hmem, _, ⟨List.cons_ne_nil _ _, bytes, hget⟩, rfl⟩
  · rintro (⟨e, he, hfile, rfl⟩ | ⟨e, he, below, ⟨-, bytes, hget⟩, rfl⟩)
    · refine ⟨List.cons_ne_nil _ _, ?_⟩
      rw [get_cons_of_mem hnames he]
      cases hnode : e.2 with
      | file bytes => exact ⟨bytes, rfl⟩
      | dir inner => simp [hnode, isFile] at hfile
    · exact ⟨List.cons_ne_nil _ _, bytes, (get_cons_of_mem hnames he below).trans hget⟩

/-- The same node with the entries of some directories in another order. -/
inductive Relisted : FileNode → FileNode → Prop
  | refl (n : FileNode) : Relisted n n
  | perm {entries entries' : List (Text × FileNode)} (h : entries.Perm entries') :
      Relisted (.dir entries) (.dir entries')
  | inside {name : Text} {n n' : FileNode} {before later : List (Text × FileNode)}
      (h : Relisted n n') :
      Relisted (.dir (before ++ (name, n) :: later)) (.dir (before ++ (name, n') :: later))
  | trans {n m k : FileNode} (h : Relisted n m) (h' : Relisted m k) : Relisted n k

theorem Relisted.isFile_eq {n n' : FileNode} (h : Relisted n n') : n'.isFile = n.isFile := by
  induction h with
  | refl n => rfl
  | perm h => rfl
  | inside h ih => rfl
  | trans h h' ih ih' => rw [ih', ih]

theorem Relisted.distinct {n n' : FileNode} (h : Relisted n n') (hn : n.Distinct) :
    n'.Distinct := by
  induction h with
  | refl n => exact hn
  | perm h =>
      cases hn with
      | dir hnames hentries =>
          refine .dir ((h.map Prod.fst).nodup_iff.1 hnames) fun e he => ?_
          exact hentries e (h.mem_iff.2 he)
  | inside h ih =>
      cases hn with
      | dir hnames hentries =>
          obtain ⟨hbefore, hinner⟩ := List.forall_mem_append.1 hentries
          obtain ⟨hchild, hlater⟩ := List.forall_mem_cons.1 hinner
          refine .dir (by simpa using hnames) (List.forall_mem_append.2
            ⟨hbefore, List.forall_mem_cons.2 ⟨ih hchild, hlater⟩⟩)
  | trans h h' ih ih' => exact ih' (ih hn)

theorem Relisted.hasFile_iff {n n' : FileNode} (h : Relisted n n') (hn : n.Distinct)
    (path : List Text) : n'.HasFile path ↔ n.HasFile path := by
  induction h generalizing path with
  | refl n => exact Iff.rfl
  | perm h =>
      have hdistinct := Relisted.distinct (.perm h) hn
      cases hn with
      | dir hnames hentries =>
          cases hdistinct with
          | dir hnames' hentries' =>
              simp only [hasFile_dir_iff hnames, hasFile_dir_iff hnames', h.mem_iff]
  | inside h ih =>
      have hdistinct := Relisted.distinct (.inside h) hn
      cases hn with
      | dir hnames hentries =>
          cases hdistinct with
          | dir hnames' hentries' =>
              have hchild := ih (hentries _ (List.mem_append_right _ List.mem_cons_self))
              simp only [hasFile_dir_iff hnames, hasFile_dir_iff hnames', List.mem_append,
                List.mem_cons, or_and_right, exists_or, exists_eq_left, hchild, h.isFile_eq]
  | trans h h' ih ih' => exact (ih' (h.distinct hn) path).trans (ih hn path)

end FileNode

/-! ### What a rule keeps -/

namespace WalkRule

/-- A rule keeps a file, by the names that lead to it: some include glob matches its path, and no
exclude glob matches its path or that of a directory above it with a slash at its end. -/
structure Keeps (rule : WalkRule) (path : List Text) : Prop where
  included : ∃ glob ∈ rule.included, globMatches (Path.ofParts path) glob = true
  notExcluded : ∀ glob ∈ rule.excluded, globMatches (Path.ofParts path) glob = false
  notPruned : ∀ dir below, dir ≠ [] → below ≠ [] → path = dir ++ below →
    ∀ glob ∈ rule.excluded, globMatches (Path.ofParts dir ++ [('/' : Code)]) glob = false

/-- Whether a walk enters all directories on the way to what is below a directory. -/
def reaches (rule : WalkRule) : (above below : List Text) → Bool
  | _, [] => true
  | _, [_] => true
  | above, name :: next :: below =>
    rule.entersDir (Path.ofParts (above ++ [name])) &&
      reaches rule (above ++ [name]) (next :: below)

variable {rule : WalkRule}

theorem reaches_cons {above below : List Text} (name : Text) (h : below ≠ []) :
    rule.reaches above (name :: below) =
      (rule.entersDir (Path.ofParts (above ++ [name])) &&
        rule.reaches (above ++ [name]) below) := by
  obtain ⟨next, below, rfl⟩ := List.exists_cons_of_ne_nil h
  rfl

theorem reaches_iff {above path : List Text} :
    rule.reaches above path = true ↔ ∀ dir below, dir ≠ [] → below ≠ [] → path = dir ++ below →
      rule.entersDir (Path.ofParts (above ++ dir)) = true := by
  induction path generalizing above with
  | nil =>
      refine iff_of_true rfl fun dir below hdir _ heq => ?_
      exact absurd (List.append_eq_nil_iff.1 heq.symm).1 hdir
  | cons name path ih =>
      by_cases hpath : path = []
      · subst hpath
        refine iff_of_true rfl fun dir below hdir hbelow heq => ?_
        obtain ⟨-, hnil⟩ := List.append_eq_singleton_iff.1 heq.symm |>.resolve_left
          fun h => hdir h.1
        exact absurd hnil hbelow
      · rw [reaches_cons name hpath, Bool.and_eq_true, ih]
        constructor
        · rintro ⟨hname, hinner⟩ dir below hdir hbelow heq
          obtain ⟨first, dir, rfl⟩ := List.exists_cons_of_ne_nil hdir
          obtain ⟨rfl, hrest⟩ := List.cons.inj heq
          by_cases hdir' : dir = []
          · rwa [hdir']
          · rw [List.append_cons]
            exact hinner dir below hdir' hbelow hrest
        · intro h
          refine ⟨h [name] path (by simp) hpath rfl, fun dir below _ hbelow heq => ?_⟩
          rw [← List.append_cons]
          exact h (name :: dir) below (by simp) hbelow (by rw [heq, List.cons_append])

theorem listsFile_iff {path : Text} :
    rule.listsFile path = true ↔ (∃ glob ∈ rule.included, globMatches path glob = true) ∧
      ∀ glob ∈ rule.excluded, globMatches path glob = false := by
  simp [listsFile, anyMatches]

theorem keeps_iff {path : List Text} :
    rule.Keeps path ↔
      rule.listsFile (Path.ofParts path) = true ∧ rule.reaches [] path = true := by
  rw [listsFile_iff, reaches_iff]
  simp only [List.nil_append, entersDir, anyMatches, Bool.not_eq_true', List.any_eq_false,
    Bool.not_eq_true]
  constructor
  · rintro ⟨hincluded, hexcluded, hpruned⟩
    exact ⟨⟨hincluded, hexcluded⟩, hpruned⟩
  · rintro ⟨⟨hincluded, hexcluded⟩, hpruned⟩
    exact ⟨hincluded, hexcluded, hpruned⟩

instance (rule : WalkRule) : DecidablePred rule.Keeps := fun _ => decidable_of_iff _ keeps_iff.symm

end WalkRule

/-! ### What a walk lists -/

namespace FileNode

variable {rule : WalkRule} {n : FileNode}

theorem mem_listedFiles {above path : List Text} {entries : List (Text × FileNode)} :
    path ∈ listedFiles rule above entries ↔
      ∃ e ∈ entries, e.2.isFile = true ∧ path = above ++ [e.1] ∧
        rule.listsFile (Path.ofParts path) = true := by
  simp only [listedFiles, List.mem_filterMap, Text.mem_sortByName, List.mem_filter, and_assoc,
    Option.ite_none_right_eq_some, Option.some.injEq]
  refine exists_congr fun e => and_congr_right fun _ => and_congr_right fun _ => ?_
  constructor
  · rintro ⟨hlists, rfl⟩
    exact ⟨rfl, hlists⟩
  · rintro ⟨rfl, hlists⟩
    exact ⟨hlists, rfl⟩

theorem listedBelow?_eq_some_iff {above : List Text} {e : Text × FileNode}
    {listed : Text × List (List Text)} :
    listedBelow? rule above e = some listed ↔
      e.2.isDir = true ∧ rule.entersDir (Path.ofParts (above ++ [e.1])) = true ∧
        listed = (e.1, walkNode rule (above ++ [e.1]) e.2) := by
  rw [listedBelow?, Option.ite_none_right_eq_some, Bool.and_eq_true, and_assoc, Option.some.injEq,
    eq_comm (b := listed)]

theorem mem_listedBelow {above path : List Text} {entries : List (Text × FileNode)} :
    path ∈ listedBelow rule above entries ↔
      ∃ e ∈ entries, e.2.isDir = true ∧
        rule.entersDir (Path.ofParts (above ++ [e.1])) = true ∧
        path ∈ walkNode rule (above ++ [e.1]) e.2 := by
  simp only [listedBelow, List.mem_flatMap, Text.mem_sortByName, List.mem_filterMap,
    listedBelow?_eq_some_iff]
  constructor
  · rintro ⟨listed, ⟨e, he, hdir, henters, rfl⟩, hpath⟩
    exact ⟨e, he, hdir, henters, hpath⟩
  · rintro ⟨e, he, hdir, henters, hpath⟩
    exact ⟨_, ⟨e, he, hdir, henters, rfl⟩, hpath⟩

/-- A walk lists the files that its rule lists and that it reaches. -/
theorem mem_walkNode (hn : n.Distinct) {above path : List Text} :
    path ∈ walkNode rule above n ↔
      ∃ below, path = above ++ below ∧ n.HasFile below ∧
        rule.listsFile (Path.ofParts path) = true ∧ rule.reaches above below = true := by
  induction hn generalizing above path with
  | file bytes => simp [walkNode, not_hasFile_file]
  | @dir entries hnames hentries ih =>
      rw [walkNode_dir, List.mem_append, mem_listedFiles, mem_listedBelow]
      constructor
      · rintro (⟨e, he, hfile, rfl, hlists⟩ | ⟨e, he, -, henters, hpath⟩)
        · exact ⟨[e.1], rfl, (hasFile_dir_iff hnames).2 (.inl ⟨e, he, hfile, rfl⟩), hlists, rfl⟩
        · obtain ⟨below, rfl, hfile, hlists, hreaches⟩ := (ih e he).1 hpath
          refine ⟨e.1 :: below, by simp,
            (hasFile_dir_iff hnames).2 (.inr ⟨e, he, below, hfile, rfl⟩), hlists, ?_⟩
          rw [WalkRule.reaches_cons _ hfile.1, henters, hreaches]
          rfl
      · rintro ⟨below, rfl, hfile, hlists, hreaches⟩
        obtain ⟨e, he, hisFile, rfl⟩ | ⟨e, he, below, hinner, rfl⟩ :=
          (hasFile_dir_iff hnames).1 hfile
        · exact .inl ⟨e, he, hisFile, rfl, hlists⟩
        · rw [WalkRule.reaches_cons _ hinner.1, Bool.and_eq_true] at hreaches
          refine .inr ⟨e, he, ?_, hreaches.1,
            (ih e he).2 ⟨below, by simp, hinner, hlists, hreaches.2⟩⟩
          cases hnode : e.2 with
          | file bytes => exact absurd hinner (hnode ▸ not_hasFile_file bytes below)
          | dir inner => rfl

theorem exists_of_mem_walkNode (hn : n.Distinct) {above path : List Text} {name : Text}
    (h : path ∈ walkNode rule (above ++ [name]) n) :
    ∃ below, below ≠ [] ∧ path = above ++ name :: below := by
  obtain ⟨below, rfl, hfile, -⟩ := (mem_walkNode hn).1 h
  exact ⟨below, hfile.1, by simp⟩

section Order

variable {entries : List (Text × FileNode)}

/-- The files of a directory are listed by name. -/
theorem pairwise_listedFiles (hnames : (entries.map Prod.fst).Nodup) (above : List Text) :
    (listedFiles rule above entries).Pairwise ListedBefore := by
  have hfiles : ((entries.filter fun e => e.2.isFile).map Prod.fst).Nodup :=
    hnames.sublist (List.filter_sublist.map Prod.fst)
  refine List.pairwise_filterMap.2 ((Text.pairwise_sortByName_of_nodup hfiles).imp ?_)
  rintro e e' ⟨hle, hne⟩ path hpath path' hpath'
  obtain rfl := Option.some.inj (Option.ite_none_right_eq_some.1 hpath).2
  obtain rfl := Option.some.inj (Option.ite_none_right_eq_some.1 hpath').2
  exact (ListedBefore.files hle hne).append_left above

theorem nodup_listedBelow (hnames : (entries.map Prod.fst).Nodup) (above : List Text) :
    ((entries.filterMap (listedBelow? rule above)).map Prod.fst).Nodup := by
  refine List.pairwise_map.2 (List.pairwise_filterMap.2 ?_)
  refine (List.pairwise_map.1 hnames).imp ?_
  intro e e' hne listed hlisted listed' hlisted'
  obtain ⟨-, -, rfl⟩ := listedBelow?_eq_some_iff.1 hlisted
  obtain ⟨-, -, rfl⟩ := listedBelow?_eq_some_iff.1 hlisted'
  exact hne

/-- What is below the subdirectories of a directory is listed by their names, if what is below each
of them is in order. -/
theorem pairwise_listedBelow (hnames : (entries.map Prod.fst).Nodup)
    (hentries : ∀ e ∈ entries, e.2.Distinct) {above : List Text}
    (hinner : ∀ e ∈ entries, (walkNode rule (above ++ [e.1]) e.2).Pairwise ListedBefore) :
    (listedBelow rule above entries).Pairwise ListedBefore := by
  have hbelow : ∀ listed ∈ Text.sortByName (entries.filterMap (listedBelow? rule above)),
      listed.2.Pairwise ListedBefore ∧
        ∀ path ∈ listed.2, ∃ below, below ≠ [] ∧ path = above ++ listed.1 :: below := by
    intro listed hlisted
    obtain ⟨e, he, hlisted⟩ := List.mem_filterMap.1 (Text.mem_sortByName.1 hlisted)
    obtain ⟨-, -, rfl⟩ := listedBelow?_eq_some_iff.1 hlisted
    exact ⟨hinner e he, fun path hpath => exists_of_mem_walkNode (hentries e he) hpath⟩
  refine List.pairwise_flatMap.2 ⟨fun listed hlisted => (hbelow listed hlisted).1, ?_⟩
  refine (Text.pairwise_sortByName_of_nodup (nodup_listedBelow hnames above)).imp_of_mem ?_
  rintro listed listed' hlisted hlisted' ⟨hle, hne⟩ path hpath path' hpath'
  obtain ⟨below, hbelowNe, rfl⟩ := (hbelow listed hlisted).2 path hpath
  obtain ⟨below', hbelowNe', rfl⟩ := (hbelow listed' hlisted').2 path' hpath'
  exact (ListedBefore.subdirectories hbelowNe hbelowNe' hle hne).append_left above

/-- What a walk lists is in the order of a listing. -/
theorem pairwise_walkNode (hn : n.Distinct) (above : List Text) :
    (walkNode rule above n).Pairwise ListedBefore := by
  induction hn generalizing above with
  | file bytes => simp [walkNode]
  | @dir entries hnames hentries ih =>
      rw [walkNode_dir, List.pairwise_append]
      refine ⟨pairwise_listedFiles hnames above,
        pairwise_listedBelow hnames hentries fun e he => ih e he _, ?_⟩
      intro file hfile path hpath
      obtain ⟨e, -, -, rfl, -⟩ := mem_listedFiles.1 hfile
      obtain ⟨e', he', -, -, hpath⟩ := mem_listedBelow.1 hpath
      obtain ⟨below, hne, rfl⟩ := exists_of_mem_walkNode (hentries e' he') hpath
      exact (ListedBefore.fileFirst hne).append_left above

end Order

theorem Relisted.walkNode_eq {n' : FileNode} (h : Relisted n n') (hn : n.Distinct)
    {above : List Text} : walkNode rule above n' = walkNode rule above n := by
  have hn' := h.distinct hn
  refine ListedBefore.eq_of_pairwise (pairwise_walkNode hn' above) (pairwise_walkNode hn above) ?_
  intro path
  simp only [mem_walkNode hn, mem_walkNode hn', h.hasFile_iff hn]

end FileNode

/-! ### Listings -/

namespace FileTree

/-- Names lead from a path to a file below it. -/
def HasFile (tree : FileTree) (start : Text) (path : List Text) : Prop :=
  ∃ n, tree.top.get (tree.locate start) = .ok n ∧ n.HasFile path

/-- The full listing of the files below a path: each of them, in the order of a listing. -/
structure IsListing (tree : FileTree) (start : Text) (listing : List (List Text)) : Prop where
  mem_iff : ∀ path, path ∈ listing ↔ tree.HasFile start path
  order : listing.Pairwise ListedBefore

variable {tree : FileTree} {rule : WalkRule} {start : Text}

theorem mem_walk (hdistinct : tree.top.Distinct) {path : List Text} :
    path ∈ tree.walk rule start ↔ tree.HasFile start path ∧ rule.Keeps path := by
  rw [WalkRule.keeps_iff, HasFile, walk]
  cases hstart : tree.top.get (tree.locate start) with
  | error fault => simp
  | ok n =>
      simp only [FileNode.mem_walkNode (hdistinct.get hstart), List.nil_append, exists_eq_left',
        Except.ok.injEq]

theorem pairwise_walk (hdistinct : tree.top.Distinct) :
    (tree.walk rule start).Pairwise ListedBefore := by
  rw [walk]
  split
  · next n hstart => exact FileNode.pairwise_walkNode (hdistinct.get hstart) []
  · exact .nil

/-- The rule of a walk that is not pruned and leaves no file out. -/
def everything : WalkRule := ⟨[[('*' : Code)]], []⟩

theorem keeps_everything (path : List Text) : everything.Keeps path := by
  refine ⟨⟨_, List.mem_singleton.2 rfl, ?_⟩, by simp [everything], by simp [everything]⟩
  rw [globMatches, Bool.or_eq_true]
  exact .inl (Glob.accepts_star _)

theorem isListing_walk_everything (hdistinct : tree.top.Distinct) (start : Text) :
    tree.IsListing start (tree.walk everything start) :=
  ⟨fun path => by simp [mem_walk hdistinct, keeps_everything], pairwise_walk hdistinct⟩

/-- A walk lists what its rule keeps of the full listing. -/
theorem IsListing.walk_eq_filter (hdistinct : tree.top.Distinct) {listing : List (List Text)}
    (h : tree.IsListing start listing) (rule : WalkRule) :
    tree.walk rule start = listing.filter fun path => rule.Keeps path := by
  refine ListedBefore.eq_of_pairwise (pairwise_walk hdistinct) (h.order.filter _) fun path => ?_
  rw [mem_walk hdistinct, List.mem_filter, h.mem_iff, decide_eq_true_eq]

/-- A walk lists what its rule keeps of the full listing of the files below its start, each file at
most once. The rule has the given include globs, or the usual one if none is given, and beside the
given exclude globs those that always hold. In which order the entries of the directories are given,
and where the tree lies, makes no difference. -/
theorem walk_eq_filter_listing {tree : FileTree} (hdistinct : tree.top.Distinct)
    (included excluded : List Text) (start : Text) :
    (∃ listing, tree.IsListing start listing) ∧
    (∀ listing, tree.IsListing start listing →
      tree.walk (.of included excluded) start = listing.filter fun path =>
        WalkRule.Keeps ⟨if included.isEmpty then WalkRule.defaultInclude else included,
          excluded ++ WalkRule.builtinExclude⟩ path) ∧
    (tree.walk (.of included excluded) start).Nodup ∧
    ∀ (tree' : FileTree) (start' : Text) (n n' : FileNode),
      tree.top.get (tree.locate start) = .ok n →
      tree'.top.get (tree'.locate start') = .ok n' → n.Relisted n' →
      tree'.walk (.of included excluded) start' = tree.walk (.of included excluded) start := by
  refine ⟨⟨_, isListing_walk_everything hdistinct start⟩,
    fun listing h => h.walk_eq_filter hdistinct (.of included excluded),
    ListedBefore.nodup_of_pairwise (pairwise_walk hdistinct), ?_⟩
  intro tree' start' n n' hn hn' hrelisted
  rw [walk_eq_of_get hn, walk_eq_of_get hn']
  exact hrelisted.walkNode_eq (hdistinct.get hn)

/-- A source beside a directory of sources and one that is never entered. -/
def threeSources : List (Text × FileNode) :=
  [(Text.ofString "target", .dir [(Text.ofString "T.java", .file [])]),
    (Text.ofString "a", .dir [(Text.ofString "B.java", .file []), (Text.ofString "b", .file [])]),
    (Text.ofString "C.java", .file [])]

theorem distinct_threeSources : (FileNode.dir threeSources).Distinct := by decide

/-- The file in the directory that is not entered is left out, in whatever order the three entries
come and wherever they are. -/
theorem walk_eq_filter_listing_threeSources :
    (FileNode.dir threeSources).Distinct ∧
    (FileTree.mk (.dir threeSources) [] []).walk (.of [] []) [] =
      [[Text.ofString "C.java"], [Text.ofString "a", Text.ofString "B.java"]] ∧
    (FileTree.mk (.dir [(Text.ofString "s", .dir threeSources.reverse)]) [] []).walk (.of [] [])
        (Text.ofString "s") =
      [[Text.ofString "C.java"], [Text.ofString "a", Text.ofString "B.java"]] := by
  have hwalk : (FileTree.mk (.dir threeSources) [] []).walk (.of [] []) [] =
      [[Text.ofString "C.java"], [Text.ofString "a", Text.ofString "B.java"]] := by cbv
  have hdistinct : (FileTree.mk (.dir threeSources) [] []).top.Distinct := distinct_threeSources
  obtain ⟨-, -, -, hrelisted⟩ := walk_eq_filter_listing hdistinct [] [] []
  refine ⟨distinct_threeSources, hwalk, ?_⟩
  exact (hrelisted _ _ _ _ rfl (by rfl) (.perm (List.reverse_perm _).symm)).trans hwalk

end FileTree

end LogHarvest
