import LogHarvest.Proofs.FileTree.Path
import LogHarvest.Proofs.FileTree.Walk
import LogHarvest.Proofs.Harvest.Output
import LogHarvest.Proofs.Java.Facts

/-!
# The sources of a job

What a file brings to a harvest is decided by its bytes, wherever it stands. A job is ready if its
source and its output are there and the output is none of its files: then the files that are listed
have the bytes that they have in the tree, and the harvest comes to its end exactly if it gets over
each of them. It then has written the records of the files one after the other and counted their
shares together.
-/

namespace LogHarvest.Harvest

open Text.Utf8 (Bytes encoding)

/-! ### What the bytes of a file bring -/

/-- The records of a file of some bytes, one a line. -/
def block [Java.Parser] (group : Text) (bytes : Bytes) : Text :=
  PatternFile.recordsText (statementsWith group (SourceFacts.ofBytes [] bytes []))

/-- What a file of some bytes adds to the totals. -/
def shareOf [Java.Parser] (group : Text) (bytes : Bytes) : Totals :=
  share group (SourceFacts.ofBytes [] bytes [])

/-- A harvest gets over a file: no call in it stops the harvest and its records can be encoded. -/
structure Passable (group : Text) (facts : Except SourceFault SourceFacts) : Prop where
  unstopped : Unstopped group facts
  encodable : PatternFile.Encodable (statementsWith group facts)

section Bytes

variable [Java.Parser] (group path : Text) (bytes : Bytes)

theorem unstopped_ofBytes : Unstopped group (SourceFacts.ofBytes path bytes []) ↔
    Unstopped group (SourceFacts.ofBytes [] bytes []) := by
  rw [SourceFacts.ofBytes_eq_map]
  cases SourceFacts.ofBytes [] bytes [] <;> rfl

theorem statementsWith_ofBytes : statementsWith group (SourceFacts.ofBytes path bytes []) =
    statementsWith group (SourceFacts.ofBytes [] bytes []) := by
  rw [SourceFacts.ofBytes_eq_map]
  cases SourceFacts.ofBytes [] bytes [] <;> rfl

theorem share_ofBytes :
    share group (SourceFacts.ofBytes path bytes []) = shareOf group bytes := by
  rw [shareOf, SourceFacts.ofBytes_eq_map]
  cases SourceFacts.ofBytes [] bytes [] <;> rfl

end Bytes

/-! ### The files of a job -/

/-- Where a file that is listed for a job stands. -/
def Job.place (job : Job) (tree : FileTree) (f : List Text) : List Text :=
  tree.locate job.source ++ f

/-- The bytes of a file that is listed for a job. -/
def Job.bytesOf (job : Job) (tree : FileTree) (f : List Text) : Bytes :=
  match tree.top.get (job.place tree f) with
  | .ok (.file bytes) => bytes
  | _ => []

/-- A file that is listed for a job, by its path and its bytes. -/
def Job.sourceOf (job : Job) (tree : FileTree) (f : List Text) : Text × Bytes :=
  (tree.absolute (job.place tree f), job.bytesOf tree f)

/-- The files that are listed for a job, in the order of the walk. -/
def Job.sources (job : Job) (tree : FileTree) : List (Text × Bytes) :=
  (tree.walk job.rule job.source).map (job.sourceOf tree)

/-- A job can be done in a tree: its source is a directory, its output can be opened and is none of
the files that are listed, and all of these are there. -/
structure Ready (tree opened : FileTree) (job : Job) : Prop where
  isDir : tree.isDir (Path.tidy job.source) = true
  opened : tree.putFile (Path.tidy job.output) [] = .ok opened
  files : ∀ f ∈ tree.walk job.rule job.source,
    tree.top.get (job.place tree f) = .ok (.file (job.bytesOf tree f))
  outside : ∀ f ∈ tree.walk job.rule job.source, job.place tree f ≠ tree.locate job.output

variable {tree tree' opened opened' : FileTree} {job : Job} {f : List Text}

theorem Job.bytesOf_eq {bytes : Bytes} (h : tree.top.get (job.place tree f) = .ok (.file bytes)) :
    job.bytesOf tree f = bytes := by
  rw [Job.bytesOf, h]

/-- The place of the source is a directory. -/
theorem exists_get_source (h : tree.isDir (Path.tidy job.source) = true) :
    ∃ inner, tree.top.get (tree.locate job.source) = .ok (.dir inner) := by
  obtain ⟨place, inner, hplace, hinner⟩ := FileTree.isDir_iff.1 h
  obtain rfl := FileTree.eq_locate_of_opened hplace
  exact ⟨inner, hinner⟩

/-- The output is put where it is located, and nothing else changes. -/
theorem put_output (h : tree.putFile (Path.tidy job.output) [] = .ok opened) :
    tree.top.put [] (tree.locate job.output) = .ok opened.top ∧
      opened.topName = tree.topName := by
  obtain ⟨place, top, hplace, htop, rfl⟩ := FileTree.putFile_eq_ok_iff.1 h
  obtain rfl := FileTree.eq_locate_of_opened hplace
  exact ⟨htop, rfl⟩

theorem Job.place_ne_of_outside (h : ¬tree.locate job.source <+: tree.locate job.output)
    (f : List Text) : job.place tree f ≠ tree.locate job.output := by
  intro hplace
  exact h (hplace ▸ List.prefix_append _ _)

/-- Emptying the output leaves the facts of the files as their bytes have them. -/
theorem Ready.takenFiles_eq [Java.Parser] (h : Ready tree opened job) :
    takenFiles tree opened job =
      (job.sources tree).map fun s => (s.1, SourceFacts.ofBytes s.1 s.2 []) := by
  obtain ⟨hput, htopName⟩ := put_output h.opened
  rw [takenFiles, Job.sources, List.map_map, List.map_map]
  refine List.map_congr_left fun f hf => ?_
  have hget : opened.top.get (job.place tree f) = .ok (.file (job.bytesOf tree f)) :=
    FileNode.get_file_of_put hput (h.outside f hf) (h.files f hf)
  have habsolute : opened.absolute (job.place tree f) = tree.absolute (job.place tree f) := by
    rw [FileTree.absolute, FileTree.absolute, htopName]
  rw [Function.comp_apply, Function.comp_apply, ← Job.place, habsolute, factsAt, hget, habsolute,
    Job.sourceOf]

/-! ### A run over ready files -/

section Run

variable [Java.Parser] {start : Harvest}

/-- The harvest that takes some sources. -/
def afterSources (start : Harvest) (sources : List (Text × Bytes)) : Harvest :=
  { start with
    store := start.store.addAll (sources.flatMap fun s =>
      statementsWith start.group (SourceFacts.ofBytes [] s.2 []))
    totals := start.totals.plus (Totals.sum (sources.map fun s => shareOf start.group s.2)) }

/-- What is reported about some sources. -/
def sourceReports (group : Text) (sources : List (Text × Bytes)) : List Notice :=
  sources.flatMap fun s => reportsWith group s.1 (SourceFacts.ofBytes s.1 s.2 [])

theorem Ready.afterFiles_eq (h : Ready tree opened job) (start : Harvest) :
    start.afterFiles (takenFiles tree opened job) = start.afterSources (job.sources tree) := by
  simp only [afterFiles, afterSources, h.takenFiles_eq, List.flatMap_map, List.map_map,
    Function.comp_def, statementsWith_ofBytes, share_ofBytes]

theorem Ready.statements_eq (h : Ready tree opened job) (group : Text) :
    ((takenFiles tree opened job).flatMap fun f => statementsWith group f.2) =
      (job.sources tree).flatMap fun s =>
        statementsWith group (SourceFacts.ofBytes [] s.2 []) := by
  simp only [h.takenFiles_eq, List.flatMap_map, statementsWith_ofBytes]

theorem Ready.forall_unstopped_iff (h : Ready tree opened job) (group : Text) :
    (∀ f ∈ takenFiles tree opened job, Unstopped group f.2) ↔
      ∀ s ∈ job.sources tree, Unstopped group (SourceFacts.ofBytes [] s.2 []) := by
  simp only [h.takenFiles_eq, List.forall_mem_map, unstopped_ofBytes]

/-- A ready job comes to its end if the harvest gets over each of its files. -/
theorem Ready.run_eq (h : Ready tree opened job)
    (hsources : ∀ s ∈ job.sources tree,
      Passable start.group (SourceFacts.ofBytes [] s.2 [])) :
    ∃ after, start.run tree job = (after, ⟨start.afterSources (job.sources tree),
        foundNotice (tree.walk job.rule job.source).length job.source ::
          sourceReports start.group (job.sources tree),
        .ok (start.afterSources (job.sources tree)).totals⟩) ∧
      after.bytesAt (Path.tidy job.output) =
        .ok (encoding ((job.sources tree).flatMap fun s => block start.group s.2)) := by
  have hcalls : ∀ f ∈ takenFiles tree opened job, Unstopped start.group f.2 :=
    (h.forall_unstopped_iff start.group).2 fun s hs => (hsources s hs).unstopped
  have hencodable : PatternFile.Encodable
      ((takenFiles tree opened job).flatMap fun f => statementsWith start.group f.2) := by
    rw [h.statements_eq]
    exact PatternFile.encodable_flatMap.2 fun s hs => (hsources s hs).encodable
  have hw := PatternFile.Writer.openFile_new h.opened
  obtain ⟨w', hwritten⟩ := (PatternFile.Writer.exists_writeAll_eq_iff
    (w := ⟨Path.tidy job.output, some [], 0⟩) rfl).2 hencodable
  have htakes := PatternFile.Writer.takes_of_writeAll hwritten
  have htaken : start.addFiles ⟨Path.tidy job.output, some [], 0⟩ _ = _ :=
    addFiles_eq hcalls hwritten
  have hrun := run_of_openFile start h.isDir hw
  refine ⟨(w'.close opened).2, ?_, ?_⟩
  · rw [hrun, htaken, h.afterFiles_eq, sourceReports, h.takenFiles_eq]
    simp only [List.flatMap_map]
  · have hclosed := PatternFile.Writer.bytesAt_close htakes.pending
      (by rw [htakes.path]; exact h.opened)
    rw [htakes.path, h.statements_eq, PatternFile.recordsText_flatMap] at hclosed
    exact hclosed

/-- If a ready job comes to its end, the harvest has got over each of its files. -/
theorem Ready.passable (h : Ready tree opened job) {totals : Totals}
    (hr : (start.run tree job).2.result = .ok totals) :
    ∀ s ∈ job.sources tree, Passable start.group (SourceFacts.ofBytes [] s.2 []) := by
  obtain ⟨w, opened', w', -, hopen, htaken, -⟩ := exists_addFiles_of_run (Prod.eta _).symm hr
  rw [PatternFile.Writer.openFile_new h.opened] at hopen
  obtain ⟨rfl, rfl⟩ := Prod.mk.inj (Except.ok.inj hopen)
  obtain ⟨hcalls, hwritten⟩ := of_addFiles_eq htaken
  have hencodable := (PatternFile.Writer.takes_of_writeAll hwritten).encodable
  rw [h.statements_eq, PatternFile.encodable_flatMap] at hencodable
  exact fun s hs => ⟨(h.forall_unstopped_iff start.group).1 hcalls s hs, hencodable s hs⟩

theorem isDir_of_run {totals : Totals} (hr : (start.run tree job).2.result = .ok totals) :
    tree.isDir (Path.tidy job.source) = true := by
  obtain ⟨w, opened, w', hdir, -⟩ := exists_addFiles_of_run (Prod.eta _).symm hr
  exact hdir

theorem canWrite_of_run {totals : Totals} (hr : (start.run tree job).2.result = .ok totals) :
    tree.CanWrite job.output := by
  obtain ⟨w, opened, w', -, hopen, -⟩ := exists_addFiles_of_run (Prod.eta _).symm hr
  exact ⟨opened, (PatternFile.Writer.openFile_eq_ok hopen).2⟩

end Run

/-! ### Trees and jobs -/

/-- A job is ready if no directory has two entries of one name and the output is not below the
source. -/
theorem ready_of_distinct (hdistinct : tree.top.Distinct)
    (houtside : ¬tree.locate job.source <+: tree.locate job.output)
    (hdir : tree.isDir (Path.tidy job.source) = true)
    (hopened : tree.putFile (Path.tidy job.output) [] = .ok opened) : Ready tree opened job := by
  refine ⟨hdir, hopened, fun f hf => ?_, fun f _ => Job.place_ne_of_outside houtside f⟩
  obtain ⟨bytes, hbytes⟩ := FileTree.exists_file_of_mem_walk hdistinct hf
  rw [Job.bytesOf_eq hbytes]
  exact hbytes

/-- The output opens no place on the way to a file below the source. -/
theorem Ready.output_not_prefix (h : Ready tree opened job)
    (houtside : ¬tree.locate job.source <+: tree.locate job.output) (f : List Text) :
    ¬tree.locate job.output <+: job.place tree f := by
  intro hprefix
  obtain ⟨inner, hinner⟩ := exists_get_source h.isDir
  obtain habove | hbelow := List.prefix_or_prefix_of_prefix hprefix (List.prefix_append _ f)
  · obtain ⟨inner', hdir⟩ := FileNode.get_dir_of_prefix hinner habove
    exact FileNode.get_ne_dir_of_put (put_output h.opened).1 inner' hdir
  · exact houtside hbelow

end LogHarvest.Harvest
