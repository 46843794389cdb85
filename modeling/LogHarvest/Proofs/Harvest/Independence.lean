import LogHarvest.Proofs.Harvest.Sources

/-!
# Files are harvested independently

A file that is added to the source of a job leaves the other files as they are and gets one place
among those that are listed. If it cannot be read, it leaves no trace in the records, the store or the
numbers but that of the skipped files, and one warning.
-/

namespace LogHarvest.Harvest

open Text.Utf8 (Bytes encoding)

variable {tree tree' opened opened' : FileTree} {job : Job} {f : List Text}

/-! ### One file more -/

section Adds

variable {bytes : Bytes} (h : FileTree.Adds bytes (job.place tree f) tree tree')

include h

theorem place_of_adds (g : List Text) : job.place tree' g = job.place tree g := by
  rw [Job.place, Job.place, h.locate]

theorem sourceOf_of_adds {g : List Text} {old : Bytes}
    (hg : tree'.top.get (job.place tree g) = .ok (.file old)) :
    job.sourceOf tree' g = (tree.absolute (job.place tree g), old) := by
  rw [← place_of_adds h] at hg ⊢
  rw [Job.sourceOf, Job.bytesOf_eq hg, FileTree.absolute, FileTree.absolute, h.topName]

/-- A job stays ready when a file is added to its source, and the file takes one place among those
that are listed if it is one of them. -/
theorem Ready.adds (hready : Ready tree opened job) (hdistinct : tree.top.Distinct)
    (houtside : ¬tree.locate job.source <+: tree.locate job.output)
    (hf : f ∈ tree'.walk job.rule job.source) :
    ∃ opened' front rest, Ready tree' opened' job ∧ job.sources tree = front ++ rest ∧
      job.sources tree' = front ++ (tree.absolute (job.place tree f), bytes) :: rest := by
  obtain ⟨inner, hinner⟩ := exists_get_source hready.isDir
  obtain ⟨front, rest, hwalk, hwalk'⟩ := h.exists_walk_eq hdistinct hinner hf
  have hself := h.top.get_self
  have hothers : ∀ g ∈ front ++ rest,
      tree'.top.get (job.place tree g) = .ok (.file (job.bytesOf tree g)) := fun g hg =>
    h.top.get_file (hready.files g (hwalk ▸ hg))
  obtain ⟨opened', hopened'⟩ := h.exists_putFile hready.opened fun place hplace => by
    obtain rfl := FileTree.eq_locate_of_opened hplace
    exact hready.output_not_prefix houtside f
  have houtside' : ¬tree'.locate job.source <+: tree'.locate job.output := by
    rw [h.locate, h.locate]
    exact houtside
  have hready' : Ready tree' opened' job :=
    ready_of_distinct (h.top.distinct hdistinct) houtside' (h.isDir hready.isDir) hopened'
  have hsource : ∀ g ∈ front ++ rest, job.sourceOf tree' g = job.sourceOf tree g := fun g hg =>
    sourceOf_of_adds h (hothers g hg)
  obtain ⟨hfront, hrest⟩ := List.forall_mem_append.1 hsource
  refine ⟨opened', front.map (job.sourceOf tree), rest.map (job.sourceOf tree), hready', ?_, ?_⟩
  · rw [Job.sources, hwalk, List.map_append]
  · rw [Job.sources, hwalk', List.map_append, List.map_cons, List.map_congr_left hfront,
      List.map_congr_left hrest, sourceOf_of_adds h hself]

end Adds

/-! ### One unreadable file more -/

section Unreadable

variable [Java.Parser] {bytes : Bytes} (h : SourceFacts.Unreadable bytes) (group path : Text)
  (front rest : List (Text × Bytes))

include h

theorem passable_of_unreadable : Passable group (SourceFacts.ofBytes [] bytes []) := by
  obtain ⟨fault, hfault⟩ := h.exists_fault [] []
  rw [hfault]
  exact ⟨by simp [Unstopped, callsOf], by simp [statementsWith, PatternFile.Encodable]⟩

theorem block_of_unreadable : block group bytes = [] := by
  obtain ⟨fault, hfault⟩ := h.exists_fault [] []
  rw [block, hfault]
  rfl

/-- An unreadable file adds to a harvest nothing but one to the files that it has skipped. -/
theorem afterSources_of_unreadable (start : Harvest) :
    start.afterSources (front ++ (path, bytes) :: rest) =
      { start.afterSources (front ++ rest) with
        totals := (start.afterSources (front ++ rest)).totals.addSkippedFile } := by
  obtain ⟨fault, hfault⟩ := h.exists_fault [] []
  have hshare : shareOf start.group bytes = ⟨0, 0, 1, 0⟩ := by
    rw [shareOf, hfault]
    rfl
  have hstatements : statementsWith start.group (SourceFacts.ofBytes [] bytes []) = [] := by
    rw [hfault]
    rfl
  simp only [afterSources, List.flatMap_append, List.flatMap_cons, hstatements, List.nil_append,
    List.map_append, List.map_cons, Totals.sum_append, Totals.sum_cons, hshare, Totals.plus,
    Totals.addSkippedFile, Harvest.mk.injEq, Totals.mk.injEq, true_and]
  omega

/-- An unreadable file adds one warning to the reports. -/
theorem exists_sourceReports_of_unreadable :
    ∃ reason, sourceReports group (front ++ (path, bytes) :: rest) =
      sourceReports group front ++ skipped path reason :: sourceReports group rest := by
  obtain ⟨fault, hfault⟩ := h.exists_fault path []
  refine ⟨fault.reason, ?_⟩
  simp only [sourceReports, List.flatMap_append, List.flatMap_cons, hfault, reportsWith,
    List.singleton_append]

end Unreadable

/-- Of two runs, the second differs from the first by one skipped file and the warning about it. -/
structure SkipsOneMore (job : Job) (path : Text) (run run' : FileTree × Step (Except Fault Totals)) :
    Prop where
  result : run'.2.result = run.2.result.map Totals.addSkippedFile
  output : run'.1.bytesAt (Path.tidy job.output) = run.1.bytesAt (Path.tidy job.output)
  store : run'.2.harvest.store = run.2.harvest.store
  warnings : ∃ front rest reason,
    run.2.notices.filter Notice.isWarning = front ++ rest ∧
    run'.2.notices.filter Notice.isWarning = front ++ skipped path reason :: rest

section Runs

variable [Java.Parser] {start : Harvest}

/-- Runs of ready jobs whose files are the same but for an unreadable one in the second. -/
theorem skipsOneMore_of_sources (h : Ready tree opened job) (h' : Ready tree' opened' job)
    {front rest : List (Text × Bytes)} {path : Text} {bytes : Bytes}
    (hsources : job.sources tree = front ++ rest)
    (hsources' : job.sources tree' = front ++ (path, bytes) :: rest)
    (hbytes : SourceFacts.Unreadable bytes) {totals : Totals}
    (hr : (start.run tree job).2.result = .ok totals) :
    SkipsOneMore job path (start.run tree job) (start.run tree' job) := by
  have hpassable := h.passable hr
  have hpassable' : ∀ s ∈ job.sources tree',
      Passable start.group (SourceFacts.ofBytes [] s.2 []) := by
    rw [hsources] at hpassable
    rw [hsources']
    obtain ⟨hfront, hrest⟩ := List.forall_mem_append.1 hpassable
    exact List.forall_mem_append.2 ⟨hfront,
      List.forall_mem_cons.2 ⟨passable_of_unreadable hbytes start.group, hrest⟩⟩
  obtain ⟨after, hrun, hafter⟩ := h.run_eq hpassable
  obtain ⟨after', hrun', hafter'⟩ := h'.run_eq hpassable'
  have hharvest := afterSources_of_unreadable hbytes path front rest start
  obtain ⟨reason, hreports⟩ :=
    exists_sourceReports_of_unreadable hbytes start.group path front rest
  rw [← hsources, ← hsources'] at hharvest
  rw [hrun, hrun']
  refine ⟨?_, ?_, ?_, (sourceReports start.group front).filter Notice.isWarning,
    (sourceReports start.group rest).filter Notice.isWarning, reason, ?_, ?_⟩
  · rw [hharvest]
    rfl
  · rw [hafter, hafter', hsources, hsources']
    simp only [List.flatMap_append, List.flatMap_cons, block_of_unreadable hbytes,
      List.nil_append]
  · rw [hharvest]
  · have hfound : (foundNotice (tree.walk job.rule job.source).length job.source).isWarning =
        false := rfl
    rw [hsources, List.filter_cons_of_neg (by simp [hfound]), sourceReports, List.flatMap_append,
      List.filter_append, ← sourceReports, ← sourceReports]
  · have hfound : (foundNotice (tree'.walk job.rule job.source).length job.source).isWarning =
        false := rfl
    have hskipped : (skipped path reason).isWarning = true := rfl
    rw [hsources', List.filter_cons_of_neg (by simp [hfound]), hreports, List.filter_append,
      List.filter_cons_of_pos hskipped]

/-- If no directory of a tree has two entries of one name and the output is not below the source, a
harvest that comes to its end has read each listed file as it stands in the tree. Its output is the
records of these files one after the other, and its totals are their shares together, where records
and share of a file depend on nothing but its bytes. If a file is added that is listed but cannot be
read, wherever it stands and with whatever directories it needs, the harvest comes to its end as well,
and differs by one skipped file and the warning about it; and it comes to its end only if it does so
without the file, given that its source and its output are there without the file. -/
theorem run_files_independent (group : Text) (hdistinct : tree.top.Distinct)
    (houtside : ¬tree.locate job.source <+: tree.locate job.output) :
    (∀ after step totals, (new group).run tree job = (after, step) → step.result = .ok totals →
      (∀ f ∈ tree.walk job.rule job.source,
        tree.top.get (job.place tree f) = .ok (.file (job.bytesOf tree f))) ∧
      after.bytesAt (Path.tidy job.output) =
        .ok (encoding ((tree.walk job.rule job.source).flatMap fun f =>
          block group (job.bytesOf tree f))) ∧
      totals = Totals.sum ((tree.walk job.rule job.source).map fun f =>
        shareOf group (job.bytesOf tree f))) ∧
    ∀ tree' f bytes, FileTree.Adds bytes (job.place tree f) tree tree' →
      f ∈ tree'.walk job.rule job.source → SourceFacts.Unreadable bytes →
      (∀ totals, ((new group).run tree job).2.result = .ok totals →
        SkipsOneMore job (tree.absolute (job.place tree f)) ((new group).run tree job)
          ((new group).run tree' job)) ∧
      (tree.isDir (Path.tidy job.source) = true → tree.CanWrite job.output →
        ∀ totals, ((new group).run tree' job).2.result = .ok totals →
          ∃ totals', ((new group).run tree job).2.result = .ok totals') := by
  have hready {opened : FileTree} (hdir : tree.isDir (Path.tidy job.source) = true)
      (hopened : tree.putFile (Path.tidy job.output) [] = .ok opened) : Ready tree opened job :=
    ready_of_distinct hdistinct houtside hdir hopened
  constructor
  · intro after step totals hrun hr
    have hresult : ((new group).run tree job).2.result = .ok totals := by rw [hrun]; exact hr
    obtain ⟨opened, hopened⟩ := canWrite_of_run hresult
    have htree := hready (isDir_of_run hresult) hopened
    obtain ⟨after', hrun', hafter⟩ := htree.run_eq (htree.passable hresult)
    obtain ⟨rfl, rfl⟩ := Prod.mk.inj (hrun.symm.trans hrun')
    obtain rfl := Except.ok.inj hr
    refine ⟨htree.files, ?_, ?_⟩
    · rw [hafter, Job.sources, List.flatMap_map]
      rfl
    · rw [afterSources, Job.sources, List.map_map]
      exact Totals.zero_plus _
  · intro tree' f bytes hadds hf hbytes
    constructor
    · intro totals hr
      obtain ⟨opened, hopened⟩ := canWrite_of_run hr
      have htree := hready (isDir_of_run hr) hopened
      obtain ⟨opened', front, rest, htree', hsources, hsources'⟩ :=
        Ready.adds hadds htree hdistinct houtside hf
      exact skipsOneMore_of_sources htree htree' hsources hsources' hbytes hr
    · intro hdir hwrite totals hr
      obtain ⟨opened, hopened⟩ := hwrite
      have htree := hready hdir hopened
      obtain ⟨opened', front, rest, htree', hsources, hsources'⟩ :=
        Ready.adds hadds htree hdistinct houtside hf
      have hpassable := htree'.passable hr
      rw [hsources'] at hpassable
      obtain ⟨hfront, hrest⟩ := List.forall_mem_append.1 hpassable
      have hothers : ∀ s ∈ job.sources tree,
          Passable (new group).group (SourceFacts.ofBytes [] s.2 []) := by
        rw [hsources]
        exact List.forall_mem_append.2 ⟨hfront, (List.forall_mem_cons.1 hrest).2⟩
      obtain ⟨after, hrun, -⟩ := htree.run_eq hothers
      rw [hrun]
      exact ⟨_, rfl⟩

end Runs

/-! ### A broken file in a directory of its own -/

/-- Where the broken file is put: in a directory that is made for it. -/
def brokenPath : Text := Text.ofString "src/b/c/C.java"

/-- The two calls with a file beside them that is no text. -/
def besideBroken : FileTree := twoCalls.plant brokenPath (.file [255])

theorem distinct_twoCalls : twoCalls.top.Distinct := by decide

/-- The broken file is skipped, and the output is the records of the two others. -/
theorem run_files_independent_twoCalls :
    twoCalls.top.Distinct ∧
    (¬twoCalls.locate intoFile.source <+: twoCalls.locate intoFile.output) ∧
    ((new Template.wordGroup).run twoCalls intoFile).2.result = .ok ⟨2, 2, 0, 0⟩ ∧
    ((new Template.wordGroup).run besideBroken intoFile).2.result = .ok ⟨2, 2, 1, 0⟩ ∧
    ((new Template.wordGroup).run besideBroken intoFile).1.bytesAt (Path.tidy intoFile.output) =
      .ok (encoding (PatternFile.recordsText [ofClassA, ofDefaultClass])) := by
  have houtside : ¬twoCalls.locate intoFile.source <+: twoCalls.locate intoFile.output := by decide
  obtain ⟨hparts, hadded⟩ := run_files_independent Template.wordGroup distinct_twoCalls houtside
  have hrun := run_twoCalls_result
  obtain ⟨-, houtput, -⟩ := hparts _ _ _ (Prod.eta _).symm hrun
  let f : List Text := [['b'], ['c'], Text.ofString "C.java"]
  have hplace : twoCalls.locate brokenPath = intoFile.place twoCalls f := by decide
  have hadds : FileTree.Adds [255] (twoCalls.locate brokenPath) twoCalls besideBroken :=
    FileTree.adds_plant (by rfl)
  rw [hplace] at hadds
  have hbroken : SourceFacts.Unreadable [255] := by
    intro source hsource
    have hnone : (Text.Utf8.decode [255]).toOption = none := by decide +kernel
    simp [hsource, Except.toOption] at hnone
  obtain ⟨hskips, -⟩ := hadded besideBroken f [255] hadds (by decide +kernel) hbroken
  obtain ⟨hresult, hsame, -, -⟩ := hskips _ hrun
  refine ⟨distinct_twoCalls, houtside, hrun, ?_, ?_⟩
  · rw [hresult, hrun]
    rfl
  · rw [hsame, houtput]
    refine congrArg (fun t => Except.ok (encoding t)) ?_
    decide +kernel

end LogHarvest.Harvest
