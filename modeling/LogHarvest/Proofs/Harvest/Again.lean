import LogHarvest.Proofs.Harvest.Counting
import LogHarvest.Proofs.Harvest.Independence

/-!
# Harvesting again

The totals of a harvest are never set back. A run that comes to its end gives what had been counted
before it and the shares of its own files, while its output holds the records of these files alone.
So the totals are those of the run exactly if nothing had been counted: for a harvest that runs over
the same sources again, only in the first run of a new one, unless there is no source at all.
-/

namespace LogHarvest

namespace Totals

/-- Totals counted a number of times. -/
def times (n : Nat) (t : Totals) : Totals :=
  ⟨n * t.logs, n * t.files, n * t.skippedFiles, n * t.failedPatterns⟩

theorem times_zero (t : Totals) : t.times 0 = zero := by simp [times, zero]

theorem times_succ (n : Nat) (t : Totals) : t.times (n + 1) = t.plus (t.times n) := by
  simp only [times, plus, Int.natCast_add, Int.add_mul, Int.natCast_one, Int.one_mul, Int.add_comm]

theorem plus_comm (t u : Totals) : t.plus u = u.plus t := by simp only [plus, Int.add_comm]

/-- Totals add nothing to others exactly if nothing is counted in them. -/
theorem plus_eq_self_iff {t u : Totals} : t.plus u = u ↔ t = zero := by
  cases t
  cases u
  simp only [plus, zero, mk.injEq]
  omega

theorem times_eq_zero_iff {n : Nat} {t : Totals} : t.times n = zero ↔ n = 0 ∨ t = zero := by
  cases t
  simp only [times, zero, mk.injEq, Int.mul_eq_zero, Int.natCast_eq_zero]
  tauto

end Totals

namespace Harvest

open Text.Utf8 (Bytes encoding)

variable {tree tree' opened : FileTree} {trees : List FileTree} {job : Job} {start : Harvest}
  {sources : List (Text × Bytes)}

theorem new_group (group : Text) : (new group).group = group := rfl

theorem new_totals (group : Text) : (new group).totals = Totals.zero := rfl

/-! ### What sources add up to -/

section Sources

variable [Java.Parser]

/-- The statements of some sources in order. -/
def statementsFrom (group : Text) (sources : List (Text × Bytes)) : List Statement :=
  sources.flatMap fun s => statementsWith group (SourceFacts.ofBytes [] s.2 [])

/-- The shares of some sources together. -/
def sharesOf (group : Text) (sources : List (Text × Bytes)) : Totals :=
  Totals.sum (sources.map fun s => shareOf group s.2)

theorem afterSources_group (start : Harvest) (sources : List (Text × Bytes)) :
    (start.afterSources sources).group = start.group := rfl

theorem afterSources_totals (start : Harvest) (sources : List (Text × Bytes)) :
    (start.afterSources sources).totals =
      start.totals.plus (sharesOf start.group sources) := rfl

/-- The files of some sources, with their facts. -/
def filesOf (sources : List (Text × Bytes)) : List (Text × Except SourceFault SourceFacts) :=
  sources.map fun s => (s.1, SourceFacts.ofBytes [] s.2 [])

theorem sharesOf_eq (group : Text) (sources : List (Text × Bytes)) :
    sharesOf group sources = Totals.sum ((filesOf sources).map fun f => share group f.2) := by
  rw [filesOf, List.map_map]
  rfl

theorem statementsFrom_eq (group : Text) (sources : List (Text × Bytes)) :
    statementsFrom group sources = (filesOf sources).flatMap fun f => statementsWith group f.2 := by
  rw [filesOf, List.flatMap_map]
  rfl

/-- Each source is counted as taken or as skipped. -/
theorem sharesOf_files (group : Text) (sources : List (Text × Bytes)) :
    (sharesOf group sources).files + (sharesOf group sources).skippedFiles = sources.length := by
  obtain ⟨htaken, hskipped⟩ := sum_share_files group (filesOf sources)
  have hall := countP_isOk_add (filesOf sources)
  have hlength : (filesOf sources).length = sources.length := List.length_map _
  rw [sharesOf_eq, htaken, hskipped]
  omega

theorem sharesOf_eq_zero_iff {group : Text} :
    sharesOf group sources = Totals.zero ↔ sources = [] := by
  constructor
  · intro hzero
    have hfiles := sharesOf_files group sources
    rw [hzero] at hfiles
    exact List.eq_nil_of_length_eq_zero (Int.natCast_eq_zero.1 hfiles.symm)
  · rintro rfl
    rfl

end Sources

/-! ### What a run leaves as it was -/

/-- A job is ready in a tree and has some sources there. -/
def Job.Finds (job : Job) (tree : FileTree) (sources : List (Text × Bytes)) : Prop :=
  (∃ opened, Ready tree opened job) ∧ job.sources tree = sources

/-- What is kept whenever something is written to the output of a job is kept by a run. -/
theorem run_keeps [Java.Parser] (hgroup : Template.SafeGroup start.group) {P : FileTree → Prop}
    (hwrite : ∀ t t' bytes, P t → t.putFile (Path.tidy job.output) bytes = .ok t' → P t')
    (h : P tree) : P (start.run tree job).1 := by
  have hclose {t : FileTree} (ht : P t) (w : PatternFile.Writer)
      (hpath : w.path = Path.tidy job.output) : P (w.close t).2 := by
    obtain hsame | ⟨bytes, hput⟩ := w.close_tree t
    · rw [hsame]
      exact ht
    · rw [hpath] at hput
      exact hwrite _ _ bytes ht hput
  obtain ⟨notices, fault, hrun⟩ | ⟨w, opened, hdir, hopen⟩ := run_cases start tree job
  · rw [hrun]
    exact h
  · rw [run_of_openFile start hdir hopen]
    obtain ⟨rfl, hput⟩ := PatternFile.Writer.openFile_eq_ok hopen
    refine hclose (hwrite _ _ [] h hput) _ ?_
    rw [addFiles_result_eq fun f _ => unstopped_of_safeGroup hgroup f.2]
    exact PatternFile.Writer.writeAll_path _ _

/-- A file that is written at the output of a job, outside of its source, leaves the sources as they
are. -/
theorem Job.Finds.putFile {bytes : Bytes} (h : job.Finds tree sources)
    (houtside : ¬tree.locate job.source <+: tree.locate job.output)
    (hput : tree.putFile (Path.tidy job.output) bytes = .ok tree') : job.Finds tree' sources := by
  obtain ⟨⟨opened, hready⟩, rfl⟩ := h
  obtain ⟨place, top, hplace, htop, rfl⟩ := FileTree.putFile_eq_ok_iff.1 hput
  obtain rfl := FileTree.eq_locate_of_opened hplace
  have hget (f : List Text) : top.get (job.place tree f) = tree.top.get (job.place tree f) := by
    have habove : ¬job.place tree f <+: tree.locate job.output := fun hprefix =>
      houtside ((List.prefix_append _ f).trans hprefix)
    exact FileNode.get_of_put_beside htop (hready.output_not_prefix houtside f) habove
  obtain ⟨inner, hinner⟩ := exists_get_source hready.isDir
  have hsource := hget []
  rw [Job.place, List.append_nil] at hsource
  have hwalk : ({ tree with top := top } : FileTree).walk job.rule job.source =
      tree.walk job.rule job.source :=
    (FileTree.walk_eq_of_get (hsource.trans hinner)).trans (FileTree.walk_eq_of_get hinner).symm
  have hbytes (f : List Text) : job.bytesOf { tree with top := top } f = job.bytesOf tree f := by
    simp only [Job.bytesOf]
    rw [show (job.place { tree with top := top } f) = job.place tree f from rfl, hget]
  obtain ⟨opened', hopened'⟩ := FileTree.exists_putFile_again hput []
  refine ⟨⟨opened', FileTree.isDir_of_putFile hput hready.isDir, hopened', fun f hf => ?_,
    fun f _ => Job.place_ne_of_outside houtside f⟩, ?_⟩
  · rw [hwalk] at hf
    rw [hbytes, ← hready.files f hf]
    exact hget f
  · rw [Job.sources, hwalk]
    exact List.map_congr_left fun f _ => Prod.ext rfl (hbytes f)

/-- If its output is outside of its source, a job finds after a run what it found before it. -/
theorem Job.Finds.run [Java.Parser] (h : job.Finds tree sources)
    (hgroup : Template.SafeGroup start.group)
    (houtside : ¬tree.locate job.source <+: tree.locate job.output) :
    job.Finds (start.run tree job).1 sources := by
  let P (t : FileTree) : Prop :=
    job.Finds t sources ∧ ¬t.locate job.source <+: t.locate job.output
  have hwrite : ∀ t t' bytes, P t → t.putFile (Path.tidy job.output) bytes = .ok t' → P t' := by
    rintro t t' bytes ⟨ht, hout⟩ hput
    refine ⟨ht.putFile hout hput, ?_⟩
    obtain ⟨place, top, -, -, rfl⟩ := FileTree.putFile_eq_ok_iff.1 hput
    exact hout
  exact (run_keeps hgroup hwrite ⟨h, houtside⟩).1

/-! ### One run after others -/

section Runs

variable [Java.Parser]

/-- A harvest gets over all of some sources. -/
def Passes (group : Text) (sources : List (Text × Bytes)) : Prop :=
  ∀ s ∈ sources, Passable group (SourceFacts.ofBytes [] s.2 [])

/-- A run comes to its end exactly if the harvest gets over the sources that its job finds. -/
theorem Job.Finds.run_iff (h : job.Finds tree sources) :
    (∃ totals, (start.run tree job).2.result = .ok totals) ↔ Passes start.group sources := by
  obtain ⟨⟨opened, hready⟩, rfl⟩ := h
  constructor
  · rintro ⟨totals, hr⟩
    exact hready.passable hr
  · intro hpasses
    obtain ⟨after, hrun, -⟩ := hready.run_eq hpasses
    rw [hrun]
    exact ⟨_, rfl⟩

/-- What a run that comes to its end counts, keeps and leaves in its output. -/
theorem Job.Finds.run_eq (h : job.Finds tree sources) (hpasses : Passes start.group sources) :
    (start.run tree job).2.result = .ok (start.totals.plus (sharesOf start.group sources)) ∧
      (start.run tree job).2.harvest = start.afterSources sources ∧
      (start.run tree job).1.bytesAt (Path.tidy job.output) =
        .ok (encoding (PatternFile.recordsText (statementsFrom start.group sources))) := by
  obtain ⟨⟨opened, hready⟩, rfl⟩ := h
  obtain ⟨after, hrun, hafter⟩ := hready.run_eq hpasses
  rw [hrun, statementsFrom, PatternFile.recordsText_flatMap]
  exact ⟨rfl, rfl, hafter⟩

/-- Runs that find the same sources count them once each. -/
theorem after_runs_totals (h : ∀ t ∈ trees, job.Finds t sources)
    (hpasses : Passes start.group sources) :
    (start.after (trees.map fun t => .run t job)).group = start.group ∧
      (start.after (trees.map fun t => .run t job)).totals =
        start.totals.plus ((sharesOf start.group sources).times trees.length) := by
  induction trees generalizing start with
  | nil => exact ⟨rfl, by rw [List.length_nil, Totals.times_zero, Totals.plus_zero]; rfl⟩
  | cons tree trees ih =>
      obtain ⟨hone, hrest⟩ := List.forall_mem_cons.1 h
      obtain ⟨-, hharvest, -⟩ := hone.run_eq hpasses
      have hgroup : (start.run tree job).2.harvest.group = start.group := by
        rw [hharvest, afterSources_group]
      have htotals : (start.run tree job).2.harvest.totals =
          start.totals.plus (sharesOf start.group sources) := by
        rw [hharvest, afterSources_totals]
      have hlaterPasses : Passes (start.run tree job).2.harvest.group sources := by
        rw [hgroup]
        exact hpasses
      obtain ⟨hlater, hcount⟩ := ih hrest hlaterPasses
      rw [hgroup] at hlater hcount
      rw [htotals, Totals.plus_assoc, ← Totals.times_succ] at hcount
      exact ⟨hlater, hcount⟩

/-- Let a harvest run over some trees in which a job finds the same sources, and then over one more.
The last run comes to its end exactly if it would on a new harvest, and its output then holds the
records that a new harvest counts. Its totals are those of a new harvest as many times as there have
been runs, besides what was counted before all of them. So they are the run's own exactly if nothing
had been counted before it: if nothing was counted at the start, in the first run alone, unless no
source is found. -/
theorem totals_of_run_again (hgroup : Template.SafeGroup start.group)
    (h : ∀ t ∈ tree :: trees, job.Finds t sources) :
    let before := start.after (trees.map fun t => .run t job)
    ((∃ totals, (before.run tree job).2.result = .ok totals) ↔
        ∃ own, ((new start.group).run tree job).2.result = .ok own) ∧
      ∀ own, ((new start.group).run tree job).2.result = .ok own →
        (before.run tree job).2.result =
            .ok (start.totals.plus (own.times (trees.length + 1))) ∧
          (∃ records, own.logs - own.failedPatterns = (records.length : Int) ∧
            (before.run tree job).1.bytesAt (Path.tidy job.output) =
              .ok (encoding (PatternFile.recordsText records))) ∧
          ((before.run tree job).2.result = .ok own ↔
            start.totals.plus (own.times trees.length) = Totals.zero) ∧
          (start.totals = Totals.zero →
            ((before.run tree job).2.result = .ok own ↔ trees = [] ∨ sources = [])) := by
  intro before
  obtain ⟨hlast, hothers⟩ := List.forall_mem_cons.1 h
  have hsame : before.group = start.group := by
    obtain ⟨ss, hmeets⟩ := exists_meets_after hgroup (trees.map fun t => .run t job)
    exact hmeets.group
  refine ⟨by rw [hlast.run_iff, hlast.run_iff, hsame]; rfl, fun own hown => ?_⟩
  have hpasses : Passes (new start.group).group sources := hlast.run_iff.1 ⟨own, hown⟩
  obtain rfl : own = sharesOf start.group sources := by
    obtain ⟨hnew, -⟩ := hlast.run_eq hpasses
    rw [hown] at hnew
    exact (Except.ok.inj hnew).trans (Totals.zero_plus _)
  have hstartPasses : Passes start.group sources := hpasses
  obtain ⟨-, hcounted⟩ := after_runs_totals hothers hstartPasses
  have hlastPasses : Passes before.group sources := by rw [hsame]; exact hpasses
  obtain ⟨hresult, -, houtput⟩ := hlast.run_eq hlastPasses
  rw [hsame] at hresult houtput
  have hown : (before.run tree job).2.result = .ok (sharesOf start.group sources) ↔
      before.totals = Totals.zero := by
    rw [hresult, Except.ok.injEq, Totals.plus_eq_self_iff]
  have hbalance : (sharesOf start.group sources).logs -
      (sharesOf start.group sources).failedPatterns =
        (statementsFrom start.group sources).length := by
    rw [sharesOf_eq, statementsFrom_eq, sum_share_eq]
  refine ⟨?_, ⟨_, hbalance, houtput⟩, ?_, fun hzero => ?_⟩
  · rw [hresult, hcounted, Totals.plus_assoc, Totals.plus_comm ((sharesOf _ _).times _),
      ← Totals.times_succ]
  · rw [hown, hcounted]
  · rw [hown, hcounted, hzero, Totals.zero_plus, Totals.times_eq_zero_iff, sharesOf_eq_zero_iff,
      List.length_eq_zero_iff]

end Runs

/-! ### Two runs over a small tree -/

def firstRun : FileTree × Step (Except Fault Totals) :=
  (new Template.wordGroup).run twoCalls intoFile

/-- The run with the harvest and in the tree that the first one has left. -/
def secondRun : FileTree × Step (Except Fault Totals) :=
  firstRun.2.harvest.run firstRun.1 intoFile

theorem finds_twoCalls : intoFile.Finds twoCalls (intoFile.sources twoCalls) := by
  obtain ⟨opened, hopened⟩ : twoCalls.CanWrite intoFile.output := ⟨_, rfl⟩
  have hready : Ready twoCalls opened intoFile :=
    ready_of_distinct distinct_twoCalls (by decide) (by decide) hopened
  exact ⟨⟨opened, hready⟩, rfl⟩

theorem finds_firstRun : intoFile.Finds firstRun.1 (intoFile.sources twoCalls) := by
  rw [firstRun]
  exact finds_twoCalls.run Template.safeGroup_wordGroup (by decide)

theorem passes_twoCalls :
    Passes (new Template.wordGroup).group (intoFile.sources twoCalls) :=
  finds_twoCalls.run_iff.1 ⟨_, run_twoCalls_result⟩

theorem sharesOf_twoCalls :
    sharesOf Template.wordGroup (intoFile.sources twoCalls) = ⟨2, 2, 0, 0⟩ := by
  obtain ⟨hresult, -⟩ := finds_twoCalls.run_eq passes_twoCalls
  rw [run_twoCalls_result, new_group, new_totals, Totals.zero_plus] at hresult
  exact (Except.ok.inj hresult).symm

theorem statementsFrom_twoCalls : PatternFile.recordsText
    (statementsFrom Template.wordGroup (intoFile.sources twoCalls)) =
      PatternFile.recordsText [ofClassA, ofDefaultClass] := by
  decide +kernel

/-- The second run finds the two sources of the first, and returns the totals of both runs. -/
theorem totals_of_run_again_twoCalls :
    Template.SafeGroup (new Template.wordGroup).group ∧
      (∀ t ∈ [firstRun.1, twoCalls], intoFile.Finds t (intoFile.sources twoCalls)) ∧
      (((new Template.wordGroup).after [.run twoCalls intoFile]).run firstRun.1
        intoFile).2.result = .ok ⟨4, 4, 0, 0⟩ := by
  have hgroup : Template.SafeGroup (new Template.wordGroup).group := Template.safeGroup_wordGroup
  have hfinds : ∀ t ∈ [firstRun.1, twoCalls], intoFile.Finds t (intoFile.sources twoCalls) := by
    simp only [List.forall_mem_cons]
    exact ⟨finds_firstRun, finds_twoCalls, by simp⟩
  obtain ⟨-, htotals⟩ := totals_of_run_again hgroup hfinds
  rw [new_group] at htotals
  obtain ⟨hnew, -⟩ := finds_firstRun.run_eq passes_twoCalls
  obtain ⟨hresult, -⟩ := htotals _ hnew
  have htwice : (⟨2, 2, 0, 0⟩ : Totals).times ([twoCalls].length + 1) = ⟨4, 4, 0, 0⟩ := by decide
  rw [new_group, new_totals, sharesOf_twoCalls, Totals.zero_plus, Totals.zero_plus, htwice,
    List.map_singleton] at hresult
  exact ⟨hgroup, hfinds, hresult⟩

/-- The totals of the second run over an unchanged tree are not those of the first, though both write
the same two records. -/
theorem secondRun_result :
    intoFile.sources firstRun.1 = intoFile.sources twoCalls ∧
      firstRun.2.result = .ok ⟨2, 2, 0, 0⟩ ∧ secondRun.2.result = .ok ⟨4, 4, 0, 0⟩ ∧
      firstRun.1.bytesAt (Path.tidy intoFile.output) =
        .ok (encoding (PatternFile.recordsText [ofClassA, ofDefaultClass])) ∧
      secondRun.1.bytesAt (Path.tidy intoFile.output) =
        .ok (encoding (PatternFile.recordsText [ofClassA, ofDefaultClass])) := by
  obtain ⟨-, hharvest, hfirst⟩ := finds_twoCalls.run_eq passes_twoCalls
  rw [← firstRun, new_group, statementsFrom_twoCalls] at hfirst
  rw [← firstRun] at hharvest
  have hgroup : firstRun.2.harvest.group = Template.wordGroup := by
    rw [hharvest, afterSources_group, new_group]
  have htotals : firstRun.2.harvest.totals = ⟨2, 2, 0, 0⟩ := by
    rw [hharvest, afterSources_totals, new_totals, new_group, sharesOf_twoCalls, Totals.zero_plus]
  have hagain : Passes firstRun.2.harvest.group (intoFile.sources twoCalls) := by
    rw [hgroup]
    exact passes_twoCalls
  obtain ⟨hresult, -, hsecond⟩ := finds_firstRun.run_eq hagain
  rw [hgroup, statementsFrom_twoCalls, ← secondRun] at hsecond
  rw [hgroup, htotals, sharesOf_twoCalls, ← secondRun] at hresult
  have hone : firstRun.2.result = .ok ⟨2, 2, 0, 0⟩ := by
    rw [firstRun]
    exact run_twoCalls_result
  exact ⟨finds_firstRun.2, hone, hresult, hfirst, hsecond⟩

end Harvest

end LogHarvest
