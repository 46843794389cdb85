import LogHarvest.Proofs.Harvest.Calls
import LogHarvest.Proofs.PatternFile

/-!
# Taking files

What a file brings to a harvest depends on the facts of the file alone: its share of the totals, its
statements and its reports. A harvest that is not stopped takes files one after the other and adds up
their shares; it writes their statements in order and gives out their reports in order. It comes to
the end of the files exactly if none of their calls stops it and all of their statements can be
written. To harvest a source tree is to take its files between the opening and the closing of the
output.
-/

namespace LogHarvest

/-! ### Sums of totals -/

namespace Totals

/-- Totals counted together. -/
def plus (t u : Totals) : Totals :=
  ⟨t.logs + u.logs, t.files + u.files, t.skippedFiles + u.skippedFiles,
    t.failedPatterns + u.failedPatterns⟩

def sum (ts : List Totals) : Totals := ts.foldr plus zero

theorem plus_zero (t : Totals) : t.plus zero = t := by simp [plus, zero]

theorem zero_plus (t : Totals) : zero.plus t = t := by simp [plus, zero]

theorem plus_assoc (t u v : Totals) : (t.plus u).plus v = t.plus (u.plus v) := by
  simp only [plus, Int.add_assoc]

theorem sum_cons (t : Totals) (ts : List Totals) : sum (t :: ts) = t.plus (sum ts) := rfl

theorem sum_append (ts us : List Totals) : sum (ts ++ us) = (sum ts).plus (sum us) := by
  induction ts with
  | nil => exact (zero_plus (sum us)).symm
  | cons t ts ih => rw [List.cons_append, sum_cons, sum_cons, ih, plus_assoc]

end Totals

namespace Harvest

/-! ### What a file brings -/

/-- The calls of a file; one without facts has none. -/
def callsOf : Except SourceFault SourceFacts → List LogCall
  | .ok facts => facts.calls
  | .error _ => []

/-- No call of a file stops a harvest with a given group. -/
def Unstopped (group : Text) (facts : Except SourceFault SourceFacts) : Prop :=
  ∀ c ∈ callsOf facts, ¬c.Stops group

theorem unstopped_of_safeGroup {group : Text} (h : Template.SafeGroup group)
    (facts : Except SourceFault SourceFacts) : Unstopped group facts :=
  fun c _ => LogCall.not_stops h c

/-- The statements of a file, with a given group. -/
def statementsWith (group : Text) : Except SourceFault SourceFacts → List Statement
  | .ok facts => facts.calls.filterMap (LogCall.statementWith? group facts.fields)
  | .error _ => []

/-- What is reported about a file, with a given group. -/
def reportsWith (group path : Text) : Except SourceFault SourceFacts → List Notice
  | .ok facts => facts.calls.filterMap (LogCall.reportWith? group facts)
  | .error fault => [skipped path fault.reason]

/-- What a file adds to the totals, with a given group. -/
def share (group : Text) : Except SourceFault SourceFacts → Totals
  | .ok facts =>
    ⟨facts.calls.countP LogCall.isCounted, 1, 0, facts.calls.countP (LogCall.fails group)⟩
  | .error _ => ⟨0, 0, 1, 0⟩

/-- The harvest that files leave behind if all of them are taken. -/
def afterFiles (h : Harvest) (files : List (Text × Except SourceFault SourceFacts)) : Harvest :=
  { h with
    store := h.store.addAll (files.flatMap fun f => statementsWith h.group f.2)
    totals := h.totals.plus (Totals.sum (files.map fun f => share h.group f.2)) }

variable {h : Harvest} {w w' : PatternFile.Writer} {path : Text}
  {facts : Except SourceFault SourceFacts}
  {files : List (Text × Except SourceFault SourceFacts)}

theorem afterFiles_nil (h : Harvest) : h.afterFiles [] = h := by
  simp [afterFiles, Store.addAll, Totals.sum, Totals.plus_zero]

theorem afterFiles_cons (h : Harvest) (f : Text × Except SourceFault SourceFacts)
    (files : List (Text × Except SourceFault SourceFacts)) :
    h.afterFiles (f :: files) = (h.afterFiles [f]).afterFiles files := by
  simp only [afterFiles, List.flatMap_cons, List.flatMap_nil, List.append_nil, List.map_cons,
    List.map_nil, Store.addAll, List.foldl_append, Totals.sum_cons, Totals.plus_assoc]
  congr 3
  exact (Totals.zero_plus _).symm

theorem share_eq (group : Text) (facts : Except SourceFault SourceFacts) :
    (share group facts).logs - (share group facts).failedPatterns =
      (statementsWith group facts).length := by
  cases facts with
  | error fault => rfl
  | ok facts =>
      have hcount := LogCall.countP_isCounted group facts.fields facts.calls
      simp only [share, statementsWith]
      omega

theorem sum_share_eq (group : Text) (files : List (Text × Except SourceFault SourceFacts)) :
    (Totals.sum (files.map fun f => share group f.2)).logs -
        (Totals.sum (files.map fun f => share group f.2)).failedPatterns =
      (files.flatMap fun f => statementsWith group f.2).length := by
  induction files with
  | nil => rfl
  | cons f files ih =>
      have hone := share_eq group f.2
      rw [List.map_cons, Totals.sum_cons, List.flatMap_cons, List.length_append, Totals.plus]
      dsimp only
      omega

/-- The shares of files count each of them once. -/
theorem sum_share_files (group : Text)
    (files : List (Text × Except SourceFault SourceFacts)) :
    (Totals.sum (files.map fun f => share group f.2)).files = files.countP (fun f => f.2.isOk) ∧
      (Totals.sum (files.map fun f => share group f.2)).skippedFiles =
        files.countP fun f => !f.2.isOk := by
  induction files with
  | nil => exact ⟨rfl, rfl⟩
  | cons f files ih =>
      obtain ⟨path, facts⟩ := f
      obtain ⟨hfiles, hskipped⟩ := ih
      rw [List.map_cons, Totals.sum_cons, Totals.plus, List.countP_cons, List.countP_cons]
      dsimp only
      rw [hfiles, hskipped]
      cases facts <;> simp [share, Except.isOk, Except.toBool, Int.add_comm]

theorem countP_isOk_add (files : List (Text × Except SourceFault SourceFacts)) :
    files.countP (fun f => f.2.isOk) + files.countP (fun f => !f.2.isOk) = files.length := by
  have hall := List.length_eq_countP_add_countP (fun f => f.2.isOk) (l := files)
  simp only [Bool.not_eq_true, Bool.decide_eq_false] at hall
  exact hall.symm

theorem meets_afterFiles (h : Harvest) (files : List (Text × Except SourceFault SourceFacts)) :
    h.Meets (h.afterFiles files) (files.flatMap fun f => statementsWith h.group f.2) := by
  refine ⟨rfl, rfl, ?_⟩
  have hshares := sum_share_eq h.group files
  simp only [afterFiles, Totals.plus]
  omega

/-! ### One file -/

/-- Facts whose calls do not stop the harvest bring what their calls bring. -/
theorem addFacts_eq {facts : SourceFacts} (hcalls : Unstopped h.group (.ok facts)) :
    h.addFacts facts = ⟨h.afterCalls facts facts.calls,
      facts.calls.filterMap (LogCall.reportWith? h.group facts),
      .ok (facts.calls.filterMap (LogCall.statementWith? h.group facts.fields))⟩ :=
  addCalls_eq hcalls

/-- A file whose calls do not stop the harvest ends as the writing of its statements does. -/
theorem addFile_result_eq (hcalls : Unstopped h.group facts) :
    (h.addFile w path facts).result =
      ((w.writeAll (statementsWith h.group facts)).1,
        (w.writeAll (statementsWith h.group facts)).2.map .output) := by
  cases facts with
  | error fault => rfl
  | ok facts =>
      have hfacts : h.addFacts facts = _ := addFacts_eq hcalls
      unfold addFile statementsWith
      simp only [hfacts]
      split <;> next hv => rw [hv]; rfl

/-- A file whose calls do not stop the harvest and whose statements can be written brings its share,
its statements and its reports. -/
theorem addFile_eq (hcalls : Unstopped h.group facts)
    (hw : w.writeAll (statementsWith h.group facts) = (w', none)) :
    h.addFile w path facts =
      ⟨h.afterFiles [(path, facts)], reportsWith h.group path facts, (w', none)⟩ := by
  cases facts with
  | error fault =>
      obtain ⟨rfl, -⟩ := Prod.mk.inj hw
      simp [addFile, afterFiles, statementsWith, reportsWith, share, Store.addAll, Totals.sum,
        Totals.plus, Totals.zero, Totals.addSkippedFile]
  | ok facts =>
      have hfacts : h.addFacts facts = _ := addFacts_eq hcalls
      rw [statementsWith] at hw
      unfold addFile
      simp only [hfacts, hw]
      simp [afterCalls, afterFiles, statementsWith, reportsWith, share, Totals.sum, Totals.plus,
        Totals.zero, Totals.addFile]

theorem writeAll_eq_of_map_eq {ss : List Statement}
    (h : ((w.writeAll ss).1, (w.writeAll ss).2.map Fault.output) = (w', none)) :
    w.writeAll ss = (w', none) := by
  obtain ⟨hwriter, hfault⟩ := Prod.mk.inj h
  exact Prod.ext hwriter (Option.map_eq_none_iff.1 hfault)

/-- If a file is taken, none of its calls has stopped the harvest. -/
theorem not_stops_of_addFile (hr : (h.addFile w path facts).result = (w', none)) :
    Unstopped h.group facts := by
  cases facts with
  | error fault => simp [Unstopped, callsOf]
  | ok facts =>
      unfold addFile at hr
      dsimp only at hr
      split at hr
      · simp at hr
      · next statements hstatements => exact not_stops_of_addCalls hstatements

/-- Whatever comes of a file, a harvest that none of its calls stops has met some statements. -/
theorem exists_meets_addFile (hcalls : Unstopped h.group facts) :
    ∃ ss, h.Meets (h.addFile w path facts).harvest ss := by
  cases facts with
  | error fault => exact ⟨[], meets_nil rfl rfl rfl⟩
  | ok facts =>
      refine ⟨facts.calls.filterMap (LogCall.statementWith? h.group facts.fields), ?_⟩
      have hfacts : h.addFacts facts = _ := addFacts_eq hcalls
      have hmeets := meets_afterCalls h facts facts.calls
      unfold addFile
      simp only [hfacts]
      split
      · exact hmeets
      · exact ⟨hmeets.group, hmeets.store, hmeets.count⟩

/-! ### Files in order -/

theorem addFiles_cons_of_ok {step : Step (PatternFile.Writer × Option Fault)}
    (hone : h.addFile w path facts = step) (hr : step.result = (w', none)) :
    h.addFiles w ((path, facts) :: files) =
      { step.harvest.addFiles w' files with
        notices := step.notices ++ (step.harvest.addFiles w' files).notices } := by
  rw [addFiles, hone]
  simp only [hr]

/-- Files whose calls do not stop the harvest end as the writing of their statements does. -/
theorem addFiles_result_eq (hcalls : ∀ f ∈ files, Unstopped h.group f.2) :
    (h.addFiles w files).result =
      ((w.writeAll (files.flatMap fun f => statementsWith h.group f.2)).1,
        (w.writeAll (files.flatMap fun f => statementsWith h.group f.2)).2.map .output) := by
  induction files generalizing h w with
  | nil => rfl
  | cons file files ih =>
      obtain ⟨path, facts⟩ := file
      obtain ⟨hone, hrest⟩ := List.forall_mem_cons.1 hcalls
      have hresult : (h.addFile w path facts).result = _ := addFile_result_eq hone
      rw [List.flatMap_cons, PatternFile.Writer.writeAll_append, addFiles]
      cases hwritten : w.writeAll (statementsWith h.group facts) with
      | mk v fault =>
          rw [hwritten] at hresult
          cases fault with
          | some fault => simp [hresult]
          | none =>
              have hothers : ((h.afterFiles [(path, facts)]).addFiles v files).result = _ :=
                ih hrest
              simp only [addFile_eq hone hwritten, Option.isNone_none, if_true]
              exact hothers

/-- Files whose calls do not stop the harvest and whose statements can be written bring their shares,
statements and reports in turn. -/
theorem addFiles_eq (hcalls : ∀ f ∈ files, Unstopped h.group f.2)
    (hw : w.writeAll (files.flatMap fun f => statementsWith h.group f.2) = (w', none)) :
    h.addFiles w files =
      ⟨h.afterFiles files, files.flatMap fun f => reportsWith h.group f.1 f.2, (w', none)⟩ := by
  induction files generalizing h w with
  | nil =>
      obtain ⟨rfl, -⟩ := Prod.mk.inj hw
      rw [afterFiles_nil]
      rfl
  | cons file files ih =>
      obtain ⟨path, facts⟩ := file
      obtain ⟨hone, hrest⟩ := List.forall_mem_cons.1 hcalls
      rw [List.flatMap_cons, PatternFile.Writer.writeAll_append] at hw
      split at hw
      · next hnone =>
        obtain ⟨v, hv⟩ : ∃ v, w.writeAll (statementsWith h.group facts) = (v, none) :=
          ⟨_, Prod.ext rfl (Option.isNone_iff_eq_none.1 hnone)⟩
        rw [hv] at hw
        have hothers : (h.afterFiles [(path, facts)]).addFiles v files = _ := ih hrest hw
        rw [addFiles_cons_of_ok (addFile_eq hone hv) rfl, hothers, ← afterFiles_cons,
          List.flatMap_cons]
        rfl
      · next hsome => simp [hw] at hsome

/-- If files are taken to their end, none of their calls has stopped the harvest and all of their
statements have been written. -/
theorem of_addFiles_eq (hr : (h.addFiles w files).result = (w', none)) :
    (∀ f ∈ files, Unstopped h.group f.2) ∧
      w.writeAll (files.flatMap fun f => statementsWith h.group f.2) = (w', none) := by
  have hcalls : ∀ f ∈ files, Unstopped h.group f.2 := by
    induction files generalizing h w with
    | nil => simp
    | cons file files ih =>
        obtain ⟨path, facts⟩ := file
        cases hresult : (h.addFile w path facts).result with
        | mk v fault =>
            cases fault with
            | some fault =>
                rw [addFiles, hresult] at hr
                simp at hr
            | none =>
                have hone := not_stops_of_addFile hresult
                have hwritten : w.writeAll (statementsWith h.group facts) = (v, none) := by
                  rw [addFile_result_eq hone] at hresult
                  exact writeAll_eq_of_map_eq hresult
                rw [addFiles_cons_of_ok (addFile_eq hone hwritten) rfl] at hr
                have hothers : ((h.afterFiles [(path, facts)]).addFiles v files).result = (w', none) :=
                  hr
                have hrest := ih hothers
                exact List.forall_mem_cons.2 ⟨hone, hrest⟩
  refine ⟨hcalls, ?_⟩
  rw [addFiles_result_eq hcalls] at hr
  exact writeAll_eq_of_map_eq hr

/-- Whatever comes of files, a harvest that none of their calls stops has met some statements. -/
theorem exists_meets_addFiles (hcalls : ∀ f ∈ files, Unstopped h.group f.2) :
    ∃ ss, h.Meets (h.addFiles w files).harvest ss := by
  induction files generalizing h w with
  | nil => exact ⟨[], meets_nil rfl rfl rfl⟩
  | cons file files ih =>
      obtain ⟨path, facts⟩ := file
      obtain ⟨hone, hrest⟩ := List.forall_mem_cons.1 hcalls
      obtain ⟨ss, hmeets⟩ : ∃ ss, h.Meets (h.addFile w path facts).harvest ss :=
        exists_meets_addFile hone
      rw [← hmeets.group] at hrest
      rw [addFiles]
      dsimp only
      split
      · exact ⟨ss, hmeets⟩
      · obtain ⟨others, hothers⟩ := ih hrest
        exact ⟨ss ++ others, hmeets.append hothers⟩

/-! ### A whole source tree -/

section Run

variable [Java.Parser] {tree opened after : FileTree} {job : Job} {start : Harvest}
  {step : Step (Except Fault Totals)} {totals : Totals}

/-- The files that a harvest takes, with their facts once the output has been emptied. -/
def takenFiles (tree opened : FileTree) (job : Job) :
    List (Text × Except SourceFault SourceFacts) :=
  ((tree.walk job.rule job.source).map (tree.locate job.source ++ ·)).map
    fun f => (opened.absolute f, factsAt opened f)

/-- A harvest whose source is a directory and whose output can be opened takes the files of the
source, and its result is theirs. -/
theorem run_of_openFile (start : Harvest) (hdir : tree.isDir (Path.tidy job.source) = true)
    (hw : (PatternFile.Writer.new job.output).openFile tree = .ok (w, opened)) :
    start.run tree job =
      let taken := start.addFiles w (takenFiles tree opened job)
      ((taken.result.1.close opened).2, ⟨taken.harvest,
        foundNotice (tree.walk job.rule job.source).length job.source :: taken.notices,
        match taken.result.2 with
        | some fault => .error fault
        | none => .ok taken.harvest.totals⟩) := by
  unfold run
  simp only [hdir, Bool.not_true, Bool.false_eq_true, if_false, hw, List.length_map]
  rfl

/-- A harvest changes nothing and fails, or its source is a directory and its output can be
opened. -/
theorem run_cases (start : Harvest) (tree : FileTree) (job : Job) :
    (∃ notices fault, start.run tree job = (tree, ⟨start, notices, .error fault⟩)) ∨
      ∃ w opened, tree.isDir (Path.tidy job.source) = true ∧
        (PatternFile.Writer.new job.output).openFile tree = .ok (w, opened) := by
  cases hdir : tree.isDir (Path.tidy job.source) with
  | false => exact .inl ⟨_, _, by rw [run, hdir]; rfl⟩
  | true =>
      cases hopen : (PatternFile.Writer.new job.output).openFile tree with
      | error fault => exact .inl ⟨_, _, by rw [run, hdir, hopen]; rfl⟩
      | ok result => exact .inr ⟨result.1, result.2, rfl, rfl⟩

/-- A harvest that comes to its end has opened its output, taken every file and closed it. -/
theorem exists_addFiles_of_run (h : start.run tree job = (after, step))
    (hr : step.result = .ok totals) :
    ∃ w opened w', tree.isDir (Path.tidy job.source) = true ∧
      (PatternFile.Writer.new job.output).openFile tree = .ok (w, opened) ∧
      (start.addFiles w (takenFiles tree opened job)).result = (w', none) ∧
      (start.addFiles w (takenFiles tree opened job)).harvest = step.harvest ∧
      step.harvest.totals = totals ∧ (w'.close opened).2 = after := by
  obtain ⟨notices, fault, hrun⟩ | ⟨w, opened, hdir, hopen⟩ := run_cases start tree job
  · rw [hrun] at h
    obtain ⟨rfl, rfl⟩ := Prod.mk.inj h
    simp at hr
  · rw [run_of_openFile start hdir hopen] at h
    obtain ⟨rfl, rfl⟩ := Prod.mk.inj h
    dsimp only at hr
    split at hr
    · simp at hr
    · next hnone =>
      exact ⟨w, opened, _, hdir, hopen, Prod.ext rfl hnone, rfl, Except.ok.inj hr, rfl⟩

end Run

end Harvest

end LogHarvest
