import LogHarvest.Proofs.Harvest.Discovery
import LogHarvest.Proofs.LogReader

/-!
# What a harvest leaves behind

After a harvest the same statements are in two places: in its store, class by class, and in the
pattern file, one a line in the order of their discovery. Loading the file gives the store again.
So a log is read in the same way with either, and a line whose message is made of a template is
read by the template's statement or by an earlier one of its class.
-/

namespace LogHarvest.Harvest

open Text.Utf8 (encoding)

variable {tree after : FileTree} {job : Job} {step : Step (Except Fault Totals)} {totals : Totals}

section Parser

variable [Java.Parser]

theorem discovered_eq {opened : FileTree} {w : PatternFile.Writer}
    (h : (PatternFile.Writer.new job.output).openFile tree = .ok (w, opened)) :
    discovered tree job = (takenFiles tree opened job).flatMap fun f => statementsOf f.2 := by
  rw [discovered, h, takenFiles]
  simp only [List.flatMap_map]

/-- A harvest that comes to its end has left the discovered statements in both places. -/
theorem run_eq_ok (h : (new Template.wordGroup).run tree job = (after, step))
    (hr : step.result = .ok totals) :
    step.harvest.store = Store.ofList (discovered tree job) ∧
      totals.logs - totals.failedPatterns = (discovered tree job).length ∧
      PatternFile.Encodable (discovered tree job) ∧
      after.bytesAt (Path.tidy job.output) =
        .ok (encoding (PatternFile.recordsText (discovered tree job))) := by
  obtain ⟨w, opened, w', -, hopen, htaken, hharvest, htotals, hclose⟩ :=
    exists_addFiles_of_run h hr
  obtain ⟨hmeets, htakes⟩ := addFiles_meets rfl htaken
  obtain ⟨rfl, hput⟩ := PatternFile.Writer.openFile_eq_ok hopen
  rw [← discovered_eq hopen] at hmeets htakes
  rw [hharvest] at hmeets
  refine ⟨hmeets.store, ?_, htakes.encodable, ?_⟩
  · rw [← htotals, hmeets.count]
    simp [new, Totals.zero]
  · have hclosed := PatternFile.Writer.bytesAt_close htakes.pending
      (by rw [htakes.path]; exact hput)
    rw [htakes.path, hclose] at hclosed
    exact hclosed

/-- Loading the output of a harvest gives the store of the harvest, without a warning: in the
order of discovery the file has one line for each statement, and their number is that of the calls
counted less the failed ones. A log is read alike with what was loaded and what was harvested. -/
theorem load_after_run [Java.LawfulParser]
    (h : (new Template.wordGroup).run tree job = (after, step)) (hr : step.result = .ok totals) :
    ∃ notices store, PatternFile.load after job.output = (notices, .ok store) ∧
      (∀ n ∈ notices, n.isWarning = false) ∧
      store = step.harvest.store ∧ store.classes = step.harvest.store.classes ∧
      (∀ clazz, store.own clazz = Statement.ofClass clazz (discovered tree job)) ∧
      (∃ bytes, after.bytesAt (Path.tidy job.output) = .ok bytes ∧
        PatternFile.linesOf bytes = ((discovered tree job).map Statement.toRecord, none)) ∧
      totals.logs - totals.failedPatterns = (discovered tree job).length ∧
      ∀ lines, (LogReader.ofStore store).readLines lines =
        (LogReader.ofStore step.harvest.store).readLines lines := by
  obtain ⟨hstore, hcount, hencodable, hbytes⟩ := run_eq_ok h hr
  have hrecordable : ∀ s ∈ discovered tree job, s.Recordable := recordable_of_mem_discovered
  refine ⟨_, _, PatternFile.load_recordsText hrecordable hencodable hbytes, ?_, hstore.symm, ?_,
    ?_, ⟨_, hbytes, PatternFile.linesOf_recordsText hrecordable hencodable⟩, hcount, ?_⟩
  · intro n hn
    obtain rfl := List.mem_singleton.1 hn
    rfl
  · rw [hstore]
  · exact Store.own_ofList (discovered tree job)
  · rw [hstore]
    exact fun _ => rfl

end Parser

/-! ### A small source tree -/

/-- A call in a class that declares its logger, and one outside of all classes. -/
def twoCalls : FileTree :=
  ⟨.dir [(Text.ofString "src", .dir [
    (Text.ofString "A.java", .file (encoding (Text.ofString
      "class A \x7b L l; \x7b l.info(\"a|\x7b\x7d\"); \x7d \x7d"))),
    (Text.ofString "b", .dir [(Text.ofString "B.java", .file (encoding (Text.ofString
      "x.warn(\"b \x7b\x7d\");")))])])], [], []⟩

/-- Harvests the Java sources below `src` into the file `p`. -/
def intoFile : Job := ⟨Text.ofString "src", ['p'], WalkRule.of [] []⟩

def ofClassA : Statement :=
  ⟨Text.ofString "info", ['A'], Template.pattern (Text.ofString "a|\x7b\x7d")⟩

def ofDefaultClass : Statement :=
  ⟨Text.ofString "warn", Statement.defaultClass, Template.pattern (Text.ofString "b \x7b\x7d")⟩

theorem run_twoCalls_result :
    ((new Template.wordGroup).run twoCalls intoFile).2.result = .ok ⟨2, 2, 0, 0⟩ :=
  toOption_eq_some_iff.1 (by decide +kernel)

theorem discovered_twoCalls : discovered twoCalls intoFile = [ofClassA, ofDefaultClass] := by
  refine Statement.map_toRecord_inj recordable_of_mem_discovered ?_ (by decide +kernel)
  simp only [List.forall_mem_cons]
  exact ⟨⟨by decide, by decide, Template.isField_escape (by decide), Template.read_escape _⟩,
    ⟨by decide, by decide, Template.isField_escape (by decide), Template.read_escape _⟩, by simp⟩

/-- Both statements come back. -/
theorem load_after_run_twoCalls :
    ((new Template.wordGroup).run twoCalls intoFile).2.result = .ok ⟨2, 2, 0, 0⟩ ∧
    ∃ notices store,
      PatternFile.load ((new Template.wordGroup).run twoCalls intoFile).1 ['p'] =
        (notices, .ok store) ∧
      (∀ n ∈ notices, n.isWarning = false) ∧
      store.own ['A'] = [ofClassA] ∧ store.own Statement.defaultClass = [ofDefaultClass] := by
  refine ⟨run_twoCalls_result, ?_⟩
  obtain ⟨notices, store, hload, hnotices, -, -, hown, -⟩ :=
    load_after_run (Prod.eta ((new Template.wordGroup).run twoCalls intoFile)).symm
      run_twoCalls_result
  refine ⟨notices, store, hload, hnotices, ?_, ?_⟩
  · rw [hown, discovered_twoCalls]
    rfl
  · rw [hown, discovered_twoCalls]
    rfl

/-! ### Reading with what was written -/

/-- A line of the class of a discovered statement, with a message made of the statement's template,
is read with the written pattern file, and by that statement or one of its class that was
discovered before it. The default class serves the classes without statements. -/
theorem readLine_after_run [Java.Parser] [Java.LawfulParser]
    (h : (new Template.wordGroup).run tree job = (after, step))
    (hr : step.result = .ok totals) {before later : List Statement} {s : Statement}
    (hs : discovered tree job = before ++ s :: later) {t : Text}
    (ht : Template.compile t = .ok s.pattern) {values : List Text}
    (hv : Template.Arguments t values) {l : LogLine} (hl : l.Separable)
    (hm : l.message.trim = Template.fill (Template.pieces t) values)
    (hc : l.clazz.trim = s.clazz ∨ s.clazz = Statement.defaultClass ∧
      ∀ other ∈ discovered tree job, other.clazz ≠ l.clazz.trim) :
    ∃ notices store, PatternFile.load after job.output = (notices, .ok store) ∧
      ∀ tally, ∃ reading, ((LogReader.mk store tally).readLine
          (Text.join [columnBar] l.columns)).1 = some reading ∧
        reading.isMatched = true ∧ reading.clazz = some s.clazz ∧
        ∃ first ∈ before ++ [s], first.clazz = s.clazz ∧
          reading.pattern = some first.pattern.source := by
  obtain ⟨-, -, hencodable, hbytes⟩ := run_eq_ok h hr
  refine ⟨_, _, PatternFile.load_recordsText recordable_of_mem_discovered hencodable hbytes,
    fun tally => ?_⟩
  have hmatches : s.Matches l.tidied.message := by
    have hpattern : s.pattern = Template.pattern t := by
      rw [Template.compile_eq] at ht
      exact (Except.ok.inj ht).symm
    rw [Statement.Matches, hpattern, Template.isSome_fullMatch?_pattern]
    exact ⟨values, hv, hm⟩
  have hcandidates : (Store.ofList (discovered tree job)).candidates l.tidied.clazz =
      Statement.ofClass s.clazz before ++ s :: Statement.ofClass s.clazz later := by
    have hserving : Statement.servingClass (discovered tree job) l.clazz.trim = s.clazz :=
      Statement.servingClass_eq (by rw [hs]; simp) hc
    rw [LogLine.tidied, Store.candidates_ofList, hserving, hs]
    simp [Statement.ofClass]
  obtain ⟨first, hfirst, groups, -, hreading⟩ := Reading.exists_ofCandidates_eq_ofMatch hmatches
    (Statement.ofClass s.clazz before) (Statement.ofClass s.clazz later)
  have hclass : first.clazz = s.clazz := by
    obtain hbefore | hself := List.mem_append.1 hfirst
    · simpa using (List.mem_filter.1 hbefore).2
    · rw [List.mem_singleton.1 hself]
  obtain ⟨reading, hread, hmatched, hclazz, hpattern⟩ := LogReader.exists_readLine_eq_some
    ⟨Store.ofList (discovered tree job), tally⟩ (LogLine.ofText?_join hl)
    (by rw [hcandidates]; simp)
  rw [hcandidates, hreading] at hmatched hclazz hpattern
  refine ⟨reading, hread, hmatched, by rw [hclazz, ← hclass]; rfl, first, ?_, hclass, hpattern⟩
  obtain hbefore | hself := List.mem_append.1 hfirst
  · exact List.mem_append_left _ (List.mem_filter.1 hbefore).1
  · exact List.mem_append_right _ hself

/-- A class without statements is served by the default class. -/
theorem readLine_after_run_twoCalls :
    discovered twoCalls intoFile = [ofClassA] ++ ofDefaultClass :: [] ∧
    ∃ notices store,
      PatternFile.load ((new Template.wordGroup).run twoCalls intoFile).1 ['p'] =
        (notices, .ok store) ∧
      ∀ tally, ∃ reading, ((LogReader.mk store tally).readLine
          (Text.ofString "12:00|WARN|main| Zed |core| b x_1\r\n")).1 = some reading ∧
        reading.isMatched = true ∧ reading.clazz = some Statement.defaultClass ∧
        ∃ first ∈ [ofClassA] ++ [ofDefaultClass], first.clazz = Statement.defaultClass ∧
          reading.pattern = some first.pattern.source := by
  refine ⟨discovered_twoCalls, ?_⟩
  have hv : Template.Arguments (Text.ofString "b \x7b\x7d") [Text.ofString "x_1"] :=
    ⟨by decide, by
      simp only [List.forall_mem_cons]
      exact ⟨⟨by decide, by decide⟩, by simp⟩⟩
  exact readLine_after_run (Prod.eta ((new Template.wordGroup).run twoCalls intoFile)).symm
    run_twoCalls_result
    (s := ofDefaultClass) discovered_twoCalls (Template.compile_eq _) hv
    (l := ⟨Text.ofString "12:00", Text.ofString "WARN", Text.ofString "main",
      Text.ofString " Zed ", Text.ofString "core", Text.ofString " b x_1\r\n"⟩)
    (by simp only [LogLine.separable_iff]; decide) (by decide)
    (.inr ⟨rfl, by rw [discovered_twoCalls]; decide⟩)

end LogHarvest.Harvest
