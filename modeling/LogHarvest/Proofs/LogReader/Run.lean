import LogHarvest.Proofs.LogReader
import LogHarvest.Proofs.Tally
import LogHarvest.Proofs.Text.Utf8

/-!
# Runs of a log reader

A reader is called with single lines, with lists of lines, with files and with directories, and some
calls fail. Whatever is called, the reader takes the lines one at a time: each is read with the store
alone and adds one to the tally. So a run comes down to the list of all its lines. What the lines say
depends on none of the others, and the tally does not even depend on their order.
-/

namespace LogHarvest.LogReader

/-! ### Lines -/

/-- What a store reads from a line, if it is a log line and some statement serves its class. -/
def readingAt (store : Store) (line : Text) : Option Reading :=
  (LogLine.ofText? line).bind (readingOf store)

/-- The tally of some lines: those that are no log line, and the log lines that leave no reading or
one that is not matched, and those that leave one that is. -/
def tallyOf (store : Store) (lines : List Text) : Tally where
  lines := lines.length
  malformed := lines.countP fun line => (LogLine.ofText? line).isNone
  unmatched := lines.countP fun line =>
    (LogLine.ofText? line).isSome && !(readingAt store line).any Reading.isMatched
  matched := lines.countP fun line => (readingAt store line).any Reading.isMatched

theorem tallyOf_nil (store : Store) : tallyOf store [] = Tally.zero := rfl

theorem tallyOf_append (store : Store) (lines others : List Text) :
    tallyOf store (lines ++ others) = (tallyOf store lines).plus (tallyOf store others) := by
  simp [tallyOf, Tally.plus]

/-- The order of lines does not count. -/
theorem tallyOf_perm (store : Store) {lines others : List Text} (h : lines.Perm others) :
    tallyOf store lines = tallyOf store others := by
  simp only [tallyOf, h.length_eq, h.countP_eq]

theorem readingAt_eq_none {line : Text} (h : LogLine.ofText? line = none) (store : Store) :
    readingAt store line = none := by
  rw [readingAt, h, Option.bind_none]

theorem balanced_tallyOf (store : Store) (lines : List Text) : (tallyOf store lines).Balanced := by
  refine ⟨?_, by simp [tallyOf], by simp [tallyOf], by simp [tallyOf]⟩
  induction lines with
  | nil => rfl
  | cons line lines ih =>
      rw [← List.singleton_append, tallyOf_append]
      simp only [Tally.plus]
      have hone : (tallyOf store [line]).lines = (tallyOf store [line]).malformed +
          (tallyOf store [line]).unmatched + (tallyOf store [line]).matched := by
        cases hline : LogLine.ofText? line with
        | none => simp [tallyOf, hline, readingAt_eq_none hline store]
        | some l => cases h : (readingAt store line).any Reading.isMatched <;> simp [tallyOf, hline, h]
      omega

variable {r : LogReader}

/-- A line is read with the store, and counted. -/
theorem readLine_eq (r : LogReader) (line : Text) :
    r.readLine line = (readingAt r.store line, ⟨r.store, r.tally.plus (tallyOf r.store [line])⟩) := by
  refine Prod.ext (readLine_fst r line) ?_
  cases hline : LogLine.ofText? line with
  | none =>
      simp [readLine, hline, tallyOf, readingAt_eq_none hline, Tally.plus, Tally.addMalformed]
  | some l =>
      have hreading : readingAt r.store line = readingOf r.store l := by
        rw [readingAt, hline, Option.bind_some]
      by_cases hmatched : (readingOf r.store l).any Reading.isMatched = true
      · simp [readLine, hline, tallyOf, hreading, hmatched, Tally.plus, Tally.addMatched]
      · simp [readLine, hline, tallyOf, hreading, hmatched, Tally.plus, Tally.addUnmatched]

/-- Lines are read one by one with the same store, and all of them counted. -/
theorem readLines_eq (r : LogReader) (lines : List Text) :
    r.readLines lines =
      (lines.filterMap (readingAt r.store), ⟨r.store, r.tally.plus (tallyOf r.store lines)⟩) := by
  induction lines generalizing r with
  | nil => simp [readLines, tallyOf_nil, Tally.plus, Tally.zero]
  | cons line lines ih =>
      rw [readLines, readLine_eq]
      simp only [ih, Tally.plus_assoc, ← tallyOf_append]
      cases hreading : readingAt r.store line <;> simp [hreading]

/-- The files of a directory are read as their lines one after the other. -/
theorem readFiles_eq (r : LogReader) (files : List (Text × Text.Utf8.Bytes)) :
    r.readFiles files =
      (files.map fun f => ⟨f.1, (linesOf f.2).filterMap (readingAt r.store)⟩,
        ⟨r.store, r.tally.plus (tallyOf r.store (files.flatMap fun f => linesOf f.2))⟩) := by
  induction files generalizing r with
  | nil => simp [readFiles, tallyOf_nil, Tally.plus, Tally.zero]
  | cons f files ih =>
      rw [readFiles, readLines_eq]
      simp only [ih, Tally.plus_assoc, ← tallyOf_append]
      rfl

/-- Lines count as matched exactly as often as they leave readings that are. -/
theorem countP_isMatched_filterMap (store : Store) (lines : List Text) :
    (((lines.filterMap (readingAt store)).countP (·.isMatched) : Nat) : Int) =
      (tallyOf store lines).matched := by
  rw [List.countP_filterMap, tallyOf]
  congr 2
  funext line
  cases readingAt store line <;> rfl

/-- A reading that is not matched is that of a log line, which counts as unmatched. -/
theorem countP_not_isMatched_filterMap_le (store : Store) (lines : List Text) :
    (((lines.filterMap (readingAt store)).countP fun reading => !reading.isMatched : Nat) : Int) ≤
      (tallyOf store lines).unmatched := by
  rw [List.countP_filterMap, tallyOf]
  refine Int.ofNat_le.2 (List.countP_mono_left fun line _ hline => ?_)
  cases htext : LogLine.ofText? line with
  | none => simp [readingAt_eq_none htext] at hline
  | some l => cases hreading : readingAt store line <;> simp_all

/-! ### Calls -/

/-- What a reader can be called with. The files of a call are those of the tree as it then is. -/
inductive Call where
  | line (line : Text)
  | lines (lines : List Text)
  | log (tree : FileTree) (path : Text)
  | dir (tree : FileTree) (path : Text)

/-- The readings that a call returns, and the reader after it. -/
def call (r : LogReader) : Call → Except Fault (List Reading) × LogReader
  | .line line => (.ok (r.readLine line).1.toList, (r.readLine line).2)
  | .lines lines => (.ok (r.readLines lines).1, (r.readLines lines).2)
  | .log tree path => r.readLog tree path
  | .dir tree path =>
    ((r.readDir tree path).1.map fun files => files.flatMap FileReadings.readings,
      (r.readDir tree path).2)

/-- The lines that a call reads. There are none if the file or the directory cannot be opened. -/
def Call.source : Call → List Text
  | .line text => [text]
  | .lines texts => texts
  | .log tree path =>
    match tree.bytesAt path with
    | .ok bytes => linesOf bytes
    | .error _ => []
  | .dir tree path =>
    match tree.get? (Path.tidy path) with
    | some (.dir entries) =>
      (filesIn (Path.tidy path) (.dir entries)).flatMap fun f => linesOf f.2
    | _ => []

/-- A call leaves the reader as its lines do, and returns their readings if it returns. -/
theorem call_eq (r : LogReader) (c : Call) :
    (r.call c).2 = ⟨r.store, r.tally.plus (tallyOf r.store c.source)⟩ ∧
      ∀ readings, (r.call c).1 = .ok readings →
        readings = c.source.filterMap (readingAt r.store) := by
  have hnothing : r = ⟨r.store, r.tally.plus (tallyOf r.store [])⟩ := by
    simp [tallyOf_nil, Tally.plus, Tally.zero]
  cases c with
  | line line =>
      simp only [call, readLine_eq, Call.source, Except.ok.injEq, true_and]
      rintro readings rfl
      cases hreading : readingAt r.store line <;> simp [hreading]
  | lines lines =>
      simp only [call, readLines_eq, Call.source, Except.ok.injEq, true_and]
      exact fun readings h => h.symm
  | log tree path =>
      simp only [call, readLog, Call.source]
      cases tree.bytesAt path with
      | error fault => exact ⟨hnothing, by simp⟩
      | ok bytes =>
          simp only [readLines_eq, Except.ok.injEq, true_and]
          exact fun readings h => h.symm
  | dir tree path =>
      simp only [call, readDir, Call.source]
      cases tree.get? (Path.tidy path) with
      | none => exact ⟨hnothing, by simp [Except.map]⟩
      | some node =>
          cases node with
          | file bytes => exact ⟨hnothing, by simp [Except.map]⟩
          | dir entries =>
              simp only [readFiles_eq, Except.map, Except.ok.injEq, true_and]
              rintro readings rfl
              simp [List.flatMap_map, List.filterMap_flatMap]

/-! ### Runs -/

/-- A step of a run: a call, or a call that is broken off when it has read some of its lines, since
what they come from fails. -/
inductive Event where
  | whole (c : Call)
  | broken (c : Call) (count : Nat)

/-- The lines that are read in a step. -/
def Event.source : Event → List Text
  | .whole c => c.source
  | .broken c count => c.source.take count

def step (r : LogReader) : Event → LogReader
  | .whole c => (r.call c).2
  | .broken c count => (r.readLines (c.source.take count)).2

/-- The reader after some steps. -/
def run (r : LogReader) (events : List Event) : LogReader := events.foldl step r

theorem step_eq (r : LogReader) (e : Event) :
    r.step e = ⟨r.store, r.tally.plus (tallyOf r.store e.source)⟩ := by
  cases e with
  | whole c => exact (call_eq r c).1
  | broken c count => rw [step, readLines_eq]; rfl

theorem run_eq (r : LogReader) (events : List Event) :
    r.run events = ⟨r.store, r.tally.plus (tallyOf r.store (events.flatMap Event.source))⟩ := by
  induction events generalizing r with
  | nil => simp [run, tallyOf_nil, Tally.plus, Tally.zero]
  | cons e events ih =>
      have hstep : r.run (e :: events) = (r.step e).run events := rfl
      rw [hstep, ih, step_eq, List.flatMap_cons, tallyOf_append, Tally.plus_assoc]

theorem run_ofStore (store : Store) (events : List Event) :
    (ofStore store).run events = ⟨store, tallyOf store (events.flatMap Event.source)⟩ := by
  rw [run_eq, ofStore]
  simp only [Tally.zero_plus]

/-- The order in which a directory lists its files does not change which lines they hold. -/
theorem filesIn_perm (dir : Text) {entries entries' : List (Text × FileNode)}
    (h : entries.Perm entries') :
    (filesIn dir (.dir entries)).Perm (filesIn dir (.dir entries')) := by
  refine List.Perm.filterMap _ ?_
  exact (List.mergeSort_perm entries _).trans (h.trans (List.mergeSort_perm entries' _).symm)

theorem source_dir_perm {tree tree' : FileTree} {path : Text}
    {entries entries' : List (Text × FileNode)}
    (ht : tree.get? (Path.tidy path) = some (.dir entries))
    (ht' : tree'.get? (Path.tidy path) = some (.dir entries')) (h : entries.Perm entries') :
    (Call.dir tree path).source.Perm (Call.dir tree' path).source := by
  simp only [Call.source, ht, ht']
  exact (filesIn_perm (Path.tidy path) h).flatMap_right _

/-- After any run of a new reader, also one in which calls have failed, its store is the one it had
and its tally adds up, so that its rate is defined and a percentage. A call that returns then counts
the lines it has read and as many matched ones as it returns matched readings; its other readings are
no more than the lines it counts as unmatched. What is read from a line, alone or in a call, is what
a new reader reads from it. Two runs of the same lines, in whatever order and by whatever calls, lead
to the same tally; so do two calls with a directory that lists its files in different orders. -/
theorem run_tally (store : Store) :
    (∀ events,
      let r := (ofStore store).run events
      r.store = store ∧ r.tally.lines = r.tally.malformed + r.tally.unmatched + r.tally.matched ∧
        (∃ q, r.tally.exactRate? = some q ∧ 0 ≤ q ∧ q ≤ 100) ∧
        0 ≤ r.tally.matchRate.value ∧ r.tally.matchRate.value ≤ 100) ∧
      (∀ events c readings r', ((ofStore store).run events).call c = (.ok readings, r') →
        let before := ((ofStore store).run events).tally
        r'.store = store ∧ r'.tally.lines = before.lines + c.source.length ∧
          r'.tally.matched = before.matched + readings.countP (·.isMatched) ∧
          (readings.countP fun reading => !reading.isMatched) ≤
            r'.tally.unmatched - before.unmatched ∧
          readings = c.source.flatMap fun line => ((ofStore store).readLine line).1.toList) ∧
      (∀ events line,
        (((ofStore store).run events).readLine line).1 = ((ofStore store).readLine line).1) ∧
      (∀ events events', (events.flatMap Event.source).Perm (events'.flatMap Event.source) →
        ((ofStore store).run events).tally = ((ofStore store).run events').tally) ∧
      ∀ events tree tree' path entries entries',
        tree.get? (Path.tidy path) = some (.dir entries) →
        tree'.get? (Path.tidy path) = some (.dir entries') → entries.Perm entries' →
        (((ofStore store).run events).call (.dir tree path)).2.tally =
          (((ofStore store).run events).call (.dir tree' path)).2.tally := by
  refine ⟨fun events => ?_, fun events c readings r' hcall => ?_, fun events line => ?_,
    fun events events' hlines => ?_, fun events tree tree' path entries entries' ht ht' h => ?_⟩
  · have hbalanced := balanced_tallyOf store (events.flatMap Event.source)
    rw [run_ofStore]
    exact ⟨rfl, hbalanced.lines_eq, hbalanced.exists_exactRate?, hbalanced.matchRate_mem⟩
  · rw [run_ofStore] at hcall ⊢
    obtain ⟨hafter, hreadings⟩ := call_eq ⟨store, tallyOf store (events.flatMap Event.source)⟩ c
    rw [hcall] at hafter hreadings
    obtain rfl : r' = _ := hafter
    obtain rfl := hreadings readings rfl
    have hmatched := countP_isMatched_filterMap store c.source
    have hunmatched := countP_not_isMatched_filterMap_le store c.source
    refine ⟨rfl, rfl, ?_, ?_, ?_⟩
    · rw [hmatched]
      rfl
    · rw [Tally.plus, add_sub_cancel_left]
      exact hunmatched
    · simp only [readLine_eq, List.filterMap_eq_flatMap_toList]
      rfl
  · rw [run_ofStore, readLine_eq, readLine_eq]
    rfl
  · rw [run_ofStore, run_ofStore]
    exact tallyOf_perm store hlines
  · rw [(call_eq _ _).1, (call_eq _ _).1, tallyOf_perm _ (source_dir_perm ht ht' h)]

/-! ### A directory with one file -/

/-- A statement that serves all classes. -/
def forAll : Store :=
  Store.ofList [⟨['w'], Statement.defaultClass, Template.pattern (Text.ofString "b \x7b\x7d")⟩]

def matchedLine : Text := Text.ofString "t|INFO|h|Z|o|b x"

def unmatchedLine : Text := Text.ofString "t|INFO|h|Z|o|c"

def oneLog : FileTree :=
  ⟨.dir [(['d'], .dir [(['a'], .file (Text.Utf8.encoding
    (Text.ofString "t|INFO|h|Z|o|b x\njunk\nt|INFO|h|Z|o|c")))])], [], []⟩

/-- A run with a file that is missing and with lines whose source fails after the first of them. -/
def failingRun : List Event :=
  [.whole (.log oneLog ['n']), .broken (.lines [matchedLine, matchedLine]) 1,
    .whole (.dir oneLog ['d'])]

/-- The failures leave a tally that adds up, and that reading the same lines one by one gives as
well. Reading the directory once more counts its three lines and returns two readings. -/
theorem run_tally_oneLog :
    ((ofStore forAll).call (.log oneLog ['n'])).1.toOption.isNone = true ∧
      ((ofStore forAll).run failingRun).tally = ⟨4, 1, 1, 2⟩ ∧
      (∃ q, ((ofStore forAll).run failingRun).tally.exactRate? = some q ∧ 0 ≤ q ∧ q ≤ 100) ∧
      ((ofStore forAll).run failingRun).tally = ((ofStore forAll).run
        [.whole (.lines [unmatchedLine, matchedLine]), .whole (.line (Text.ofString "junk")),
          .whole (.line matchedLine)]).tally ∧
      ∃ readings r', ((ofStore forAll).run failingRun).call (.dir oneLog ['d']) =
          (.ok readings, r') ∧
        r'.tally.lines = 4 + 3 ∧ r'.tally.matched = 2 + readings.countP (·.isMatched) := by
  have htally : ((ofStore forAll).run failingRun).tally = ⟨4, 1, 1, 2⟩ := by decide +kernel
  obtain ⟨hadds, hcalls, -, horder, -⟩ := run_tally forAll
  obtain ⟨-, -, hrate, -⟩ := hadds failingRun
  refine ⟨by decide +kernel, htally, hrate, horder _ _ (by decide +kernel), ?_⟩
  obtain ⟨readings, hreadings⟩ : ∃ readings,
      (((ofStore forAll).run failingRun).call (.dir oneLog ['d'])).1 = .ok readings := ⟨_, rfl⟩
  obtain ⟨-, hlines, hmatched, -⟩ := hcalls _ _ _ _ (Prod.ext hreadings rfl)
  rw [htally] at hlines hmatched
  exact ⟨readings, _, Prod.ext hreadings rfl, hlines.trans (by decide +kernel), hmatched⟩

end LogHarvest.LogReader
