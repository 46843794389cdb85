import LogHarvest.CommandLine.Parse
import LogHarvest.Proofs.PatternFile.RoundTrip
import LogHarvest.Proofs.Reading.Addition
import LogHarvest.Proofs.Reading.Texts
import LogHarvest.Proofs.Text.Order

/-!
# What is printed about logs

Each log line that is matched is printed as one line, in the order of the files and of their lines,
and no other line is. This rests on what the texts of a reading are made of: neither a loaded
statement nor a line of a log holds a line terminator, and captures are quoted. The summary counts
the same lines on another way, and comes to as many matched ones as there are records.
-/

namespace LogHarvest

namespace Text

theorem isVisible_ofNat (n : Nat) : (Text.ofNat n).IsVisible := by
  intro c hc
  obtain ⟨digit, hdigit, rfl⟩ := List.mem_map.1 hc
  have hten := Nat.isDigit_of_mem_toDigits (by decide) (by decide) hdigit
  obtain ⟨hlow, hhigh⟩ : 48 ≤ digit.toNat ∧ digit.toNat ≤ 57 := by
    simpa [Char.isDigit, UInt32.le_iff_toNat_le] using hten
  exact ⟨by rw [Code.val_ofChar]; omega, by rw [Code.val_ofChar]; omega⟩

theorem isVisible_ofInt (n : Int) : (Text.ofInt n).IsVisible := by
  cases n with
  | ofNat n => exact isVisible_ofNat n
  | negSucc n => exact isVisible_cons.2 ⟨by decide, isVisible_ofNat (n + 1)⟩

end Text

theorem Dyadic.isVisible_toFixed (d : Dyadic) (places : Nat) : (d.toFixed places).IsVisible := by
  have hsign : Text.IsVisible (if d.negative then ['-'] else []) := by split <;> decide
  have hzeros (count : Nat) : Text.IsVisible (List.replicate count ('0' : Code)) := by
    intro c hc
    obtain rfl := List.eq_of_mem_replicate hc
    decide
  simp only [toFixed, Text.isVisible_append]
  exact ⟨⟨⟨⟨hsign, Text.isVisible_ofNat _⟩, by decide⟩, hzeros _⟩, Text.isVisible_ofNat _⟩

/-- What is read from the bytes of a log are lines that can be encoded, whatever the bytes are. -/
theorem LogReader.isPlain_of_mem_linesOf {bytes : Text.Utf8.Bytes} {line : Text}
    (h : line ∈ linesOf bytes) : line.IsPlain := by
  refine Text.isPlain_of_isLine (Text.isLine_of_mem_lines h) fun c hc => ?_
  obtain hmem | rfl := Text.mem_of_mem_lines h hc
  · exact Text.Utf8.isScalar_of_mem_decodeDropping hmem
  · decide

namespace CommandLine.Parse

variable {tree : FileTree} {args : List Text} {job : Job} {notices : List Notice} {store : Store}
  {entries : List (Text × FileNode)} {format : Format} {line t : Text}

/-! ### The lines of a directory -/

/-- The lines of the files among some entries, in the order of the entries. -/
def linesIn (entries : List (Text × FileNode)) : List Text :=
  entries.flatMap fun e =>
    match e.2 with
    | .file bytes => LogReader.linesOf bytes
    | .dir _ => []

theorem flatMap_filesIn (dir : Text) (entries : List (Text × FileNode)) :
    ((LogReader.filesIn dir (.dir entries)).flatMap fun f => LogReader.linesOf f.2) =
      linesIn (FileNode.sortedEntries entries) := by
  rw [LogReader.filesIn, linesIn, List.filterMap_eq_flatMap_toList, List.flatMap_assoc]
  refine List.flatMap_congr fun e _ => ?_
  cases e.2 with
  | file bytes => simp
  | dir inner => rfl

theorem isPlain_of_mem_linesIn (h : line ∈ linesIn entries) : line.IsPlain := by
  obtain ⟨e, -, he⟩ := List.mem_flatMap.1 h
  split at he
  · exact LogReader.isPlain_of_mem_linesOf he
  · simp at he

/-! ### The record of a line -/

/-- What is printed for a line: its reading, if there is one and it is matched. -/
def recordOf? (store : Store) (format : Format) (line : Text) : Option Text :=
  ((LogReader.readingAt store line).filter Reading.isMatched).map fun r =>
    (format.write r).unstyled

theorem recordOf?_of_malformed (h : LogLine.ofText? line = none) (store : Store)
    (format : Format) : recordOf? store format line = none := by
  rw [recordOf?, LogReader.readingAt_eq_none h]
  rfl

/-- For a log line nothing is printed if no statement that serves its class matches its message;
otherwise what the first of these reads is printed, with the level of the line. -/
theorem recordOf?_cases (store : Store) (format : Format) {l : LogLine}
    (hl : LogLine.ofText? line = some l) :
    ((∀ s ∈ store.candidates l.clazz, ¬s.Matches l.message) ∧
      recordOf? store format line = none) ∨
    ∃ before s later groups, store.candidates l.clazz = before ++ s :: later ∧
      (∀ other ∈ before, ¬other.Matches l.message) ∧
      s.pattern.fullMatch? l.message = some groups ∧
      recordOf? store format line = some (format.write
        { Reading.ofMatch l.message s groups with level := some l.level }).unstyled := by
  have hreading : LogReader.readingAt store line = LogReader.readingOf store l := by
    rw [LogReader.readingAt, hl, Option.bind_some]
  rw [recordOf?, hreading, LogReader.readingOf]
  obtain ⟨hnone, hbare⟩ | ⟨before, s, later, groups, hcandidates, hbefore, hgroups, hmatch⟩ :=
    Reading.ofCandidates_cases l.message (store.candidates l.clazz)
  · refine .inl ⟨hnone, ?_⟩
    rw [Reading.ofMessage?]
    split
    · rfl
    · rw [hbare]
      rfl
  · refine .inr ⟨before, s, later, groups, hcandidates, hbefore, hgroups, ?_⟩
    rw [Reading.ofMessage?_eq_some (by rw [hcandidates]; simp), hmatch]
    rfl

/-- Nothing is printed for a line that is no log line, whose class no statement serves or whose
message none of the statements that do matches, and for no others. -/
theorem recordOf?_eq_none_iff : recordOf? store format line = none ↔
    LogLine.ofText? line = none ∨ ∃ l, LogLine.ofText? line = some l ∧
      (store.candidates l.clazz = [] ∨
        ∀ s ∈ store.candidates l.clazz, s.pattern.fullMatch? l.message = none) := by
  cases hl : LogLine.ofText? line with
  | none => simp [recordOf?_of_malformed hl]
  | some l =>
      obtain ⟨hnone, hrecord⟩ | ⟨before, s, later, groups, hcandidates, -, hgroups, hrecord⟩ :=
        recordOf?_cases store format hl
      · have hall : ∀ s ∈ store.candidates l.clazz, s.pattern.fullMatch? l.message = none :=
          fun s hs => Option.not_isSome_iff_eq_none.1 (hnone s hs)
        exact iff_of_true hrecord (.inr ⟨l, rfl, .inr hall⟩)
      · refine iff_of_false (by simp [hrecord]) ?_
        rintro (hnone | ⟨_, hsame, hempty | hall⟩)
        · simp at hnone
        · obtain rfl := Option.some.inj hsame
          simp [hcandidates] at hempty
        · obtain rfl := Option.some.inj hsame
          simp [hall s (by simp [hcandidates])] at hgroups

/-- A line has a record exactly if it counts as matched. -/
theorem isSome_recordOf? (store : Store) (format : Format) (line : Text) :
    (recordOf? store format line).isSome =
      (LogReader.readingAt store line).any Reading.isMatched := by
  rw [recordOf?]
  cases LogReader.readingAt store line with
  | none => rfl
  | some r => cases hmatched : r.isMatched <;> simp [Option.filter, hmatched]

/-- The record of a plain line by statements with plain texts is plain. -/
theorem isPlain_of_recordOf? {ss : List Statement}
    (hss : ∀ s ∈ ss, s.clazz.IsPlain ∧ s.pattern.source.IsPlain) (hline : line.IsPlain)
    (h : recordOf? (Store.ofList ss) format line = some t) : t.IsPlain := by
  obtain ⟨r, hr, rfl⟩ := Option.map_eq_some_iff.1 h
  obtain ⟨hreading, -⟩ := Option.filter_eq_some_iff.1 hr
  refine Text.IsPlain.unstyled ?_
  cases format with
  | json => exact r.isVisible_toJson.isPlain
  | text =>
      refine Reading.isPlain_toText fun field hfield => ?_
      obtain hpart | ⟨s, hs, rfl | rfl⟩ := Reading.cases_of_mem_texts_readingAt hreading hfield
      · exact fun c hc => hline c (hpart c hc)
      · exact (hss s hs).1
      · exact (hss s hs).2

/-! ### The summary -/

theorem isVisible_of_mem_summaryOf {tally : Tally} (h : t ∈ summaryOf tally) : t.IsVisible := by
  have hall : ∀ t ∈ summaryOf tally, t.IsVisible := by
    simp only [summaryOf, List.forall_mem_cons, Text.isVisible_append]
    exact ⟨⟨by decide, Text.isVisible_ofInt _⟩, ⟨by decide, Text.isVisible_ofInt _⟩,
      ⟨by decide, Text.isVisible_ofInt _⟩, ⟨by decide, Text.isVisible_ofInt _⟩,
      ⟨⟨by decide, Dyadic.isVisible_toFixed _ _⟩, by decide⟩, by simp⟩
  exact hall t h

theorem map_unstyled_summaryOf (tally : Tally) :
    (summaryOf tally).map Text.unstyled = summaryOf tally :=
  (List.map_congr_left fun _ h => (isVisible_of_mem_summaryOf h).unstyled_eq_self).trans
    (List.map_id _)

/-! ### The whole output -/

/-- The lines that are printed for the lines of some logs. -/
def printedLines (store : Store) (job : Job) (lines : List Text) : List Text :=
  lines.filterMap (recordOf? store job.format) ++
    if job.summary then summaryOf (LogReader.tallyOf store lines) else []

/-- The readings of files that are matched are printed as the records of their lines. -/
theorem records_eq (store : Store) (format : Format) (files : List (Text × Text.Utf8.Bytes)) :
    ((((files.map fun f => LogReader.FileReadings.mk f.1
        ((LogReader.linesOf f.2).filterMap (LogReader.readingAt store))).flatMap
          (·.readings)).filter Reading.isMatched).map format.write).map Text.unstyled =
      (files.flatMap fun f => LogReader.linesOf f.2).filterMap (recordOf? store format) := by
  rw [List.flatMap_map, ← List.filterMap_flatMap, List.map_map, List.filter_filterMap,
    List.map_filterMap]
  refine List.filterMap_congr fun line _ => ?_
  rw [recordOf?]
  rfl

/-- What is printed in the end are the records of the lines of all files, and the summary. -/
theorem perform_eq (hload : PatternFile.load tree job.patterns = (notices, .ok store))
    (hdir : tree.get? (Path.tidy job.logs) = some (.dir entries)) :
    (perform tree job).ending = .done ∧ (perform tree job).printed =
      Text.unlines (printedLines store job (linesIn (FileNode.sortedEntries entries))) := by
  simp only [perform, LogReader.ofPatterns, hload, Except.map, LogReader.readDir, hdir,
    LogReader.readFiles_eq, flatMap_filesIn, results, echoed, List.map_append, records_eq,
    printedLines, true_and]
  have hstore : (LogReader.ofStore store).store = store := rfl
  have htally : (LogReader.ofStore store).tally = Tally.zero := rfl
  rw [hstore, htally, Tally.zero_plus]
  split
  · rw [map_unstyled_summaryOf]
  · rfl

theorem run_eq_perform (hrequest : request tree args = .ok (.work job)) :
    run tree args = perform tree job := by
  rw [run, hrequest]

theorem isPlain_of_recordable {s : Statement} (h : s.Recordable) (hw : s.Writable) :
    s.clazz.IsPlain ∧ s.pattern.source.IsPlain := by
  have hplain {field : Text} (hfield : field ∈ s.parts) (hinside : field.IsField) :
      field.IsPlain := fun c hc => ⟨(hinside c hc).2.2.1, (hinside c hc).2.1, hw field hfield c hc⟩
  exact ⟨hplain (by simp [Statement.parts]) h.clazz, hplain (by simp [Statement.parts]) h.source⟩

theorem isPlain_of_mem_printedLines
    (hload : PatternFile.load tree job.patterns = (notices, .ok store))
    (h : t ∈ printedLines store job (linesIn entries)) : t.IsPlain := by
  obtain ⟨ss, rfl, hss⟩ := PatternFile.recordable_of_load hload
  obtain hrecord | hsummary := List.mem_append.1 h
  · obtain ⟨line, hline, hrecord⟩ := List.mem_filterMap.1 hrecord
    exact isPlain_of_recordOf? (fun s hs => isPlain_of_recordable (hss s hs).1 (hss s hs).2)
      (isPlain_of_mem_linesIn hline) hrecord
  · split at hsummary
    · exact (isVisible_of_mem_summaryOf hsummary).isPlain
    · simp at hsummary

/-- Plain lines one after the other can be encoded. -/
theorem exists_encode_unlines {ls : List Text} (h : ∀ line ∈ ls, line.IsPlain) :
    ∃ bytes, Text.Utf8.encode (Text.unlines ls) = .ok bytes := by
  refine ⟨_, Text.Utf8.encode_eq_ok_iff.2 ⟨fun c hc => ?_, rfl⟩⟩
  obtain ⟨line, hline, hc⟩ := List.mem_flatMap.1 hc
  obtain hc | hfeed := List.mem_append.1 hc
  · exact (h line hline c hc).isScalar.notSurrogate
  · obtain rfl := List.mem_singleton.1 hfeed
    decide

theorem sortedEntries_perm_pairwise (entries : List (Text × FileNode)) :
    (FileNode.sortedEntries entries).Perm entries ∧
      (FileNode.sortedEntries entries).Pairwise fun a b => Text.le a.1 b.1 = true :=
  ⟨List.mergeSort_perm entries _, Text.pairwise_sortByName entries⟩

/-- A statement that serves all classes. -/
def serving : Statement :=
  ⟨['w'], Statement.defaultClass, Template.pattern (Text.ofString "b \x7b\x7d")⟩

/-- A pattern file beside a directory with two logs. The one that comes first by name ends with a byte
that is no text. -/
def twoLogs : FileTree :=
  ⟨.dir [(['p'], .file (Text.Utf8.encoding (PatternFile.recordsText [serving]))), (['d'], .dir [
    (['b'], .file (Text.Utf8.encoding (Text.ofString "t|INFO|h|Z|o|b y\r\njunk"))),
    (['a'], .file (Text.Utf8.encoding (Text.ofString "t|INFO|h|Z|o|b x") ++ [255]))])], [], []⟩

/-- Asks for the two logs with the summary. -/
def withSummary : List Text := [['p'], ['d'], Text.ofString "--summary"]

def twoLogsJob : Job := ⟨['p'], ['d'], .text, true, false⟩

theorem recordable_serving : serving.Recordable :=
  ⟨by decide, by decide, Template.isField_escape (by decide), Template.read_escape _⟩

end CommandLine.Parse

end LogHarvest
