import LogHarvest.LogReader
import LogHarvest.Proofs.LogLine
import LogHarvest.Proofs.Reading
import LogHarvest.Proofs.Template.Edges
import LogHarvest.Proofs.Template.Matching

/-!
# Reading rendered messages

A reader has the store that is given or that of a pattern file. A message made of a template is read
by the template's pattern as long as nothing of it is lost on the way through a log line. What a
line can lose is the blanks at the ends of the message, and with them every message of a template
that begins or ends with one.
-/

namespace LogHarvest.LogReader

/-! ### Where a reader comes from -/

section Origin

variable {tree : FileTree} {patterns : Option Text} {store : Option Store}

/-- There is a reader exactly if a store is given or else a pattern file that loads. It has that
store and has read nothing. -/
theorem ofOrigin_eq_ok_iff {r : LogReader} : (ofOrigin tree patterns store).2 = .ok r ↔
    ∃ s, r = ofStore s ∧ (store = some s ∨ store = none ∧
      ∃ path, patterns = some path ∧ (PatternFile.load tree path).2 = .ok s) := by
  cases store with
  | some s => simp [ofOrigin, @eq_comm _ r]
  | none =>
      cases patterns with
      | none => simp [ofOrigin]
      | some path =>
          simp only [ofOrigin, ofPatterns]
          cases hload : (PatternFile.load tree path).2 <;>
            simp [hload, Except.map, Except.mapError, @eq_comm _ r]

/-- Without a store and a pattern file there is no reader, and this is told apart from a pattern
file that does not load. -/
theorem ofOrigin_eq_nothingGiven_iff :
    (ofOrigin tree patterns store).2 = .error .nothingGiven ↔ store = none ∧ patterns = none := by
  cases store with
  | some s => simp [ofOrigin]
  | none =>
      cases patterns with
      | none => simp [ofOrigin]
      | some path =>
          simp only [ofOrigin, ofPatterns]
          cases (PatternFile.load tree path).2 <;> simp [Except.map, Except.mapError]

end Origin

/-! ### Reading a line -/

/-- What is read from a line is what the store reads from its columns. -/
theorem readLine_fst (r : LogReader) (line : Text) :
    (r.readLine line).1 = (LogLine.ofText? line).bind (readingOf r.store) := by
  rw [readLine]
  cases LogLine.ofText? line with
  | none => rfl
  | some l =>
      dsimp only [Option.bind_some]
      split <;> rfl

/-- Reading a line leaves the store as it is. -/
@[simp] theorem readLine_store (r : LogReader) (line : Text) :
    (r.readLine line).2.store = r.store := by
  rw [readLine]
  split
  · rfl
  · dsimp only
    split <;> rfl

/-- A line of a class that some statement serves is read by the first statement that matches. -/
theorem exists_readLine_eq_some (r : LogReader) {line : Text} {l : LogLine}
    (hl : LogLine.ofText? line = some l) (hc : r.store.candidates l.clazz ≠ []) :
    ∃ reading, (r.readLine line).1 = some reading ∧
      reading.isMatched =
        (Reading.ofCandidates l.message (r.store.candidates l.clazz)).isMatched ∧
      reading.clazz = (Reading.ofCandidates l.message (r.store.candidates l.clazz)).clazz ∧
      reading.pattern = (Reading.ofCandidates l.message (r.store.candidates l.clazz)).pattern := by
  obtain ⟨s, rest, hs⟩ := List.exists_cons_of_ne_nil hc
  rw [readLine_fst, hl, Option.bind_some, readingOf, Reading.ofMessage?, hs]
  refine ⟨_, rfl, ?_⟩
  dsimp only
  split
  · exact ⟨rfl, rfl, rfl⟩
  · exact ⟨rfl, rfl, rfl⟩

section Rendered

variable {t : Text} {values : List Text}

/-- Trimming a message of a template leaves a message of the template only if there was nothing
to trim. -/
theorem matches_trim_fill_iff {s : Statement} (hp : s.pattern = Template.pattern t)
    (hv : Template.Arguments t values) :
    s.Matches (Template.fill (Template.pieces t) values).trim ↔ t.trim = t := by
  rw [Statement.Matches, hp, Template.isSome_fullMatch?_pattern]
  constructor
  · rintro ⟨others, hothers, hm⟩
    rw [← Template.trim_fill_eq_self_iff hothers, ← hm, Text.trim_trim]
  · intro ht
    exact ⟨values, hv, (Template.trim_fill_eq_self_iff hv).2 ht⟩

theorem columnBar_notMem_fill (hv : Template.Arguments t values) (ht : columnBar ∉ t) :
    columnBar ∉ Template.fill (Template.pieces t) values :=
  fun h => ht (Template.mem_of_mem_fill hv (by decide) h)

end Rendered

/-- A line with a message made of a template is always read by a reader that holds the template's
pattern for the class of the line. The pattern matches exactly if the template has no blank at
either end. -/
theorem readLine_rendered_isMatched_iff {t : Text} {values : List Text} {l : LogLine}
    (level : Text) (hv : Template.Arguments t values)
    (hm : l.message = Template.fill (Template.pieces t) values) (ht : columnBar ∉ t)
    (hl : ∀ column ∈ [l.timestamp, l.level, l.thread, l.clazz, l.origin], columnBar ∉ column)
    (hc : l.clazz.trim = l.clazz) :
    ∃ p, Template.compile t = .ok p ∧
      ∃ reading, ((ofStore (Store.ofList [⟨level, l.clazz, p⟩])).readLine l.toText).1 =
          some reading ∧
        (reading.isMatched = true ↔ t.trim = t) := by
  have hsep : l.Separable := by
    simp only [List.forall_mem_cons, List.not_mem_nil] at hl
    rw [LogLine.separable_iff, hm]
    exact ⟨hl.1, hl.2.1, hl.2.2.1, hl.2.2.2.1, hl.2.2.2.2.1, columnBar_notMem_fill hv ht⟩
  refine ⟨Template.pattern t, Template.compile_eq t, ?_⟩
  let s : Statement := ⟨level, l.clazz, Template.pattern t⟩
  have hcandidates : (Store.ofList [s]).candidates l.tidied.clazz = [s] := by
    have hown : (Store.ofList [s]).own l.tidied.clazz = [s] := by
      simp [LogLine.tidied, hc, Statement.ofClass, s]
    rw [Store.candidates_of_own_ne_nil (by simp [hown]), hown]
  obtain ⟨reading, hread, hmatched, -, -⟩ :=
    exists_readLine_eq_some (ofStore (Store.ofList [s])) (LogLine.ofText?_toText hsep)
      (by rw [ofStore, hcandidates]; simp)
  refine ⟨reading, hread, ?_⟩
  rw [hmatched, ofStore, hcandidates, Reading.isMatched_ofCandidates_singleton,
    show l.tidied.message = (Template.fill (Template.pieces t) values).trim by
      simp [LogLine.tidied, hm]]
  exact matches_trim_fill_iff rfl hv

/-- The line of a message whose template has two markers and no blank at its ends. -/
theorem readLine_port_is_up :
    Template.Arguments (Text.ofString "port \x7b\x7d is \x7b\x7d")
      [Text.ofString "eth_0", ['U', 'p']] ∧
    ∃ p, Template.compile (Text.ofString "port \x7b\x7d is \x7b\x7d") = .ok p ∧
      ∃ reading, ((ofStore (Store.ofList [⟨['i', 'n', 'f', 'o'], ['N', 'e', 't'], p⟩])).readLine
          (Text.ofString "12:00 | INFO | main | Net | core | port eth_0 is Up")).1 = some reading ∧
        reading.isMatched = true := by
  have hv : Template.Arguments (Text.ofString "port \x7b\x7d is \x7b\x7d")
      [Text.ofString "eth_0", ['U', 'p']] :=
    ⟨by decide, by
      simp only [List.forall_mem_cons]
      exact ⟨⟨by decide, by decide⟩, ⟨by decide, by decide⟩, by simp⟩⟩
  refine ⟨hv, ?_⟩
  obtain ⟨p, hp, reading, hread, hmatched⟩ := readLine_rendered_isMatched_iff
    (l := ⟨Text.ofString "12:00", Text.ofString "INFO", Text.ofString "main", Text.ofString "Net",
      Text.ofString "core", Text.ofString "port eth_0 is Up"⟩)
    ['i', 'n', 'f', 'o'] hv (by decide) (by decide) (by decide) (by decide)
  exact ⟨p, hp, reading, hread, hmatched.2 (by decide)⟩

/-- A template that begins with a blank never matches its own message. -/
theorem readLine_blank_front_isMatched_eq_false :
    Template.Arguments (Text.ofString " a") [] ∧ columnBar ∉ Text.ofString " a" ∧
    ∃ p, Template.compile (Text.ofString " a") = .ok p ∧
      ∃ reading, ((ofStore (Store.ofList [⟨['i', 'n', 'f', 'o'], ['C'], p⟩])).readLine
          (LogLine.toText ⟨['t'], Text.ofString "INFO", ['h'], ['C'], ['o'],
            Template.fill (Template.pieces (Text.ofString " a")) []⟩)).1 = some reading ∧
        reading.isMatched = false := by
  refine ⟨⟨by decide, by simp⟩, by decide, Template.pattern (Text.ofString " a"),
    Template.compile_eq _, Reading.bare ['a'], by decide, rfl⟩

end LogHarvest.LogReader
