import LogHarvest.Proofs.Harvest.Files
import LogHarvest.Proofs.Java.Calls

/-!
# What a harvest discovers

The statements of a source tree can be said without the harvest: they are those of the log calls
of its files, in order. A harvest that comes to its end has put just these into its store and into
the pattern file, each in the order in which it was met.
-/

namespace LogHarvest

/-! ### With the usual group -/

/-- A call leaves a statement if it has an argument and a literal template: this always compiles. -/
theorem LogCall.statementWith?_wordGroup_eq_some_iff {c : LogCall}
    {fields : List (Text × List Text)} {s : Statement} :
    c.statementWith? Template.wordGroup fields = some s ↔ c.argumentCount ≠ 0 ∧
      ∃ t, c.template = some t ∧ s = ⟨c.method, c.owner fields, Template.pattern t⟩ := by
  have hcompile (t : Text) : Template.compileWith Template.wordGroup t =
      .ok (Template.pattern t) := Template.compile_eq t
  by_cases hc : c.argumentCount = 0
  · simp [LogCall.statementWith?, LogCall.compiled?, hc]
  · rw [LogCall.statementWith?, LogCall.compiled?, if_neg hc]
    cases c.template with
    | none => simp
    | some t => simp [hcompile, Except.toOption, hc, @eq_comm _ s]

theorem LogCall.Recordable.statement {c : LogCall} (hc : c.Recordable)
    {fields : List (Text × List Text)} {s : Statement}
    (h : c.statementWith? Template.wordGroup fields = some s) : s.Recordable := by
  obtain ⟨-, t, ht, rfl⟩ := LogCall.statementWith?_wordGroup_eq_some_iff.1 h
  exact ⟨hc.method, hc.owner fields, Template.isField_escape (hc.template t ht),
    Template.read_escape t⟩

namespace Harvest

/-- The statements of a file whose facts may be missing. -/
def statementsOf (facts : Except SourceFault SourceFacts) : List Statement :=
  statementsWith Template.wordGroup facts

/-- Files that are taken without a fault leave their statements in the store and in the writer. -/
theorem addFiles_meets {h : Harvest} (hgroup : h.group = Template.wordGroup)
    {w w' : PatternFile.Writer} {files : List (Text × Except SourceFault SourceFacts)}
    (hr : (h.addFiles w files).result = (w', none)) :
    h.Meets (h.addFiles w files).harvest (files.flatMap fun f => statementsOf f.2) ∧
      w.Takes w' (files.flatMap fun f => statementsOf f.2) := by
  obtain ⟨hcalls, hwritten⟩ := of_addFiles_eq hr
  rw [addFiles_eq hcalls hwritten]
  simp only [statementsOf, ← hgroup]
  exact ⟨meets_afterFiles h files, PatternFile.Writer.takes_of_writeAll hwritten⟩

/-! ### The statements of sources -/

variable [Java.Parser]

/-- The statements of a source tree in the order in which they are met. The files are those that
the walk lists, as they are when the output has been emptied. -/
def discovered (tree : FileTree) (job : Job) : List Statement :=
  match (PatternFile.Writer.new job.output).openFile tree with
  | .error _ => []
  | .ok (_, opened) =>
    (tree.walk job.rule job.source).flatMap fun f =>
      statementsOf (factsAt opened (tree.locate job.source ++ f))

/-- Facts that a tree has at a place are those of the bytes of some file. -/
theorem exists_ofBytes_of_factsAt {tree : FileTree} {parts : List Text} {facts : SourceFacts}
    (h : factsAt tree parts = .ok facts) :
    ∃ bytes, SourceFacts.ofBytes (tree.absolute parts) bytes [] = .ok facts := by
  unfold factsAt at h
  dsimp only at h
  split at h
  · exact ⟨_, h⟩
  · simp at h
  · simp at h

variable [Java.LawfulParser]

theorem recordable_of_mem_statementsOf {tree : FileTree} {parts : List Text} {s : Statement}
    (h : s ∈ statementsOf (factsAt tree parts)) : s.Recordable := by
  cases hfacts : factsAt tree parts with
  | error fault => simp [hfacts, statementsOf, statementsWith] at h
  | ok facts =>
      rw [hfacts] at h
      obtain ⟨c, hc, hs⟩ := List.mem_filterMap.1 h
      obtain ⟨bytes, hbytes⟩ := exists_ofBytes_of_factsAt hfacts
      exact (SourceFacts.recordable_of_ofBytes hbytes c hc).statement hs

theorem recordable_of_mem_discovered {tree : FileTree} {job : Job} :
    ∀ s ∈ discovered tree job, s.Recordable := by
  intro s hs
  rw [discovered] at hs
  split at hs
  · simp at hs
  · obtain ⟨f, -, hs⟩ := List.mem_flatMap.1 hs
    exact recordable_of_mem_statementsOf hs

end Harvest

end LogHarvest
