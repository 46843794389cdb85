import LogHarvest.Proofs.Harvest.Files
import LogHarvest.Proofs.Store.Grouping

/-!
# What a harvest counts

A harvest may be given the facts of single files and whole source trees, in any order, and some of
the trees end it before their time. Whatever it is given, the statements in its store are as many as
the calls that it has counted less those whose templates failed: both numbers go up by what the calls
come to, also when a file cannot be written after its calls have been taken.
-/

namespace LogHarvest.Harvest

variable {group : Text} {h : Harvest}

/-- The store holds one statement for each call that was counted and has not failed. -/
def Balanced (h : Harvest) : Prop := (h.store.size : Int) = h.totals.logs - h.totals.failedPatterns

theorem balanced_new (group : Text) : (new group).Balanced := rfl

theorem size_addAll (store : Store) (ss : List Statement) :
    (store.addAll ss).size = store.size + ss.length := by
  rw [Store.size_eq_length_toList, (Store.toList_addAll_perm store ss).length_eq,
    List.length_append, Store.size_eq_length_toList]

/-- Statements that are met keep the balance. -/
theorem Balanced.meets {h' : Harvest} {ss : List Statement} (hb : h.Balanced) (hm : h.Meets h' ss) :
    h'.Balanced := by
  have hsize : (h'.store.size : Int) = h.store.size + ss.length := by
    rw [hm.store, size_addAll]
    omega
  rw [Balanced, hsize, hm.count, hb]

/-- Whatever comes of a source tree, a harvest with a safe group has met some statements. -/
theorem exists_meets_run [Java.Parser] (hgroup : Template.SafeGroup h.group) (tree : FileTree)
    (job : Job) :
    ∃ ss, h.Meets (h.run tree job).2.harvest ss := by
  obtain ⟨notices, fault, hrun⟩ | ⟨w, opened, hdir, hopen⟩ := run_cases h tree job
  · rw [hrun]
    exact ⟨[], meets_nil rfl rfl rfl⟩
  · rw [run_of_openFile h hdir hopen]
    exact exists_meets_addFiles fun f _ => unstopped_of_safeGroup hgroup f.2

/-! ### Sequences of actions -/

/-- What a harvest can be given: the facts of a file, files with facts that were found in another way
and a writer for them, or a source tree. -/
inductive Action where
  | facts (facts : SourceFacts)
  | files (w : PatternFile.Writer) (files : List (Text × Except SourceFault SourceFacts))
  | run (tree : FileTree) (job : Job)

section Actions

variable [Java.Parser]

def act (h : Harvest) : Action → Harvest
  | .facts facts => (h.addFacts facts).harvest
  | .files w files => (h.addFiles w files).harvest
  | .run tree job => (h.run tree job).2.harvest

/-- The harvest after some actions. -/
def after (h : Harvest) (actions : List Action) : Harvest := actions.foldl act h

theorem exists_meets_act (hgroup : Template.SafeGroup h.group) (action : Action) :
    ∃ ss, h.Meets (h.act action) ss := by
  cases action with
  | facts facts =>
      have hfacts : h.addFacts facts = _ := addFacts_eq (unstopped_of_safeGroup hgroup _)
      rw [act, hfacts]
      exact ⟨_, meets_afterCalls h facts facts.calls⟩
  | files w files =>
      exact exists_meets_addFiles fun f _ => unstopped_of_safeGroup hgroup f.2
  | run tree job => exact exists_meets_run hgroup tree job

theorem exists_meets_after (hgroup : Template.SafeGroup h.group) (actions : List Action) :
    ∃ ss, h.Meets (h.after actions) ss := by
  induction actions generalizing h with
  | nil => exact ⟨[], meets_nil rfl rfl rfl⟩
  | cons action actions ih =>
      obtain ⟨ss, hmeets⟩ := exists_meets_act hgroup action
      rw [← hmeets.group] at hgroup
      obtain ⟨others, hothers⟩ := ih hgroup
      exact ⟨ss ++ others, hmeets.append hothers⟩

end Actions

/-- A report about a call is a warning. -/
theorem isWarning_of_reportWith? {facts : SourceFacts} {c : LogCall} {n : Notice}
    (hn : c.reportWith? group facts = some n) : n.isWarning = true := by
  unfold LogCall.reportWith? at hn
  split at hn
  · obtain rfl := Option.some.inj hn
    rfl
  · split at hn
    · split at hn
      · simp at hn
      · obtain rfl := Option.some.inj hn
        rfl
    · obtain rfl := Option.some.inj hn
      rfl
    · simp at hn

/-- A source with a call whose template spells a surrogate. -/
def surrogateSource : FileTree :=
  ⟨.dir [(['s'], .dir [(Text.ofString "A.java",
    .file (Text.Utf8.encoding (Text.ofString "l.info(\"\\ud83d\");")))])], [], []⟩

def intoOutput : Job := ⟨['s'], ['o'], WalkRule.of [] []⟩

/-- A file with a call of each kind: without arguments, without a literal template, with a template
that has a marker, and with templates that have none, owned by a type and by none. -/
def fiveKinds : SourceFacts where
  path := ['T']
  calls := [
    ⟨none, Text.ofString "info", some ['l'], [['A']], 1, 0⟩,
    ⟨none, Text.ofString "info", some ['l'], [['A']], 2, 1⟩,
    ⟨some (Text.ofString "a \x7b\x7d"), Text.ofString "info", some ['l'], [['A']], 3, 2⟩,
    ⟨some ['b'], Text.ofString "warn", some ['l'], [['A']], 4, 1⟩,
    ⟨some ['c'], Text.ofString "error", none, [['A']], 5, 1⟩]
  fields := [(['A'], [['l']])]

end LogHarvest.Harvest
