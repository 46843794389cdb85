import LogHarvest.Proofs.Harvest.Output

/-!
# What a harvest gets over

A source file without facts is reported and counted as skipped, and a call without a statement is
at most reported; the harvest goes on with the next file. There is one thing that it does not get
over: a template that spells a surrogate makes a record that cannot be encoded, and the harvest
ends at that file. So a harvest accounts for all of its files exactly if no template of a log call
in them holds a surrogate.
-/

namespace LogHarvest

open Text.Utf8 (encoding)

/-! ### Surrogates -/

/-- No code of a text is a surrogate. -/
def Text.NoSurrogate (t : Text) : Prop := ∀ c ∈ t, c.isSurrogate = false

instance : DecidablePred Text.NoSurrogate := fun t =>
  inferInstanceAs (Decidable (∀ c ∈ t, c.isSurrogate = false))

theorem Text.noSurrogate_append {s t : Text} :
    Text.NoSurrogate (s ++ t) ↔ s.NoSurrogate ∧ t.NoSurrogate :=
  List.forall_mem_append

namespace Template

theorem noSurrogate_escapeCode (c : Code) :
    (escapeCode c).NoSurrogate ↔ c.isSurrogate = false := by
  unfold escapeCode
  split_ifs with hbar hfeed hreturn hspecial
  · subst hbar
    decide
  · subst hfeed
    decide
  · subst hreturn
    decide
  · have hbackslash : (Code.ofChar '\\').isSurrogate = false := by decide
    simp [Text.NoSurrogate, hbackslash]
  · simp [Text.NoSurrogate]

/-- Escaping neither makes surrogates nor removes any. -/
theorem noSurrogate_escape (t : Text) : (escape t).NoSurrogate ↔ t.NoSurrogate := by
  induction t using marker_induction with
  | nil => simp [escape, escapeWith]
  | marker rest ih =>
      have hgroup : wordGroup.NoSurrogate := by decide
      have hmarker : Text.NoSurrogate [markerOpen, markerClose] := by decide
      rw [escape, escapeWith_marker, ← escape, Text.noSurrogate_append, ih,
        show markerOpen :: markerClose :: rest = [markerOpen, markerClose] ++ rest from rfl,
        Text.noSurrogate_append]
      simp only [hgroup, hmarker, true_and]
  | literal c rest hc ih =>
      rw [escape, escapeWith_literal _ hc, ← escape, Text.noSurrogate_append, ih,
        noSurrogate_escapeCode]
      simp only [Text.NoSurrogate, List.forall_mem_cons]

end Template

/-- No template of a log call holds a surrogate. -/
def SourceFacts.NoSurrogate (facts : SourceFacts) : Prop :=
  ∀ c ∈ facts.calls, c.argumentCount ≠ 0 → ∀ t ∈ c.template, t.NoSurrogate

namespace SourceFacts

variable [Java.Parser] {path : Text} {bytes : Text.Utf8.Bytes} {facts : SourceFacts}

/-- The record of a call can be encoded exactly if its template can. -/
theorem noSurrogate_toRecord (h : ofBytes path bytes [] = .ok facts) {c : LogCall}
    (hc : c ∈ facts.calls) (t : Text) :
    (Statement.toRecord ⟨c.method, c.owner facts.fields, Template.pattern t⟩).NoSurrogate ↔
      t.NoSurrogate := by
  have howner : (c.owner facts.fields).NoSurrogate := by
    obtain hdefault | hmem := c.owner_eq_or_mem facts.fields
    · rw [hdefault]
      decide
    · exact fun code hcode => (isScalar_of_mem_calls h hc (.inr ⟨_, hmem, hcode⟩)).notSurrogate
  rw [← Template.noSurrogate_escape t]
  constructor
  · intro hrecord code hcode
    have hfield : Template.escape t ∈
        [c.method, c.owner facts.fields, (Template.pattern t).source] := by
      simp [Template.pattern]
    exact hrecord code (Text.mem_join_of_mem hfield hcode)
  · intro hescape code hcode
    obtain hbar | ⟨part, hpart, hcode⟩ := Text.mem_join hcode
    · obtain rfl := List.mem_singleton.1 hbar
      decide
    · simp only [List.mem_cons, List.not_mem_nil, or_false] at hpart
      obtain rfl | rfl | rfl := hpart
      · exact (isScalar_of_mem_calls h hc (.inl hcode)).notSurrogate
      · exact howner code hcode
      · exact hescape code hcode

theorem encodable_statements_iff (h : ofBytes path bytes [] = .ok facts) :
    PatternFile.Encodable (Harvest.statementsOf (.ok facts)) ↔ facts.NoSurrogate := by
  constructor
  · intro hencodable c hc hcount t ht
    have hs : c.statementWith? Template.wordGroup facts.fields = some _ :=
      LogCall.statementWith?_wordGroup_eq_some_iff.2 ⟨hcount, t, ht, rfl⟩
    exact (noSurrogate_toRecord h hc t).1 (hencodable _ (List.mem_filterMap.2 ⟨c, hc, hs⟩))
  · intro hfree s hs
    obtain ⟨c, hc, hstatement⟩ := List.mem_filterMap.1 hs
    obtain ⟨hcount, t, ht, rfl⟩ := LogCall.statementWith?_wordGroup_eq_some_iff.1 hstatement
    exact (noSurrogate_toRecord h hc t).2 (hfree c hc hcount t ht)

end SourceFacts

namespace Harvest

variable {h h' : Harvest}

/-! ### Counting files -/

/-- What is reported about a file: one warning if it has no facts, or what is reported about its
calls. -/
def reportsOf (path : Text) (facts : Except SourceFault SourceFacts) : List Notice :=
  reportsWith Template.wordGroup path facts

/-- A harvest accounts for some files since it was another one: each of them has been counted once,
as taken if it has facts and as skipped if it has none. -/
structure Accounts (h h' : Harvest) (files : List (Text × Except SourceFault SourceFacts)) :
    Prop where
  taken : h'.totals.files = h.totals.files + files.countP fun f => f.2.isOk
  skipped : h'.totals.skippedFiles = h.totals.skippedFiles + files.countP fun f => !f.2.isOk

variable {files : List (Text × Except SourceFault SourceFacts)}

theorem accounts_afterFiles (h : Harvest)
    (files : List (Text × Except SourceFault SourceFacts)) :
    h.Accounts (h.afterFiles files) files := by
  obtain ⟨hfiles, hskipped⟩ := sum_share_files h.group files
  exact ⟨congrArg (h.totals.files + ·) hfiles, congrArg (h.totals.skippedFiles + ·) hskipped⟩

theorem Accounts.total (ha : h.Accounts h' files) :
    h'.totals.files + h'.totals.skippedFiles =
      h.totals.files + h.totals.skippedFiles + files.length := by
  have hall := countP_isOk_add files
  rw [ha.taken, ha.skipped]
  omega

/-! ### Taking files -/

variable {w w' : PatternFile.Writer}

/-- What comes of files is what comes of writing their statements. -/
theorem addFiles_result (hgroup : h.group = Template.wordGroup) :
    (h.addFiles w files).result =
      ((w.writeAll (files.flatMap fun f => statementsOf f.2)).1,
        (w.writeAll (files.flatMap fun f => statementsOf f.2)).2.map .output) := by
  have hsafe : Template.SafeGroup h.group := by
    rw [hgroup]
    exact Template.safeGroup_wordGroup
  simp only [statementsOf, ← hgroup]
  exact addFiles_result_eq fun f _ => unstopped_of_safeGroup hsafe f.2

/-- All files of a harvest that comes to its end are counted once, and reported in order. -/
theorem addFiles_accounts (hgroup : h.group = Template.wordGroup)
    (hr : (h.addFiles w files).result = (w', none)) :
    h.Accounts (h.addFiles w files).harvest files ∧
      (h.addFiles w files).notices = files.flatMap fun f => reportsOf f.1 f.2 := by
  obtain ⟨hcalls, hwritten⟩ := of_addFiles_eq hr
  rw [addFiles_eq hcalls hwritten]
  refine ⟨accounts_afterFiles h files, ?_⟩
  simp only [reportsOf, hgroup]

/-! ### The whole harvest -/

variable {tree opened : FileTree} {job : Job} {start : Harvest}

section Parser

variable [Java.Parser]

/-- All templates in the log calls of some files are free of surrogates. -/
def NoSurrogate (files : List (Text × Except SourceFault SourceFacts)) : Prop :=
  ∀ f ∈ files, ∀ facts, f.2 = .ok facts → facts.NoSurrogate

theorem encodable_takenFiles_iff :
    PatternFile.Encodable ((takenFiles tree opened job).flatMap fun f => statementsOf f.2) ↔
      NoSurrogate (takenFiles tree opened job) := by
  have hone : ∀ f ∈ takenFiles tree opened job, ∀ facts, f.2 = .ok facts →
      (PatternFile.Encodable (statementsOf (.ok facts)) ↔ facts.NoSurrogate) := by
    intro f hf facts hfacts
    obtain ⟨parts, -, rfl⟩ := List.mem_map.1 hf
    obtain ⟨bytes, hbytes⟩ := exists_ofBytes_of_factsAt hfacts
    exact SourceFacts.encodable_statements_iff hbytes
  constructor
  · intro hencodable f hf facts hfacts
    refine (hone f hf facts hfacts).1 fun s hs => hencodable s (List.mem_flatMap.2 ⟨f, hf, ?_⟩)
    rw [hfacts]
    exact hs
  · intro hfree s hs
    obtain ⟨f, hf, hs⟩ := List.mem_flatMap.1 hs
    cases hfacts : f.2 with
    | error fault => simp [hfacts, statementsOf, statementsWith] at hs
    | ok facts =>
        rw [hfacts] at hs
        exact (hone f hf facts hfacts).2 (hfree f hf facts hfacts) s hs

/-- A harvest of a source directory whose output can be opened comes to its end exactly if no
template in the files holds a surrogate. Then each file that the walk lists has been counted once,
as taken if it has facts and else as skipped, with one warning for a skipped one, and the statements
of all of them are in the store. Otherwise it ends with a record that cannot be encoded. -/
theorem run_eq_ok_iff_noSurrogate (hgroup : start.group = Template.wordGroup)
    (hdir : tree.isDir (Path.tidy job.source) = true)
    (hopened : tree.putFile (Path.tidy job.output) [] = .ok opened) :
    ((∃ totals, (start.run tree job).2.result = .ok totals) ↔
        NoSurrogate (takenFiles tree opened job)) ∧
      (∀ totals, (start.run tree job).2.result = .ok totals →
        start.Accounts (start.run tree job).2.harvest (takenFiles tree opened job) ∧
        totals = (start.run tree job).2.harvest.totals ∧
        totals.files + totals.skippedFiles = start.totals.files + start.totals.skippedFiles +
          (tree.walk job.rule job.source).length ∧
        (start.run tree job).2.notices =
          foundNotice (tree.walk job.rule job.source).length job.source ::
            (takenFiles tree opened job).flatMap (fun f => reportsOf f.1 f.2) ∧
        (start.run tree job).2.harvest.store = start.store.addAll (discovered tree job)) ∧
      ∀ fault, (start.run tree job).2.result = .error fault → ∃ e, fault = .output (.encode e) := by
  have hw := PatternFile.Writer.openFile_new hopened
  have hresult : (start.addFiles ⟨Path.tidy job.output, some [], 0⟩
      (takenFiles tree opened job)).result = _ := addFiles_result hgroup
  rw [run_of_openFile start hdir hw]
  dsimp only
  cases hwritten : PatternFile.Writer.writeAll ⟨Path.tidy job.output, some [], 0⟩
      ((takenFiles tree opened job).flatMap fun f => statementsOf f.2) with
  | mk w' fault =>
      rw [hwritten] at hresult
      rw [← encodable_takenFiles_iff, ← PatternFile.Writer.exists_writeAll_eq_iff
        (w := ⟨Path.tidy job.output, some [], 0⟩) rfl, hwritten]
      cases fault with
      | some fault =>
          obtain ⟨e, rfl⟩ := PatternFile.Writer.exists_encode_of_writeAll rfl hwritten
          simp [hresult]
      | none =>
          obtain ⟨hmeets, -⟩ := addFiles_meets hgroup hresult
          obtain ⟨haccounts, hnotices⟩ := addFiles_accounts hgroup hresult
          have hlength : (takenFiles tree opened job).length =
              (tree.walk job.rule job.source).length := by
            simp [takenFiles]
          simp only [hresult, Option.map_none]
          refine ⟨by simp, ?_, by simp⟩
          intro totals htotals
          obtain rfl := Except.ok.inj htotals
          refine ⟨haccounts, rfl, ?_, by rw [hnotices], ?_⟩
          · rw [haccounts.total, hlength]
          · rw [discovered_eq hw, hmeets.store]

end Parser

/-! ### A file beside a good one -/

/-- A file of some bytes, and below it one with a single call. -/
def besideGood (bytes : Text.Utf8.Bytes) : FileTree :=
  ⟨.dir [(Text.ofString "src", .dir [
    (Text.ofString "A.java", .file bytes),
    (Text.ofString "b", .dir [(Text.ofString "B.java",
      .file (encoding (Text.ofString "l.info(\"b\");")))])])], [], []⟩

/-- A file that is not UTF-8 is skipped, and the next one is taken. -/
theorem run_besideGood_undecodable :
    (besideGood [255]).isDir (Path.tidy intoFile.source) = true ∧
    ∃ opened, (besideGood [255]).putFile (Path.tidy intoFile.output) [] = .ok opened ∧
      NoSurrogate (takenFiles (besideGood [255]) opened intoFile) ∧
      ∃ totals, ((new Template.wordGroup).run (besideGood [255]) intoFile).2.result = .ok totals ∧
        totals.skippedFiles = 1 ∧
        totals.files + totals.skippedFiles =
          ((besideGood [255]).walk intoFile.rule intoFile.source).length := by
  have hdir : (besideGood [255]).isDir (Path.tidy intoFile.source) = true := by decide
  obtain ⟨opened, hopened⟩ : (besideGood [255]).CanWrite intoFile.output := ⟨_, rfl⟩
  have hresult : ((new Template.wordGroup).run (besideGood [255]) intoFile).2.result =
      .ok ⟨1, 1, 1, 0⟩ :=
    toOption_eq_some_iff.1 (by decide +kernel)
  have hgroup : (new Template.wordGroup).group = Template.wordGroup := rfl
  obtain ⟨hends, haccounts, -⟩ := run_eq_ok_iff_noSurrogate hgroup hdir hopened
  obtain ⟨-, -, hcount, -⟩ := haccounts _ hresult
  refine ⟨hdir, opened, hopened, hends.1 ⟨_, hresult⟩, _, hresult, rfl, ?_⟩
  rw [hcount]
  simp [new, Totals.zero]

/-- A call whose template is the two surrogates of a character outside of the first plane. -/
def surrogateCall : Text.Utf8.Bytes :=
  encoding (Text.ofString "l.info(\"\\ud83d\\ude00\");")

/-- A template that spells surrogates ends the harvest: neither its file nor the one after it is
accounted for. -/
theorem run_besideGood_surrogateCall :
    (besideGood surrogateCall).isDir (Path.tidy intoFile.source) = true ∧
    (besideGood surrogateCall).CanWrite intoFile.output ∧
    ((besideGood surrogateCall).walk intoFile.rule intoFile.source).length = 2 ∧
    (¬ ∃ totals, ((new Template.wordGroup).run (besideGood surrogateCall) intoFile).2.result =
      .ok totals) ∧
    ((new Template.wordGroup).run (besideGood surrogateCall) intoFile).2.harvest.totals =
      ⟨1, 0, 0, 0⟩ := by
  refine ⟨by decide, ⟨_, rfl⟩, by decide +kernel, ?_, by decide +kernel⟩
  rintro ⟨totals, htotals⟩
  have hnone : ((new Template.wordGroup).run (besideGood surrogateCall)
      intoFile).2.result.toOption = none := by decide +kernel
  simp [htotals, Except.toOption] at hnone

end Harvest

end LogHarvest
