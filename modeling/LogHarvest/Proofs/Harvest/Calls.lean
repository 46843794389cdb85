import LogHarvest.Harvest
import LogHarvest.Proofs.Success
import LogHarvest.Proofs.Template.Groups

/-!
# Taking log calls

What a log call comes to can be said without the harvest that takes it: it is counted if it has an
argument and a literal template, and then its template compiles or fails. A harvest that no template
stops takes calls one after the other, and what it counts, stores, reports and returns is that of
each of them in turn. So the calls counted less those that failed are the statements in its store.
-/

namespace LogHarvest

/-! ### One call -/

namespace LogCall

/-- What compiling the template of a call comes to. Only a call with an argument and a literal
template has one. -/
def compiled? (group : Text) (c : LogCall) : Option (Except Template.Failure Pattern) :=
  if c.argumentCount = 0 then none else c.template.map (Template.compileWith group)

/-- Whether a call is counted: it has an argument and a literal template. -/
def isCounted (c : LogCall) : Bool := c.argumentCount ≠ 0 && c.template.isSome

/-- Whether a call is counted and its template does not compile. -/
def fails (group : Text) (c : LogCall) : Bool := (c.compiled? group).any fun r => !r.isOk

/-- The statement of a call whose template compiles: it has the level and the class of the call. -/
def statementWith? (group : Text) (fields : List (Text × List Text)) (c : LogCall) :
    Option Statement :=
  (c.compiled? group).bind fun r => r.toOption.map fun p => ⟨c.method, c.owner fields, p⟩

/-- What is reported about a call: that it has no argument, that its template is malformed, or that
no type owns its statement. -/
def reportWith? (group : Text) (facts : SourceFacts) (c : LogCall) : Option Notice :=
  if c.argumentCount = 0 then some (Harvest.noArguments c facts.path)
  else
    match c.compiled? group with
    | some (.ok _) =>
      if (c.owner? facts.fields).isSome then none else some (Harvest.noOwner c facts.path)
    | some (.error (.malformed template reason)) =>
      some (Harvest.badTemplate template facts.path reason)
    | _ => none

/-- A call stops a harvest if its template can neither be compiled nor is malformed. -/
def Stops (group : Text) (c : LogCall) : Prop :=
  ∃ refusal source, c.compiled? group = some (.error (.unsupported refusal source))

theorem not_stops {group : Text} (h : Template.SafeGroup group) (c : LogCall) :
    ¬c.Stops group := by
  rintro ⟨refusal, source, hc⟩
  unfold compiled? at hc
  split at hc
  · simp at hc
  · obtain ⟨template, -, htemplate⟩ := Option.map_eq_some_iff.1 hc
    exact h template refusal source htemplate

section Compiled

variable {group : Text} {c : LogCall} (fields : List (Text × List Text))

theorem isCounted_eq (group : Text) (c : LogCall) : c.isCounted = (c.compiled? group).isSome := by
  unfold isCounted compiled?
  split_ifs with hcount <;> simp [hcount]

theorem of_compiled?_eq_none (h : c.compiled? group = none) :
    c.isCounted = false ∧ c.fails group = false ∧ c.statementWith? group fields = none := by
  rw [isCounted_eq group, fails, statementWith?, h]
  exact ⟨rfl, rfl, rfl⟩

theorem of_compiled?_eq_ok {p : Pattern} (h : c.compiled? group = some (.ok p)) :
    c.isCounted = true ∧ c.fails group = false ∧
      c.statementWith? group fields = some ⟨c.method, c.owner fields, p⟩ := by
  rw [isCounted_eq group, fails, statementWith?, h]
  exact ⟨rfl, rfl, rfl⟩

theorem of_compiled?_eq_error {failure : Template.Failure}
    (h : c.compiled? group = some (.error failure)) :
    c.isCounted = true ∧ c.fails group = true ∧ c.statementWith? group fields = none := by
  rw [isCounted_eq group, fails, statementWith?, h]
  exact ⟨rfl, rfl, rfl⟩

end Compiled

/-- A counted call has a statement or fails. -/
theorem countP_isCounted (group : Text) (fields : List (Text × List Text)) (calls : List LogCall) :
    calls.countP isCounted =
      (calls.filterMap (statementWith? group fields)).length + calls.countP (fails group) := by
  induction calls with
  | nil => rfl
  | cons c calls ih =>
      rw [List.countP_cons, List.countP_cons, ih]
      cases hcompiled : c.compiled? group with
      | none =>
          obtain ⟨hcounted, hfails, hstatement⟩ := of_compiled?_eq_none fields hcompiled
          simp [hcounted, hfails, List.filterMap_cons_none hstatement]
      | some r =>
          cases r with
          | ok p =>
              obtain ⟨hcounted, hfails, hstatement⟩ := of_compiled?_eq_ok fields hcompiled
              simp only [hcounted, hfails, List.filterMap_cons_some hstatement]
              simp [Nat.add_right_comm]
          | error failure =>
              obtain ⟨hcounted, hfails, hstatement⟩ := of_compiled?_eq_error fields hcompiled
              simp [hcounted, hfails, List.filterMap_cons_none hstatement, Nat.add_assoc]

end LogCall

namespace Harvest

/-! ### Calls in order -/

/-- A harvest has met some statements since it was another one. -/
structure Meets (h h' : Harvest) (ss : List Statement) : Prop where
  group : h'.group = h.group
  store : h'.store = h.store.addAll ss
  count : h'.totals.logs - h'.totals.failedPatterns =
    h.totals.logs - h.totals.failedPatterns + ss.length

/-- The harvest that calls leave behind if none of them stops it. -/
def afterCalls (h : Harvest) (facts : SourceFacts) (calls : List LogCall) : Harvest :=
  { h with
    store := h.store.addAll (calls.filterMap (LogCall.statementWith? h.group facts.fields))
    totals := { h.totals with
      logs := h.totals.logs + calls.countP LogCall.isCounted
      failedPatterns := h.totals.failedPatterns + calls.countP (LogCall.fails h.group) } }

variable {h h' h'' : Harvest} {ss : List Statement} {facts : SourceFacts} {calls : List LogCall}
  {c : LogCall}

theorem meets_nil (hg : h'.group = h.group) (hs : h'.store = h.store)
    (hc : h'.totals.logs - h'.totals.failedPatterns = h.totals.logs - h.totals.failedPatterns) :
    h.Meets h' [] :=
  ⟨hg, hs, by rw [hc, List.length_nil]; omega⟩

theorem Meets.append {others : List Statement} (hm : h.Meets h' ss) (hm' : h'.Meets h'' others) :
    h.Meets h'' (ss ++ others) := by
  refine ⟨hm'.group.trans hm.group, ?_, ?_⟩
  · rw [hm'.store, hm.store, Store.addAll, Store.addAll, Store.addAll, List.foldl_append]
  · rw [hm'.count, hm.count, List.length_append]
    omega

theorem meets_afterCalls (h : Harvest) (facts : SourceFacts) (calls : List LogCall) :
    h.Meets (h.afterCalls facts calls)
      (calls.filterMap (LogCall.statementWith? h.group facts.fields)) := by
  refine ⟨rfl, rfl, ?_⟩
  have hcount := LogCall.countP_isCounted h.group facts.fields calls
  simp only [afterCalls]
  omega

theorem afterCalls_nil (h : Harvest) (facts : SourceFacts) : h.afterCalls facts [] = h := by
  simp [afterCalls, Store.addAll]

theorem afterCalls_cons (h : Harvest) (facts : SourceFacts) (c : LogCall) (calls : List LogCall) :
    h.afterCalls facts (c :: calls) = (h.afterCalls facts [c]).afterCalls facts calls := by
  have hstore (f : LogCall → Option Statement) : h.store.addAll ((c :: calls).filterMap f) =
      (h.store.addAll ([c].filterMap f)).addAll (calls.filterMap f) := by
    rw [← List.singleton_append, List.filterMap_append, Store.addAll, List.foldl_append]
    rfl
  have hcount (p : LogCall → Bool) (n : Int) :
      n + (c :: calls).countP p = n + [c].countP p + calls.countP p := by
    rw [← List.singleton_append, List.countP_append]
    omega
  simp only [afterCalls, hstore, hcount]

/-- A call that does not stop the harvest adds its count, its statement and its report. -/
theorem addCall_eq (hc : ¬c.Stops h.group) :
    h.addCall facts c = ⟨h.afterCalls facts [c], (c.reportWith? h.group facts).toList,
      .ok (c.statementWith? h.group facts.fields)⟩ := by
  unfold addCall LogCall.reportWith?
  by_cases hcount : c.argumentCount = 0
  · have hcompiled : c.compiled? h.group = none := if_pos hcount
    obtain ⟨hcounted, hfails, hstatement⟩ :=
      LogCall.of_compiled?_eq_none facts.fields hcompiled
    simp [hcount, afterCalls, hcounted, hfails, hstatement, Store.addAll]
  · have hcompiled : c.compiled? h.group = c.template.map (Template.compileWith h.group) :=
      if_neg hcount
    rw [if_neg hcount, if_neg hcount]
    cases htemplate : c.template with
    | none =>
        rw [htemplate, Option.map_none] at hcompiled
        obtain ⟨hcounted, hfails, hstatement⟩ :=
          LogCall.of_compiled?_eq_none facts.fields hcompiled
        simp [hcompiled, afterCalls, hcounted, hfails, hstatement, Store.addAll]
    | some t =>
        rw [htemplate, Option.map_some] at hcompiled
        cases hresult : Template.compileWith h.group t with
        | ok p =>
            rw [hresult] at hcompiled
            obtain ⟨hcounted, hfails, hstatement⟩ :=
              LogCall.of_compiled?_eq_ok facts.fields hcompiled
            simp [hcompiled, hresult, afterCalls, hcounted, hfails, hstatement, Store.addAll,
              Totals.addLog]
            split <;> rfl
        | error failure =>
            rw [hresult] at hcompiled
            obtain ⟨hcounted, hfails, hstatement⟩ :=
              LogCall.of_compiled?_eq_error facts.fields hcompiled
            cases failure with
            | malformed template reason =>
                simp [hcompiled, hresult, afterCalls, hcounted, hfails, hstatement, Store.addAll,
                  Totals.addLog, Totals.addFailedPattern]
            | unsupported refusal source => exact absurd ⟨refusal, source, hcompiled⟩ hc

/-- Calls of which none stops the harvest add their counts, statements and reports in turn. -/
theorem addCalls_eq (hcalls : ∀ c ∈ calls, ¬c.Stops h.group) :
    h.addCalls facts calls = ⟨h.afterCalls facts calls,
      calls.filterMap (LogCall.reportWith? h.group facts),
      .ok (calls.filterMap (LogCall.statementWith? h.group facts.fields))⟩ := by
  induction calls generalizing h with
  | nil => rw [addCalls, afterCalls_nil]; rfl
  | cons c calls ih =>
      obtain ⟨hc, hcalls⟩ := List.forall_mem_cons.1 hcalls
      have hrest : (h.afterCalls facts [c]).addCalls facts calls = _ := ih hcalls
      have hgroup : (h.afterCalls facts [c]).group = h.group := rfl
      rw [addCalls, addCall_eq hc]
      simp only [hrest, hgroup, ← afterCalls_cons, List.filterMap_eq_flatMap_toList,
        List.flatMap_cons]
      rfl

theorem addCall_of_stops (facts : SourceFacts) (hc : c.Stops h.group) :
    ∃ failure, (h.addCall facts c).result = .error failure := by
  obtain ⟨refusal, source, hcompiled⟩ := hc
  unfold LogCall.compiled? at hcompiled
  split at hcompiled
  · simp at hcompiled
  · next hcount =>
    obtain ⟨template, htemplate, hresult⟩ := Option.map_eq_some_iff.1 hcompiled
    refine ⟨.unsupported refusal source, ?_⟩
    unfold addCall
    simp only [if_neg hcount, htemplate, hresult]

/-- If calls are taken to their end, none of them has stopped the harvest. -/
theorem not_stops_of_addCalls {ss : List Statement}
    (hr : (h.addCalls facts calls).result = .ok ss) : ∀ c ∈ calls, ¬c.Stops h.group := by
  induction calls generalizing h ss with
  | nil => simp
  | cons c calls ih =>
      have hc : ¬c.Stops h.group := by
        intro hstops
        obtain ⟨failure, hfailure⟩ := addCall_of_stops facts hstops
        rw [addCalls, hfailure] at hr
        simp at hr
      rw [addCalls, addCall_eq hc] at hr
      obtain ⟨others, hothers, -⟩ := map_eq_ok_iff.1 hr
      have hrest : ((h.afterCalls facts [c]).addCalls facts calls).result = .ok others := hothers
      have hcalls := ih hrest
      exact List.forall_mem_cons.2 ⟨hc, hcalls⟩

end Harvest

end LogHarvest
