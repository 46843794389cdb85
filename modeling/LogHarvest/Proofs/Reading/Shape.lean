import LogHarvest.Proofs.LogReader
import LogHarvest.Proofs.Pattern.Captures

/-!
# The shape of readings

A message is read by the first statement that serves its class and matches it, and the fields of
the reading are that statement's: class and pattern are there together, and there is one capture for
each group. The level is not the reader's to know; a log line adds it to the readings that were
matched.
-/

namespace LogHarvest

namespace Reading

variable {ss : List Statement} {message clazz : Text} {r : Reading}

/-- The fields of a reading fit together, and are those of one of some statements if any. -/
structure WellFormed (ss : List Statement) (r : Reading) : Prop where
  clazz : r.clazz.isSome = r.pattern.isSome
  unmatched : r.isMatched = false → r.captures = none
  matched : r.isMatched = true → ∃ s ∈ ss, r.clazz = some s.clazz ∧
    r.pattern = some s.pattern.source ∧
    r.captures.map List.length =
      if s.pattern.groupCount = 0 then none else some s.pattern.groupCount

theorem wellFormed_bare (ss : List Statement) (message : Text) : (bare message).WellFormed ss :=
  ⟨rfl, fun _ => rfl, fun h => by simp [isMatched, bare] at h⟩

theorem wellFormed_ofMatch {s : Statement} (hs : s ∈ ss) {groups : List (Option Text)}
    (h : s.pattern.fullMatch? message = some groups) :
    (ofMatch message s groups).WellFormed ss := by
  refine ⟨rfl, fun h => by simp [isMatched_ofMatch] at h, fun _ => ⟨s, hs, rfl, rfl, ?_⟩⟩
  have hlength := Pattern.length_of_fullMatch? h
  by_cases hcount : s.pattern.groupCount = 0
  · simp [ofMatch, hcount]
  · simp [ofMatch, hcount, Nat.pos_of_ne_zero hcount, hlength]

/-- The level is free. -/
theorem WellFormed.withLevel (h : r.WellFormed ss) (level : Option Text) :
    WellFormed ss { r with level := level } :=
  ⟨h.clazz, h.unmatched, h.matched⟩

/-- Among some statements the first that serves a class and matches a message, with its groups. -/
def IsWinner (ss : List Statement) (message clazz : Text) (s : Statement)
    (groups : List (Option Text)) : Prop :=
  s.clazz = Statement.servingClass ss clazz ∧ s.pattern.fullMatch? message = some groups ∧
    ∃ before later, ss = before ++ s :: later ∧
      ∀ other ∈ before, other.clazz = Statement.servingClass ss clazz → ¬other.Matches message

theorem IsWinner.mem {s : Statement} {groups : List (Option Text)}
    (h : IsWinner ss message clazz s groups) : s ∈ ss := by
  obtain ⟨-, -, before, later, rfl, -⟩ := h
  simp

/-- The candidates of a class keep the order of all statements, so the first among them is the first
of all that serves the class. -/
theorem isWinner_of_candidates {before later : List Statement} {s : Statement}
    {groups : List (Option Text)}
    (hss : Statement.ofClass (Statement.servingClass ss clazz) ss = before ++ s :: later)
    (hbefore : ∀ other ∈ before, ¬other.Matches message)
    (hgroups : s.pattern.fullMatch? message = some groups) :
    IsWinner ss message clazz s groups := by
  have hclazz : s.clazz = Statement.servingClass ss clazz :=
    (Statement.mem_ofClass.1 (by rw [hss]; simp)).2
  rw [Statement.ofClass] at hss
  obtain ⟨front, back, rfl, hfront, hback⟩ := List.filter_eq_append_iff.1 hss
  obtain ⟨skipped, rest, rfl, hskipped, -, -⟩ := List.filter_eq_cons_iff.1 hback
  refine ⟨hclazz, hgroups, front ++ skipped, rest, by simp, fun other hother hserves => ?_⟩
  obtain hother | hother := List.mem_append.1 hother
  · refine hbefore other ?_
    rw [← hfront]
    exact List.mem_filter.2 ⟨hother, by simpa using hserves⟩
  · exact absurd (by simpa using hserves) (hskipped other hother)

/-- A message is read by the first of some statements that matches it. -/
theorem ofCandidates_append_cons {before : List Statement} {s : Statement}
    {groups : List (Option Text)} (hbefore : ∀ other ∈ before, ¬other.Matches message)
    (hgroups : s.pattern.fullMatch? message = some groups) (later : List Statement) :
    ofCandidates message (before ++ s :: later) = ofMatch message s groups := by
  induction before with
  | nil => rw [List.nil_append, ofCandidates, hgroups]
  | cons other before ih =>
      obtain ⟨hother, hbefore⟩ := List.forall_mem_cons.1 hbefore
      rw [List.cons_append, ofCandidates_cons_of_not_matches hother, ih hbefore]

/-- The winner reads the message. -/
theorem IsWinner.ofMessage?_eq {s : Statement} {groups : List (Option Text)}
    (h : IsWinner ss message clazz s groups) :
    ofMessage? (Store.ofList ss) message clazz = some (ofMatch message s groups) := by
  obtain ⟨hclazz, hgroups, before, later, rfl, hbefore⟩ := h
  let serving := Statement.servingClass (before ++ s :: later) clazz
  have hcandidates : (Store.ofList (before ++ s :: later)).candidates clazz =
      Statement.ofClass serving before ++ s :: Statement.ofClass serving later := by
    rw [Store.candidates_ofList, Statement.ofClass, List.filter_append,
      List.filter_cons_of_pos (by simpa using hclazz)]
    rfl
  have hnone : ∀ other ∈ Statement.ofClass serving before, ¬other.Matches message := by
    intro other hother
    obtain ⟨hmem, hserves⟩ := Statement.mem_ofClass.1 hother
    exact hbefore other hmem hserves
  have hread := ofCandidates_append_cons hnone hgroups (Statement.ofClass serving later)
  rw [← hcandidates] at hread
  rw [ofMessage?, ← hread]
  split
  · next hnil => simp [hnil] at hcandidates
  · rfl

/-! ### Reading one message -/

theorem ofMessage?_eq_none_iff : ofMessage? (Store.ofList ss) message clazz = none ↔
    ∀ s ∈ ss, s.clazz ≠ clazz ∧ s.clazz ≠ Statement.defaultClass := by
  rw [← Statement.ofClass_servingClass_eq_nil_iff, ofMessage?, Store.candidates_ofList]
  cases Statement.ofClass (Statement.servingClass ss clazz) ss with
  | nil => simp
  | cons s rest => simp

/-- A message that is read is read by the winner, or else no statement that serves its class matches
it. -/
theorem cases_of_ofMessage? (h : ofMessage? (Store.ofList ss) message clazz = some r) :
    ((∀ s ∈ ss, s.clazz = Statement.servingClass ss clazz → ¬s.Matches message) ∧
      r = bare message) ∨
    ∃ s groups, IsWinner ss message clazz s groups ∧ r = ofMatch message s groups := by
  have hr : r = ofCandidates message
      (Statement.ofClass (Statement.servingClass ss clazz) ss) := by
    rw [ofMessage?, Store.candidates_ofList] at h
    split at h
    · simp at h
    · exact (Option.some.inj h).symm
  rw [hr]
  obtain ⟨hnone, hbare⟩ | ⟨before, s, later, groups, hss, hbefore, hgroups, hmatch⟩ :=
    ofCandidates_cases message (Statement.ofClass (Statement.servingClass ss clazz) ss)
  · exact .inl ⟨fun s hs hserves => hnone s (Statement.mem_ofClass.2 ⟨hs, hserves⟩), hbare⟩
  · exact .inr ⟨s, groups, isWinner_of_candidates hss hbefore hgroups, hmatch⟩

theorem wellFormed_of_ofMessage? (h : ofMessage? (Store.ofList ss) message clazz = some r) :
    r.WellFormed ss := by
  obtain ⟨-, rfl⟩ | ⟨s, groups, hwinner, rfl⟩ := cases_of_ofMessage? h
  · exact wellFormed_bare ss message
  · exact wellFormed_ofMatch hwinner.mem hwinner.2.1

theorem level_of_ofMessage? (h : ofMessage? (Store.ofList ss) message clazz = some r) :
    r.level = none := by
  obtain ⟨-, rfl⟩ | ⟨s, groups, -, rfl⟩ := cases_of_ofMessage? h
  · rfl
  · rfl

end Reading

/-! ### Reading lines -/

namespace LogReader

variable {ss : List Statement} {reader : LogReader} {r : Reading}

/-- A reading that a line leaves is well formed, and has a level exactly if it was matched. -/
theorem wellFormed_of_readLine {line : Text} (hstore : reader.store = Store.ofList ss)
    (h : (reader.readLine line).1 = some r) :
    r.WellFormed ss ∧ (r.level.isSome = true ↔ r.isMatched = true) := by
  rw [readLine_fst, hstore] at h
  obtain ⟨l, -, h⟩ := Option.bind_eq_some_iff.1 h
  obtain ⟨read, hread, rfl⟩ := Option.map_eq_some_iff.1 h
  have hformed := Reading.wellFormed_of_ofMessage? hread
  have hlevel := Reading.level_of_ofMessage? hread
  by_cases hmatched : read.isMatched = true
  · rw [if_pos hmatched]
    exact ⟨hformed.withLevel _, by simpa [Reading.isMatched] using hmatched⟩
  · rw [if_neg hmatched]
    exact ⟨hformed, by simp [hlevel, hmatched]⟩

/-- So are all readings that lines leave, however many were read before them. -/
theorem wellFormed_of_readLines {lines : List Text} (hstore : reader.store = Store.ofList ss)
    (h : r ∈ (reader.readLines lines).1) :
    r.WellFormed ss ∧ (r.level.isSome = true ↔ r.isMatched = true) := by
  induction lines generalizing reader with
  | nil => simp [readLines] at h
  | cons line lines ih =>
      obtain hfirst | hrest := List.mem_append.1 h
      · exact wellFormed_of_readLine hstore (Option.mem_toList.1 hfirst)
      · exact ih ((readLine_store reader line).trans hstore) hrest

/-- With the store of some statements a message of a class is left without a reading exactly if
there is no statement of the class and none of the default class. Otherwise it is matched exactly if
one of the statements that serve the class matches it, and then read by the first of these. Whatever
is read, from a message or from any run of lines, is well formed, and a reading from a line has a
level exactly if it was matched. -/
theorem winner_and_shape (ss : List Statement) :
    (∀ message clazz, Reading.ofMessage? (Store.ofList ss) message clazz = none ↔
      ∀ s ∈ ss, s.clazz ≠ clazz ∧ s.clazz ≠ Statement.defaultClass) ∧
    (∀ message clazz r, Reading.ofMessage? (Store.ofList ss) message clazz = some r →
      r.message = message ∧
      (r.isMatched = true ↔
        ∃ s ∈ ss, s.clazz = Statement.servingClass ss clazz ∧ s.Matches message) ∧
      (r.isMatched = true → ∃ s groups, Reading.IsWinner ss message clazz s groups ∧
        r.clazz = some s.clazz ∧ r.pattern = some s.pattern.source ∧
        r.captures = if s.pattern.groupCount = 0 then none else some groups) ∧
      r.WellFormed ss ∧ r.level = none) ∧
    ∀ tally,
      (∀ line r, ((LogReader.mk (Store.ofList ss) tally).readLine line).1 = some r →
        r.WellFormed ss ∧ (r.level.isSome = true ↔ r.isMatched = true)) ∧
      ∀ lines, ∀ r ∈ ((LogReader.mk (Store.ofList ss) tally).readLines lines).1,
        r.WellFormed ss ∧ (r.level.isSome = true ↔ r.isMatched = true) := by
  refine ⟨fun message clazz => Reading.ofMessage?_eq_none_iff, fun message clazz r hr => ?_,
    fun tally => ⟨fun line r => wellFormed_of_readLine rfl,
      fun lines r => wellFormed_of_readLines rfl⟩⟩
  have hformed := Reading.wellFormed_of_ofMessage? hr
  obtain ⟨hnone, rfl⟩ | ⟨s, groups, hwinner, rfl⟩ := Reading.cases_of_ofMessage? hr
  · have hbare : (Reading.bare message).isMatched = false := rfl
    refine ⟨rfl, ?_, by simp [hbare], hformed, rfl⟩
    simp only [hbare, Bool.false_eq_true, false_iff, not_exists, not_and]
    exact hnone
  · have hmatches : s.Matches message := Option.isSome_iff_exists.2 ⟨groups, hwinner.2.1⟩
    refine ⟨rfl, ?_, fun _ => ⟨s, groups, hwinner, rfl, rfl, ?_⟩, hformed, rfl⟩
    · simp only [Reading.isMatched_ofMatch, true_iff]
      exact ⟨s, hwinner.mem, hwinner.1, hmatches⟩
    · by_cases hcount : s.pattern.groupCount = 0
      · simp [Reading.ofMatch, hcount]
      · simp [Reading.ofMatch, hcount, Nat.pos_of_ne_zero hcount]

/-- Two statements of the default class that match the same messages, after one of another class. -/
def sameTwice : List Statement :=
  [⟨['i'], ['A'], Template.pattern (Text.ofString "\x7b\x7d")⟩,
    ⟨['w'], Statement.defaultClass, Template.pattern (Text.ofString "b \x7b\x7d")⟩,
    ⟨['e'], Statement.defaultClass, Template.pattern (Text.ofString "b \x7b\x7d")⟩]

/-- A class without statements is served by the first of the two, which captures one text. -/
theorem winner_and_shape_sameTwice :
    ∃ r, Reading.ofMessage? (Store.ofList sameTwice) (Text.ofString "b x") ['Z'] = some r ∧
      r.captures = some [some (Text.ofString "x")] ∧ r.WellFormed sameTwice ∧
      (∃ s groups, Reading.IsWinner sameTwice (Text.ofString "b x") ['Z'] s groups ∧
        r.clazz = some s.clazz) ∧
      ∃ r', ((ofStore (Store.ofList sameTwice)).readLine
          (Text.ofString "t | INFO | h | Z | o | b x")).1 = some r' ∧
        r'.level = some (Text.ofString "info") ∧ r'.isMatched = true := by
  obtain ⟨-, hmessage, hlines⟩ := winner_and_shape sameTwice
  have hread : Reading.ofMessage? (Store.ofList sameTwice) (Text.ofString "b x") ['Z'] =
      some ⟨Text.ofString "b x", some Statement.defaultClass,
        some (Template.pattern (Text.ofString "b \x7b\x7d")).source,
        some [some (Text.ofString "x")], none⟩ := by
    decide +kernel
  have hline : ((ofStore (Store.ofList sameTwice)).readLine
      (Text.ofString "t | INFO | h | Z | o | b x")).1 =
      some ⟨Text.ofString "b x", some Statement.defaultClass,
        some (Template.pattern (Text.ofString "b \x7b\x7d")).source,
        some [some (Text.ofString "x")], some (Text.ofString "info")⟩ := by
    decide +kernel
  obtain ⟨-, -, hwinner, hformed, -⟩ := hmessage _ _ _ hread
  obtain ⟨s, groups, hs, hclazz, -⟩ := hwinner rfl
  have hlevel := ((hlines Tally.zero).1 _ _ hline).2
  exact ⟨_, hread, rfl, hformed, ⟨s, groups, hs, hclazz⟩, _, hline, rfl, hlevel.1 rfl⟩

end LogReader

end LogHarvest
