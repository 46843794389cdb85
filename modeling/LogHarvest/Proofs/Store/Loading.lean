import LogHarvest.Proofs.Statement
import LogHarvest.Proofs.Success
import LogHarvest.Store

/-!
# Which records a store takes

Every line of a pattern file is taken for itself: it says a statement, or it has three fields and
a pattern that is refused, or it says nothing. A pattern whose syntax is wrong costs one warning
and the record; the other records are filed as if it were not there. A pattern that is refused for
one of its numbers, or for modes that exclude each other, ends the loading instead, and with it
go the records after it.
-/

namespace LogHarvest

/-- A refusal for the syntax of a pattern: the kind that a reader of records gets over. -/
def Pattern.Refusal.isMalformed : Pattern.Refusal → Bool
  | .malformed _ _ => true
  | .repeatTooLarge | .codeTooLarge | .flagsClash => false

/-- A pattern keeps the text that it was read from. -/
theorem Pattern.source_of_read {source : Text} {p : Pattern} (h : Pattern.read source = .ok p) :
    p.source = source := by
  rw [Pattern.read] at h
  obtain ⟨-, -, h⟩ := bind_eq_ok_iff.1 h
  obtain ⟨⟨expr, s⟩, -, h⟩ := bind_eq_ok_iff.1 h
  obtain ⟨-, -, h⟩ := bind_eq_ok_iff.1 h
  exact (Except.ok.inj h) ▸ rfl

namespace Statement

/-! ### What a line says -/

/-- The statement that a line says: it has three fields, and the last of them is a pattern. -/
def said? (line : Text) : Option Statement :=
  match Text.splitOn columnBar line.dropLineEnd with
  | [level, clazz, source] => (Pattern.read source).toOption.map fun p => ⟨level, clazz, p⟩
  | _ => none

/-- Why the last of the three fields of a line is no pattern. -/
def refusal? (line : Text) : Option Pattern.Refusal :=
  match Text.splitOn columnBar line.dropLineEnd with
  | [_, _, source] =>
    match Pattern.read source with
    | .ok _ => none
    | .error refusal => some refusal
  | _ => none

/-- A line is read for what it says, or refused for what its pattern is refused for. -/
theorem ofRecord?_cases (line : Text) :
    (refusal? line = none ∧ ofRecord? line = .ok (said? line)) ∨
    ∃ refusal, refusal? line = some refusal ∧ ofRecord? line = .error refusal ∧
      said? line = none := by
  unfold refusal? ofRecord? said?
  generalize Text.splitOn columnBar line.dropLineEnd = fields
  rcases fields with _ | ⟨level, _ | ⟨clazz, _ | ⟨source, _ | ⟨more, rest⟩⟩⟩⟩
  · exact .inl ⟨rfl, rfl⟩
  · exact .inl ⟨rfl, rfl⟩
  · exact .inl ⟨rfl, rfl⟩
  · dsimp only
    cases Pattern.read source with
    | ok p => exact .inl ⟨rfl, rfl⟩
    | error refusal => exact .inr ⟨refusal, rfl, rfl, rfl⟩
  · exact .inl ⟨rfl, rfl⟩

theorem ofRecord?_of_refusal?_eq_none {line : Text} (h : refusal? line = none) :
    ofRecord? line = .ok (said? line) := by
  obtain ⟨-, hrecord⟩ | ⟨refusal, hrefusal, -⟩ := ofRecord?_cases line
  · exact hrecord
  · simp [h] at hrefusal

theorem ofRecord?_of_refusal?_eq_some {line : Text} {refusal : Pattern.Refusal}
    (h : refusal? line = some refusal) :
    ofRecord? line = .error refusal ∧ said? line = none := by
  obtain ⟨hnone, -⟩ | ⟨refusal', hrefusal, hrecord⟩ := ofRecord?_cases line
  · simp [h] at hnone
  · obtain rfl := Option.some.inj (h.symm.trans hrefusal)
    exact hrecord

/-- A reader of records gets over a line: if its pattern is refused, then for its syntax. -/
def Passable (line : Text) : Prop := ∀ refusal ∈ refusal? line, refusal.isMalformed = true

theorem refusal?_of_isSome_said? {line : Text} (h : (said? line).isSome) :
    refusal? line = none := by
  cases hrefusal : refusal? line with
  | none => rfl
  | some refusal =>
      rw [(ofRecord?_of_refusal?_eq_some hrefusal).2] at h
      simp at h

/-- What a line says keeps clear of the separators of records, because they separate its parts. -/
theorem recordable_of_said? {line : Text} {s : Statement} (hline : line.IsLine)
    (hscalar : ∀ c ∈ line, c.IsScalar) (h : said? line = some s) : s.Recordable ∧ s.Writable := by
  unfold said? at h
  split at h
  · next level clazz source hsplit =>
    obtain ⟨p, hp, rfl⟩ := Option.map_eq_some_iff.1 h
    have hread : Pattern.read source = .ok p := toOption_eq_some_iff.1 hp
    have hsource := Pattern.source_of_read hread
    have hparts : parts ⟨level, clazz, p⟩ = Text.splitOn columnBar line.dropLineEnd := by
      rw [hsplit, parts, hsource]
    have hmem {part : Text} {c : Code} (hpart : part ∈ parts ⟨level, clazz, p⟩) (hc : c ∈ part) :
        c ∈ line :=
      Text.mem_of_mem_dropRightWhile (Text.mem_of_mem_splitOn (hparts ▸ hpart) hc)
    have hwritable : Writable ⟨level, clazz, p⟩ := fun part hpart c hc =>
      hscalar c (hmem hpart hc)
    have hseparable : Separable ⟨level, clazz, p⟩ := fun part hpart =>
      ⟨Text.sep_notMem_of_mem_splitOn (hparts ▸ hpart),
        ⟨fun hc => hline.noReturn (hmem hpart hc), fun hc => hline.noFeed (hmem hpart hc)⟩⟩
    exact ⟨hseparable.recordable hwritable (hsource ▸ hread), hwritable⟩
  · simp at h

theorem refusal?_toRecord {s : Statement} (h : s.Recordable) : refusal? s.toRecord = none := by
  cases hrefusal : refusal? s.toRecord with
  | none => rfl
  | some refusal =>
      have herror := (ofRecord?_of_refusal?_eq_some hrefusal).1
      rw [ofRecord?_toRecord h] at herror
      simp at herror

theorem said?_toRecord {s : Statement} (h : s.Recordable) : said? s.toRecord = some s := by
  have hrecord := ofRecord?_of_refusal?_eq_none (refusal?_toRecord h)
  rw [ofRecord?_toRecord h] at hrecord
  exact (Except.ok.inj hrecord).symm

end Statement

namespace Store

open Statement (said? refusal? Passable)

/-! ### What lines say together -/

/-- The statements that lines say, in their order. -/
def statementsOf (lines : List Text) : List Statement := lines.filterMap said?

/-- What is reported about lines that are numbered from some number on: one warning for each that
has three fields and no pattern in the last. -/
def reportsFrom (number : Nat) (lines : List Text) : List Notice :=
  (lines.zipIdx number).filterMap fun l => (refusal? l.1).map (badRecord l.2 l.1)

theorem statementsOf_cons (line : Text) (lines : List Text) :
    statementsOf (line :: lines) = (said? line).toList ++ statementsOf lines := by
  cases h : said? line <;> simp [statementsOf, h]

theorem reportsFrom_cons (number : Nat) (line : Text) (lines : List Text) :
    reportsFrom number (line :: lines) =
      ((refusal? line).map (badRecord number line)).toList ++ reportsFrom (number + 1) lines := by
  cases h : refusal? line <;> simp [reportsFrom, h]

theorem reportsFrom_eq_nil {lines : List Text} (h : ∀ line ∈ lines, refusal? line = none)
    (number : Nat) : reportsFrom number lines = [] := by
  induction lines generalizing number with
  | nil => rfl
  | cons line lines ih =>
      obtain ⟨hline, hlines⟩ := List.forall_mem_cons.1 h
      rw [reportsFrom_cons, hline, ih hlines]
      rfl

/-- Lines that say nothing leave no trace among the statements. -/
theorem statementsOf_filter (lines : List Text) :
    statementsOf (lines.filter fun line => (said? line).isSome) = statementsOf lines := by
  rw [statementsOf, List.filterMap_filter]
  refine List.filterMap_congr fun line _ => ?_
  cases said? line <;> rfl

/-- The step of a load over a line that it gets over. -/
theorem addRecords_cons {line : Text} (h : Passable line) (store : Store) (number : Nat)
    (lines : List Text) :
    addRecords store number (line :: lines) =
      (((refusal? line).map (badRecord number line)).toList ++
          (addRecords (store.addAll (said? line).toList) (number + 1) lines).1,
        (addRecords (store.addAll (said? line).toList) (number + 1) lines).2) := by
  cases hrefusal : refusal? line with
  | none =>
      rw [addRecords, Statement.ofRecord?_of_refusal?_eq_none hrefusal]
      cases said? line <;> rfl
  | some refusal =>
      obtain ⟨hrecord, hsaid⟩ := Statement.ofRecord?_of_refusal?_eq_some hrefusal
      cases refusal with
      | malformed cause place =>
          rw [addRecords, hrecord, hsaid]
          rfl
      | _ => exact absurd (h _ hrefusal) (by simp [Pattern.Refusal.isMalformed])

/-- Lines that a load gets over add their statements and leave their reports. -/
theorem addRecords_append {before : List Text} (h : ∀ line ∈ before, Passable line) (store : Store)
    (number : Nat) (later : List Text) :
    addRecords store number (before ++ later) =
      (reportsFrom number before ++
          (addRecords (store.addAll (statementsOf before)) (number + before.length) later).1,
        (addRecords (store.addAll (statementsOf before)) (number + before.length) later).2) := by
  induction before generalizing store number with
  | nil => simp [reportsFrom, statementsOf, addAll]
  | cons line before ih =>
      obtain ⟨hline, hbefore⟩ := List.forall_mem_cons.1 h
      have hstatements : (store.addAll (said? line).toList).addAll (statementsOf before) =
          store.addAll (statementsOf (line :: before)) := by
        rw [statementsOf_cons, addAll, addAll, addAll, List.foldl_append]
      have hnumber : number + 1 + before.length = number + (line :: before).length := by
        rw [List.length_cons]
        omega
      rw [List.cons_append, addRecords_cons hline, ih hbefore, hstatements, hnumber,
        reportsFrom_cons, List.append_assoc]

/-- A load that gets over every line files the statements that the lines say. -/
theorem ofRecords_eq {lines : List Text} (h : ∀ line ∈ lines, Passable line) :
    ofRecords lines = (reportsFrom 1 lines, .ok (ofList (statementsOf lines))) := by
  have hall := addRecords_append h empty 1 []
  rw [List.append_nil] at hall
  rw [ofRecords, hall]
  simp only [addRecords, List.append_nil]
  rfl

/-- The records of some statements are read as the store of the statements. -/
theorem ofRecords_map_toRecord {ss : List Statement} (h : ∀ s ∈ ss, s.Recordable) :
    ofRecords (ss.map Statement.toRecord) = ([], .ok (ofList ss)) := by
  have hnone : ∀ line ∈ ss.map Statement.toRecord, refusal? line = none :=
    List.forall_mem_map.2 fun s hs => Statement.refusal?_toRecord (h s hs)
  have hstatements : statementsOf (ss.map Statement.toRecord) = ss := by
    rw [statementsOf, List.filterMap_map]
    exact (List.filterMap_congr fun s hs => Statement.said?_toRecord (h s hs)).trans
      (List.filterMap_some)
  rw [ofRecords_eq fun line hline => by simp [Passable, hnone line hline],
    reportsFrom_eq_nil hnone, hstatements]

/-- The first line that a load does not get over ends it. -/
theorem ofRecords_append_cons {before : List Text} (h : ∀ line ∈ before, Passable line)
    {line : Text} {refusal : Pattern.Refusal} (hline : refusal? line = some refusal)
    (hrefusal : refusal.isMalformed = false) (later : List Text) :
    ofRecords (before ++ line :: later) = (reportsFrom 1 before, .error refusal) := by
  have hend (store : Store) (number : Nat) :
      addRecords store number (line :: later) = ([], .error refusal) := by
    rw [addRecords, (Statement.ofRecord?_of_refusal?_eq_some hline).1]
    cases refusal with
    | malformed cause place => simp [Pattern.Refusal.isMalformed] at hrefusal
    | _ => rfl
  rw [ofRecords, addRecords_append h, hend, List.append_nil]

/-- Either a load gets over every line, or there is a first one that it does not get over. -/
theorem passable_or_exists_first (lines : List Text) :
    (∀ line ∈ lines, Passable line) ∨
      ∃ before line later refusal, lines = before ++ line :: later ∧
        (∀ line ∈ before, Passable line) ∧ refusal? line = some refusal ∧
        refusal.isMalformed = false := by
  induction lines with
  | nil => exact .inl (by simp)
  | cons line lines ih =>
      by_cases hline : Passable line
      · obtain hall | ⟨before, other, later, refusal, rfl, hbefore, hother, hrefusal⟩ := ih
        · exact .inl (List.forall_mem_cons.2 ⟨hline, hall⟩)
        · exact .inr ⟨line :: before, other, later, refusal, rfl,
            List.forall_mem_cons.2 ⟨hline, hbefore⟩, hother, hrefusal⟩
      · obtain ⟨refusal, hrefusal, hfatal⟩ : ∃ refusal, refusal? line = some refusal ∧
            refusal.isMalformed = false := by
          simpa [Passable] using hline
        exact .inr ⟨[], line, lines, refusal, rfl, by simp, hrefusal, hfatal⟩

/-- A load that comes to its end has filed what the lines say. -/
theorem eq_ofList_of_ofRecords {lines : List Text} {store : Store} {notices : List Notice}
    (h : ofRecords lines = (notices, .ok store)) : store = ofList (statementsOf lines) := by
  obtain hall | ⟨before, line, later, refusal, rfl, hbefore, hline, hrefusal⟩ :=
    passable_or_exists_first lines
  · rw [ofRecords_eq hall] at h
    exact (Except.ok.inj (Prod.mk.inj h).2).symm
  · rw [ofRecords_append_cons hbefore hline hrefusal] at h
    simp at h

/-- A statement, a line of two fields, a pattern whose group is not closed, and a statement. -/
def fourLines : List Text :=
  ["info|Foo|b", "info|Foo", "warn|Foo|(b", "info|Foo|c"].map Text.ofString

end Store

end LogHarvest
