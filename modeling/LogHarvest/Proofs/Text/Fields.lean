import LogHarvest.Text.Code

/-!
# Fields between separators

Fields that are free of a separator are found again when the text that joins them is split.
A text is also put together from its fields alone, so no field holds a code that the text does
not hold.
-/

namespace LogHarvest.Text

variable {sep : Code}

theorem splitOn_ne_nil (sep : Code) (t : Text) : splitOn sep t ≠ [] := by
  cases t with
  | nil => simp [splitOn]
  | cons c rest =>
      unfold splitOn
      split
      · simp
      · split <;> simp

theorem splitOn_cons_ne {c : Code} {rest field : Text} {fields : List Text} (hc : c ≠ sep)
    (h : splitOn sep rest = field :: fields) :
    splitOn sep (c :: rest) = (c :: field) :: fields := by
  rw [splitOn, if_neg hc, h]

theorem splitOn_of_notMem {t : Text} (h : sep ∉ t) : splitOn sep t = [t] := by
  induction t with
  | nil => rfl
  | cons c rest ih =>
      obtain ⟨hc, hrest⟩ := List.ne_and_not_mem_of_not_mem_cons h
      exact splitOn_cons_ne (Ne.symm hc) (ih hrest)

/-- Splitting takes one field at a time off the front. -/
theorem splitOn_append {field : Text} (h : sep ∉ field) (rest : Text) :
    splitOn sep (field ++ sep :: rest) = field :: splitOn sep rest := by
  induction field with
  | nil => simp [splitOn]
  | cons c field ih =>
      obtain ⟨hc, hfield⟩ := List.ne_and_not_mem_of_not_mem_cons h
      exact splitOn_cons_ne (Ne.symm hc) (ih hfield)

theorem join_cons_cons (sep field next : Text) (fields : List Text) :
    join sep (field :: next :: fields) = field ++ sep ++ join sep (next :: fields) := rfl

/-- What a text is joined from begins it. -/
theorem isPrefix_join (sep field : Text) (fields : List Text) :
    field <+: join sep (field :: fields) := by
  cases fields with
  | nil => exact List.prefix_refl field
  | cons next fields =>
      rw [join_cons_cons, List.append_assoc]
      exact List.prefix_append field _

theorem join_append_cons (sep before field : Text) (fields : List Text) :
    join sep ((before ++ field) :: fields) = before ++ join sep (field :: fields) := by
  cases fields with
  | nil => rfl
  | cons next fields => simp only [join_cons_cons, List.append_assoc]

theorem join_append (sep : Text) {first second : List Text} (hfirst : first ≠ [])
    (hsecond : second ≠ []) :
    join sep (first ++ second) = join sep first ++ sep ++ join sep second := by
  induction first with
  | nil => exact absurd rfl hfirst
  | cons field first ih =>
      cases first with
      | nil =>
          obtain ⟨next, fields, rfl⟩ := List.exists_cons_of_ne_nil hsecond
          rfl
      | cons next first =>
          rw [List.cons_append, List.cons_append, join_cons_cons, ← List.cons_append,
            ih (List.cons_ne_nil _ _), join_cons_cons]
          simp only [List.append_assoc]

theorem splitOn_join {fields : List Text} (hne : fields ≠ []) (h : ∀ field ∈ fields, sep ∉ field) :
    splitOn sep (join [sep] fields) = fields := by
  induction fields with
  | nil => exact absurd rfl hne
  | cons field fields ih =>
      have hfield : sep ∉ field := h field (by simp)
      cases fields with
      | nil => exact splitOn_of_notMem hfield
      | cons next fields =>
          have hrest := ih (by simp) fun f hf => h f (by simp [hf])
          rw [join_cons_cons, List.append_assoc, List.singleton_append, splitOn_append hfield,
            hrest]

theorem join_splitOn (sep : Code) (t : Text) : join [sep] (splitOn sep t) = t := by
  induction t with
  | nil => rfl
  | cons c rest ih =>
      obtain ⟨field, fields, hrest⟩ := List.exists_cons_of_ne_nil (splitOn_ne_nil sep rest)
      rw [hrest] at ih
      by_cases hc : c = sep
      · rw [splitOn, if_pos hc, hrest, join_cons_cons, ih, hc]
        rfl
      · rw [splitOn_cons_ne hc hrest]
        cases fields with
        | nil => exact congrArg (c :: ·) ih
        | cons next fields => exact congrArg (c :: ·) ih

theorem splitOn_append_cons (sep : Code) (s t : Text) :
    splitOn sep (s ++ sep :: t) = splitOn sep s ++ splitOn sep t := by
  induction s with
  | nil => simp [splitOn]
  | cons c rest ih =>
      by_cases hc : c = sep
      · rw [List.cons_append, splitOn, if_pos hc, ih, splitOn, if_pos hc, List.cons_append]
      · obtain ⟨field, fields, hrest⟩ := List.exists_cons_of_ne_nil (splitOn_ne_nil sep rest)
        rw [hrest] at ih
        rw [List.cons_append, splitOn_cons_ne hc ih, splitOn_cons_ne hc hrest]
        rfl

/-- What comes after the last separator of a text goes on with a text that has none. -/
theorem exists_splitOn_append (s : Text) {t : Text} (h : sep ∉ t) :
    ∃ fields last, splitOn sep s = fields ++ [last] ∧
      splitOn sep (s ++ t) = fields ++ [last ++ t] := by
  induction s with
  | nil => exact ⟨[], [], rfl, splitOn_of_notMem h⟩
  | cons c rest ih =>
      obtain ⟨fields, last, hrest, happend⟩ := ih
      by_cases hc : c = sep
      · refine ⟨[] :: fields, last, ?_, ?_⟩
        · rw [splitOn, if_pos hc, hrest, List.cons_append]
        · rw [List.cons_append, splitOn, if_pos hc, happend, List.cons_append]
      · cases fields with
        | nil => exact ⟨[], c :: last, splitOn_cons_ne hc hrest, splitOn_cons_ne hc happend⟩
        | cons field fields =>
            exact ⟨(c :: field) :: fields, last, splitOn_cons_ne hc hrest,
              splitOn_cons_ne hc happend⟩

/-- A text has one field more than it has separators. -/
theorem length_splitOn (sep : Code) (t : Text) : (splitOn sep t).length = t.count sep + 1 := by
  induction t with
  | nil => rfl
  | cons c rest ih =>
      by_cases hc : c = sep
      · rw [splitOn, if_pos hc, List.length_cons, ih, hc, List.count_cons_self]
      · obtain ⟨field, fields, hrest⟩ := List.exists_cons_of_ne_nil (splitOn_ne_nil sep rest)
        rw [hrest] at ih
        rw [splitOn_cons_ne hc hrest, List.count_cons_of_ne hc]
        exact ih

theorem mem_join {sep : Text} {fields : List Text} {c : Code} (h : c ∈ join sep fields) :
    c ∈ sep ∨ ∃ field ∈ fields, c ∈ field := by
  induction fields with
  | nil => simp [join] at h
  | cons field fields ih =>
      cases fields with
      | nil => exact .inr ⟨field, by simp, h⟩
      | cons next fields =>
          rw [join_cons_cons, List.mem_append, List.mem_append] at h
          obtain (hc | hc) | hc := h
          · exact .inr ⟨field, by simp, hc⟩
          · exact .inl hc
          · obtain hsep | ⟨f, hf, hcf⟩ := ih hc
            · exact .inl hsep
            · exact .inr ⟨f, by simp [hf], hcf⟩

theorem mem_join_of_mem {sep field : Text} {fields : List Text} {c : Code} (h : field ∈ fields)
    (hc : c ∈ field) : c ∈ join sep fields := by
  induction fields with
  | nil => simp at h
  | cons first fields ih =>
      cases fields with
      | nil =>
          obtain rfl := List.mem_singleton.1 h
          exact hc
      | cons next fields =>
          rw [join_cons_cons, List.mem_append, List.mem_append]
          obtain rfl | h := List.mem_cons.1 h
          · exact .inl (.inl hc)
          · exact .inr (ih h)

theorem mem_of_mem_splitOn {t field : Text} {c : Code} (h : field ∈ splitOn sep t)
    (hc : c ∈ field) : c ∈ t := by
  induction t generalizing field with
  | nil => simp_all [splitOn]
  | cons d rest ih =>
      by_cases hd : d = sep
      · rw [splitOn, if_pos hd, List.mem_cons] at h
        obtain rfl | h := h
        · simp at hc
        · exact List.mem_cons_of_mem d (ih h hc)
      · obtain ⟨first, fields, hrest⟩ := List.exists_cons_of_ne_nil (splitOn_ne_nil sep rest)
        rw [splitOn_cons_ne hd hrest, List.mem_cons] at h
        obtain rfl | h := h
        · obtain rfl | hc := List.mem_cons.1 hc
          · simp
          · exact List.mem_cons_of_mem d (ih (by simp [hrest]) hc)
        · exact List.mem_cons_of_mem d (ih (by simp [hrest, h]) hc)

theorem sep_notMem_of_mem_splitOn {t field : Text} (h : field ∈ splitOn sep t) : sep ∉ field := by
  induction t generalizing field with
  | nil => simp_all [splitOn]
  | cons c rest ih =>
      by_cases hc : c = sep
      · rw [splitOn, if_pos hc, List.mem_cons] at h
        obtain rfl | h := h
        · simp
        · exact ih h
      · obtain ⟨first, fields, hrest⟩ := List.exists_cons_of_ne_nil (splitOn_ne_nil sep rest)
        rw [splitOn_cons_ne hc hrest, List.mem_cons] at h
        obtain rfl | h := h
        · exact List.not_mem_cons_of_ne_of_not_mem (Ne.symm hc) (ih (by simp [hrest]))
        · exact ih (by simp [hrest, h])

end LogHarvest.Text
