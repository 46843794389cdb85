import LogHarvest.Proofs.PatternFile
import LogHarvest.Proofs.Store.Grouping
import LogHarvest.Proofs.Template.Reading

/-!
# Dumping a store and loading it again

A store comes back from a pattern file exactly if no part of a statement holds one of the three
codes that separate records and their parts. If one does, what is loaded differs from what was
dumped, whatever the pieces happen to say: a loaded statement never holds a separator. So a store
that was itself loaded always comes back, and is dumped as the same bytes again.
-/

namespace LogHarvest

open Text.Utf8 (Bytes encoding)

/-- Two stores have the same classes in the same order, and for each class statements with the
same parts in the same order. -/
def Store.SameParts (store other : Store) : Prop :=
  store.classes = other.classes ∧
    ∀ clazz, (store.own clazz).map Statement.parts = (other.own clazz).map Statement.parts

namespace PatternFile

variable {tree after : FileTree} {path : Text} {store loaded : Store} {notices : List Notice}

/-! ### Dumping -/

theorem encodable_of_writable {ss : List Statement} (h : ∀ s ∈ ss, s.Writable) : Encodable ss := by
  intro s hs c hc
  obtain hbar | ⟨part, hpart, hc⟩ := Text.mem_join hc
  · obtain rfl := List.mem_singleton.1 hbar
    decide
  · exact (h s hs part hpart c hc).notSurrogate

/-- A dump says how many statements there are and leaves their records, class by class. -/
theorem exists_dump_eq (hpath : tree.CanWrite path) (hs : Encodable store.toList) :
    ∃ after, dump store tree path = (after, .ok store.size) ∧
      after.bytesAt (Path.tidy path) = .ok (encoding (recordsText store.toList)) := by
  obtain ⟨opened, hopened⟩ := hpath
  obtain ⟨w, hw⟩ := (Writer.exists_writeAll_eq_iff
    (w := ⟨Path.tidy path, some [], 0⟩) rfl).2 hs
  have htakes := Writer.takes_of_writeAll hw
  have hbytes := Writer.bytesAt_close htakes.pending (by rw [htakes.path]; exact hopened)
  rw [htakes.path] at hbytes
  refine ⟨(w.close opened).2, ?_, hbytes⟩
  rw [dump, Writer.openFile_new hopened]
  simp only [hw, Writer.count_close, htakes.count, Nat.zero_add, Store.size_eq_length_toList]

/-! ### Loading -/

/-- A file whose records are loaded to their end is text from its start to its end. -/
theorem storeOf_eq_ok {bytes : Bytes} (h : storeOf bytes = (notices, .ok store)) :
    ∃ text, Text.Utf8.decodeFile bytes = (text, none) ∧
      Store.ofRecords text.lines = (notices, .ok store) := by
  cases hfile : Text.Utf8.decodeFile bytes with
  | mk text fault =>
      cases fault with
      | some e =>
          simp only [storeOf, linesOf, hfile] at h
          split at h <;> simp at h
      | none =>
          refine ⟨text, rfl, ?_⟩
          simp only [storeOf, linesOf, hfile] at h
          split at h
          · simp at h
          · next hrecords => rw [hrecords, (Prod.mk.inj h).1, Except.ok.inj (Prod.mk.inj h).2]

/-- What a load has filed is what the lines of the file say. -/
theorem exists_lines_of_load (h : load tree path = (notices, .ok store)) :
    ∃ lines : List Text, store = Store.ofList (Store.statementsOf lines) ∧
      ∀ line ∈ lines, line.IsLine ∧ ∀ c ∈ line, c.IsScalar := by
  rw [load] at h
  split at h
  · simp at h
  · next bytes hbytes =>
    split at h
    · next earlier loaded hstore =>
      obtain rfl := Except.ok.inj (Prod.mk.inj h).2
      obtain ⟨text, htext, hrecords⟩ := storeOf_eq_ok hstore
      refine ⟨text.lines, Store.eq_ofList_of_ofRecords hrecords, fun line hline => ?_⟩
      refine ⟨Text.isLine_of_mem_lines hline, fun c hc => ?_⟩
      obtain hmem | rfl := Text.mem_of_mem_lines hline hc
      · exact Text.Utf8.isScalar_of_mem_decodeFile (by rw [htext]; exact hmem)
      · exact ⟨by decide, by decide⟩
    · simp at h

/-- A loaded statement is read again from its record. -/
theorem recordable_of_load (h : load tree path = (notices, .ok store)) :
    ∃ ss, store = Store.ofList ss ∧ ∀ s ∈ ss, s.Recordable ∧ s.Writable := by
  obtain ⟨lines, hstore, hlines⟩ := exists_lines_of_load h
  refine ⟨Store.statementsOf lines, hstore, fun s hs => ?_⟩
  obtain ⟨line, hline, hsaid⟩ := List.mem_filterMap.1 hs
  exact Statement.recordable_of_said? (hlines line hline).1 (hlines line hline).2 hsaid

/-- What the dump of a store leaves is loaded as the store if every record keeps its statement. -/
theorem load_dumped {ss : List Statement} (h : ∀ s ∈ ss, s.Recordable) (hw : ∀ s ∈ ss, s.Writable)
    (hbytes : after.bytesAt (Path.tidy path) =
      .ok (encoding (recordsText (Store.ofList ss).toList))) :
    ∃ notices, load after path = (notices, .ok (Store.ofList ss)) := by
  have hrecordable : ∀ s ∈ (Store.ofList ss).toList, s.Recordable :=
    fun s hs => h s (Store.mem_toList_ofList.1 hs)
  have hencodable : Encodable (Store.ofList ss).toList :=
    encodable_of_writable fun s hs => hw s (Store.mem_toList_ofList.1 hs)
  have hload := load_recordsText hrecordable hencodable hbytes
  rw [(Store.filed_ofList ss).ofList_toList] at hload
  exact ⟨_, hload⟩

/-- A store that says the same as a loaded one holds no separator either. -/
theorem separable_of_sameParts {ss : List Statement}
    (hload : load tree path = (notices, .ok loaded)) (hsame : loaded.SameParts (Store.ofList ss)) :
    ∀ s ∈ ss, s.Separable := by
  intro s hs
  obtain ⟨others, rfl, hothers⟩ := recordable_of_load hload
  have hparts : s.parts ∈ ((Store.ofList ss).own s.clazz).map Statement.parts := by
    rw [Store.own_ofList]
    exact List.mem_map_of_mem (List.mem_filter.2 ⟨hs, by simp⟩)
  rw [← hsame.2, Store.own_ofList] at hparts
  obtain ⟨other, hother, heq⟩ := List.mem_map.1 hparts
  have hseparable := (hothers other (List.mem_filter.1 hother).1).1.separable
  rw [Statement.Separable, heq] at hseparable
  exact hseparable

/-! ### Both ways -/

/-- Statements of two classes, one of which comes again after the other. The name of the other one
is made of a line separator and a byte order mark, which separate nothing here. -/
def threeStatements : List Statement :=
  [⟨Text.ofString "info", ['A'], Template.pattern (Text.ofString "up \x7b\x7d")⟩,
    ⟨[], [⟨0x2028⟩, ⟨0xFEFF⟩], Template.pattern (Text.ofString "a|b")⟩,
    ⟨Text.ofString "warn", ['A'], Template.pattern []⟩]

/-- An empty directory. -/
def emptyTree : FileTree := ⟨.dir [], [], []⟩

end PatternFile

end LogHarvest
