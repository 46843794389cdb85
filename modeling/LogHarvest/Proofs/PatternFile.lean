import LogHarvest.PatternFile
import LogHarvest.Proofs.FileTree.Put
import LogHarvest.Proofs.Store.Loading

/-!
# Pattern files that are written and read again

What a writer holds is the encoding of the records it has taken, one a line. Once it has been
closed the file holds just that, and whoever loads the file has the store of the statements in
the order in which they were written.
-/

namespace LogHarvest

open Text.Utf8 (Bytes encoding)

namespace PatternFile

/-- The text of a pattern file: the records of some statements, one a line. -/
def recordsText (ss : List Statement) : Text := Text.unlines (ss.map Statement.toRecord)

theorem recordsText_append (ss others : List Statement) :
    recordsText (ss ++ others) = recordsText ss ++ recordsText others := by
  simp [recordsText, Text.unlines]

theorem recordsText_singleton (s : Statement) :
    recordsText [s] = s.toRecord ++ [('\n' : Code)] := by
  simp [recordsText, Text.unlines]

/-- No record of some statements holds a surrogate, so all of them can be encoded. -/
def Encodable (ss : List Statement) : Prop :=
  ∀ s ∈ ss, ∀ c ∈ s.toRecord, c.isSurrogate = false

theorem encodable_append {ss others : List Statement} :
    Encodable (ss ++ others) ↔ Encodable ss ∧ Encodable others :=
  List.forall_mem_append

section FlatMap

variable {α : Type} {l : List α} {f : α → List Statement}

theorem recordsText_flatMap : recordsText (l.flatMap f) = l.flatMap fun a => recordsText (f a) := by
  simp only [recordsText, Text.unlines, List.map_flatMap, List.flatMap_assoc]

theorem encodable_flatMap : Encodable (l.flatMap f) ↔ ∀ a ∈ l, Encodable (f a) := by
  simp only [Encodable, List.mem_flatMap]
  exact ⟨fun h a ha s hs => h s ⟨a, ha, hs⟩, fun h s ⟨a, ha, hs⟩ => h a ha s hs⟩

end FlatMap

/-! ### Writing -/

namespace Writer

/-- A writer has taken some statements since it was another one. -/
structure Takes (w w' : Writer) (ss : List Statement) : Prop where
  path : w'.path = w.path
  pending : w'.pending = w.pending.map (· ++ encoding (recordsText ss))
  count : w'.count = w.count + ss.length
  encodable : Encodable ss

variable {w w' w'' : Writer} {s : Statement} {ss : List Statement}

theorem takes_nil (w : Writer) : w.Takes w [] := by
  refine ⟨rfl, ?_, rfl, by simp [Encodable]⟩
  simp [recordsText, Text.unlines]

theorem Takes.append {others : List Statement} (h : w.Takes w' ss) (h' : w'.Takes w'' others) :
    w.Takes w'' (ss ++ others) := by
  refine ⟨h'.path.trans h.path, ?_, ?_, ?_⟩
  · rw [h'.pending, h.pending, recordsText_append, Text.Utf8.encoding_append, Option.map_map]
    simp only [Function.comp_def, List.append_assoc]
  · rw [h'.count, h.count, List.length_append]
    omega
  · exact encodable_append.2 ⟨h.encodable, h'.encodable⟩

theorem takes_of_write (h : w.write s = .ok w') : w.Takes w' [s] := by
  unfold write at h
  split at h
  · simp at h
  · next bytes hpending =>
    split at h
    · next record hrecord =>
      obtain rfl := Except.ok.inj h
      obtain ⟨hsurrogates, rfl⟩ := Text.Utf8.encode_eq_ok_iff.1 hrecord
      refine ⟨rfl, ?_, rfl, by simpa [Encodable] using hsurrogates⟩
      rw [hpending, recordsText_singleton, Text.Utf8.encoding_append]
      simp only [Option.map_some, List.append_assoc]
      rfl
    · simp at h

theorem takes_of_writeAll (h : w.writeAll ss = (w', none)) : w.Takes w' ss := by
  induction ss generalizing w with
  | nil =>
      obtain ⟨rfl, -⟩ := Prod.mk.inj h
      exact takes_nil w
  | cons s ss ih =>
      rw [writeAll] at h
      split at h
      · next v hv => exact (takes_of_write hv).append (ih h)
      · simp at h

theorem Takes.isOpen (h : w.Takes w' ss) : w'.isOpen = w.isOpen := by
  rw [Writer.isOpen, h.pending, Option.isSome_map, Writer.isOpen]

theorem exists_write_eq (hw : w.isOpen = true) (hs : Encodable [s]) :
    ∃ w', w.write s = .ok w' := by
  obtain ⟨bytes, hpending⟩ := Option.isSome_iff_exists.1 hw
  have hrecord := Text.Utf8.encode_eq_ok_iff.2 ⟨hs s (by simp), rfl⟩
  rw [write]
  simp only [hpending, hrecord]
  exact ⟨_, rfl⟩

theorem exists_encode_of_write (hw : w.isOpen = true) {fault : Fault}
    (h : w.write s = .error fault) : ∃ e, fault = .encode e := by
  unfold write at h
  split at h
  · next hpending => simp [isOpen, hpending] at hw
  · split at h
    · simp at h
    · next e he => exact ⟨e, (Except.error.inj h).symm⟩

/-- An open writer stops at nothing but a record that cannot be encoded. -/
theorem exists_encode_of_writeAll (hw : w.isOpen = true) {fault : Fault}
    (h : w.writeAll ss = (w', some fault)) : ∃ e, fault = .encode e := by
  induction ss generalizing w with
  | nil => simp [writeAll] at h
  | cons s ss ih =>
      rw [writeAll] at h
      split at h
      · next v hv => exact ih ((takes_of_write hv).isOpen.trans hw) h
      · next fault' hfault =>
        obtain ⟨-, hsome⟩ := Prod.mk.inj h
        obtain rfl := Option.some.inj hsome
        exact exists_encode_of_write hw hfault

/-- An open writer takes all of some statements exactly if all of them can be encoded. -/
theorem exists_writeAll_eq_iff (hw : w.isOpen = true) :
    (∃ w', w.writeAll ss = (w', none)) ↔ Encodable ss := by
  refine ⟨fun ⟨w', h⟩ => (takes_of_writeAll h).encodable, fun hs => ?_⟩
  induction ss generalizing w with
  | nil => exact ⟨w, rfl⟩
  | cons s ss ih =>
      obtain ⟨hfirst, hrest⟩ := encodable_append.1 (show Encodable ([s] ++ ss) from hs)
      obtain ⟨v, hv⟩ := exists_write_eq hw hfirst
      obtain ⟨w', hw'⟩ := ih ((takes_of_write hv).isOpen.trans hw) hrest
      exact ⟨w', by rw [writeAll, hv]; exact hw'⟩

theorem writeAll_path (w : Writer) (ss : List Statement) : (w.writeAll ss).1.path = w.path := by
  induction ss generalizing w with
  | nil => rfl
  | cons s ss ih =>
      rw [writeAll]
      split
      · next v hv => exact (ih v).trans (takes_of_write hv).path
      · rfl

/-- Closing a writer puts a file at its path or leaves the tree as it is. -/
theorem close_tree (w : Writer) (tree : FileTree) :
    (w.close tree).2 = tree ∨ ∃ bytes, tree.putFile w.path bytes = .ok (w.close tree).2 := by
  unfold close
  split
  · exact .inl rfl
  · next bytes hpending =>
    dsimp only
    split
    · exact .inl rfl
    · next old hold =>
      split
      · next tree' hput => exact .inr ⟨_, hput⟩
      · exact .inl rfl

theorem openFile_new {path : Text} {tree opened : FileTree}
    (h : tree.putFile (Path.tidy path) [] = .ok opened) :
    (Writer.new path).openFile tree = .ok (⟨Path.tidy path, some [], 0⟩, opened) := by
  simp only [new, openFile, Option.getD_none, h]

/-- Records are written one after the other, so a failure leaves out all that come later. -/
theorem writeAll_append (w : Writer) (ss others : List Statement) :
    w.writeAll (ss ++ others) =
      if (w.writeAll ss).2.isNone then (w.writeAll ss).1.writeAll others else w.writeAll ss := by
  induction ss generalizing w with
  | nil => rfl
  | cons s ss ih =>
      rw [List.cons_append, writeAll, writeAll]
      split
      · exact ih _
      · rfl

/-- An opened writer has nothing pending and an empty file before it. -/
theorem openFile_eq_ok {output : Text} {tree opened : FileTree}
    (h : (Writer.new output).openFile tree = .ok (w, opened)) :
    w = ⟨Path.tidy output, some [], 0⟩ ∧ tree.putFile (Path.tidy output) [] = .ok opened := by
  rw [openFile] at h
  split at h
  · next tree' htree' =>
    obtain ⟨rfl, rfl⟩ := Prod.mk.inj (Except.ok.inj h)
    exact ⟨rfl, htree'⟩
  · simp at h

theorem count_close (w : Writer) (tree : FileTree) : (w.close tree).1.count = w.count := by
  unfold close
  split
  · rfl
  · dsimp only
    split
    · rfl
    · split <;> rfl

/-- Closing puts what is pending into a file that has been emptied. -/
theorem bytesAt_close {tree opened : FileTree} {bytes : Bytes} (hpending : w.pending = some bytes)
    (hopened : tree.putFile w.path [] = .ok opened) :
    (w.close opened).2.bytesAt w.path = .ok bytes := by
  obtain ⟨closed, hclosed⟩ := FileTree.exists_putFile_again hopened bytes
  have hclose : (w.close opened).2 = closed := by
    unfold close
    simp only [hpending, FileTree.bytesAt_putFile hopened, List.drop_nil, List.append_nil, hclosed]
  rw [hclose]
  exact FileTree.bytesAt_putFile hclosed

end Writer

/-! ### Reading -/

section Reading

variable {ss : List Statement}

theorem decodeFile_recordsText (h : ∀ s ∈ ss, s.Recordable) (hs : Encodable ss) :
    Text.Utf8.decodeFile (encoding (recordsText ss)) = (recordsText ss, none) := by
  refine Text.Utf8.decodeFile_encoding fun c hc => ?_
  obtain ⟨record, hrecord, hc⟩ := List.mem_flatMap.1 hc
  obtain ⟨s, hmem, rfl⟩ := List.mem_map.1 hrecord
  obtain hc | hfeed := List.mem_append.1 hc
  · exact ⟨Statement.isDecoded_toRecord (h s hmem) c hc, hs s hmem c hc⟩
  · obtain rfl := List.mem_singleton.1 hfeed
    exact ⟨by decide, by decide⟩

/-- The lines of a pattern file are the records that were written to it. -/
theorem linesOf_recordsText (h : ∀ s ∈ ss, s.Recordable) (hs : Encodable ss) :
    linesOf (encoding (recordsText ss)) = (ss.map Statement.toRecord, none) := by
  have hlines : ∀ line ∈ ss.map Statement.toRecord, line.IsLine := by
    intro line hline
    obtain ⟨s, hmem, rfl⟩ := List.mem_map.1 hline
    exact Statement.isLine_toRecord (h s hmem).separable
  rw [linesOf, decodeFile_recordsText h hs]
  simp only [recordsText, Text.lines_unlines hlines]

theorem load_recordsText {tree : FileTree} {path : Text} (h : ∀ s ∈ ss, s.Recordable)
    (hs : Encodable ss) (hb : tree.bytesAt (Path.tidy path) = .ok (encoding (recordsText ss))) :
    load tree path = ([loadedNotice (Store.ofList ss) path], .ok (Store.ofList ss)) := by
  have hstore : storeOf (encoding (recordsText ss)) = ([], .ok (Store.ofList ss)) := by
    rw [storeOf, linesOf_recordsText h hs]
    simp only [Store.ofRecords_map_toRecord h]
  rw [load, hb]
  simp only [hstore, List.nil_append]

end Reading

end PatternFile

end LogHarvest
