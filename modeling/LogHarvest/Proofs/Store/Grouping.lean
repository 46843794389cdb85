import LogHarvest.Proofs.Store
import Mathlib.Data.List.Nodup
import Mathlib.Data.List.Perm.Basic

/-!
# Listing a store and filing it again

A store lists its statements class by class, which need not be the order in which they were
added. Filing them again in that order gives the same store: each class is then first seen in its
old place, and is filed as a whole before the next one.
-/

namespace LogHarvest.Store

/-! ### One statement more -/

theorem insert_append_of_notMem {s : Statement} {before : List (Text × List Statement)}
    (h : s.clazz ∉ before.map Prod.fst) (later : List (Text × List Statement)) :
    insert s (before ++ later) = before ++ insert s later := by
  induction before with
  | nil => rfl
  | cons b before ih =>
      obtain ⟨hb, hbefore⟩ := List.ne_and_not_mem_of_not_mem_cons h
      rw [List.cons_append, insert, if_neg (Ne.symm hb), ih hbefore, List.cons_append]

/-- A bucket after an addition is an old one, a new one, or the one of the class with the
statement at its end. -/
theorem mem_insert {s : Statement} {buckets : List (Text × List Statement)}
    {b : Text × List Statement} (h : b ∈ insert s buckets) :
    b ∈ buckets ∨ b = (s.clazz, [s]) ∨
      ∃ old, (s.clazz, old) ∈ buckets ∧ b = (s.clazz, old ++ [s]) := by
  induction buckets with
  | nil => exact .inr (.inl (by simpa [insert] using h))
  | cons first rest ih =>
      obtain ⟨clazz, bucket⟩ := first
      rw [insert] at h
      split at h
      · next hclazz =>
        subst hclazz
        obtain rfl | hrest := List.mem_cons.1 h
        · exact .inr (.inr ⟨bucket, by simp, rfl⟩)
        · exact .inl (List.mem_cons_of_mem _ hrest)
      · obtain rfl | hrest := List.mem_cons.1 h
        · exact .inl (by simp)
        · obtain hold | hnew | ⟨old, hold, hb⟩ := ih hrest
          · exact .inl (List.mem_cons_of_mem _ hold)
          · exact .inr (.inl hnew)
          · exact .inr (.inr ⟨old, List.mem_cons_of_mem _ hold, hb⟩)

/-- A class that is seen for the first time comes after those seen before. -/
theorem classes_add (store : Store) (s : Statement) :
    (store.add s).classes =
      if s.clazz ∈ store.classes then store.classes else store.classes ++ [s.clazz] := by
  obtain ⟨buckets⟩ := store
  simp only [classes, add]
  induction buckets with
  | nil => simp [insert]
  | cons first rest ih =>
      obtain ⟨clazz, bucket⟩ := first
      rw [insert]
      by_cases hclazz : clazz = s.clazz
      · simp [hclazz]
      · rw [if_neg hclazz, List.map_cons, ih]
        by_cases hrest : s.clazz ∈ rest.map Prod.fst <;> simp [hrest, Ne.symm hclazz]

theorem toList_add_perm (store : Store) (s : Statement) :
    (store.add s).toList.Perm (store.toList ++ [s]) := by
  obtain ⟨buckets⟩ := store
  simp only [toList, add]
  induction buckets with
  | nil => simp [insert]
  | cons first rest ih =>
      obtain ⟨clazz, bucket⟩ := first
      rw [insert]
      split
      · simp only [List.flatMap_cons, List.append_assoc]
        exact List.Perm.append_left bucket List.perm_append_comm
      · simp only [List.flatMap_cons, List.append_assoc]
        exact ih.append_left bucket

theorem toList_addAll_perm (store : Store) (ss : List Statement) :
    (store.addAll ss).toList.Perm (store.toList ++ ss) := by
  induction ss generalizing store with
  | nil => simp [addAll]
  | cons s ss ih =>
      have hstep : store.addAll (s :: ss) = (store.add s).addAll ss := rfl
      rw [hstep]
      refine (ih (store.add s)).trans ?_
      simpa using (toList_add_perm store s).append_right ss

/-- A store lists just the statements that were added. -/
theorem toList_ofList_perm (ss : List Statement) : (ofList ss).toList.Perm ss :=
  toList_addAll_perm empty ss

@[simp] theorem mem_toList_ofList {ss : List Statement} {s : Statement} :
    s ∈ (ofList ss).toList ↔ s ∈ ss :=
  (toList_ofList_perm ss).mem_iff

theorem size_eq_length_toList (store : Store) : store.size = store.toList.length := by
  obtain ⟨buckets⟩ := store
  simp only [size, toList]
  induction buckets with
  | nil => rfl
  | cons b rest ih => simp [ih]

/-! ### Stores that additions lead to -/

/-- The shape of a store that statements have been added to: every class has one bucket, with
statements of that class and at least one of them. -/
structure Filed (store : Store) : Prop where
  classes_nodup : store.classes.Nodup
  nonempty : ∀ b ∈ store.buckets, b.2 ≠ []
  ofClass : ∀ b ∈ store.buckets, ∀ s ∈ b.2, s.clazz = b.1

theorem Filed.add {store : Store} (h : store.Filed) (s : Statement) : (store.add s).Filed := by
  refine ⟨?_, ?_, ?_⟩
  · rw [classes_add]
    split
    · exact h.classes_nodup
    · next hnew => exact h.classes_nodup.append (by simp) (by simpa using hnew)
  · intro b hb
    obtain hold | rfl | ⟨old, -, rfl⟩ := mem_insert hb
    · exact h.nonempty b hold
    · simp
    · simp
  · intro b hb other hother
    obtain hold | rfl | ⟨old, hold, rfl⟩ := mem_insert hb
    · exact h.ofClass b hold other hother
    · rw [List.mem_singleton.1 hother]
    · obtain hmem | hlast := List.mem_append.1 hother
      · exact h.ofClass _ hold other hmem
      · rw [List.mem_singleton.1 hlast]

theorem Filed.addAll {store : Store} (h : store.Filed) (ss : List Statement) :
    (store.addAll ss).Filed := by
  induction ss generalizing store with
  | nil => exact h
  | cons s ss ih => exact ih (h.add s)

theorem filed_empty : empty.Filed :=
  ⟨by simp [classes, empty], by simp [empty], by simp [empty]⟩

theorem filed_ofList (ss : List Statement) : (ofList ss).Filed := filed_empty.addAll ss

/-! ### Filing what a store lists -/

/-- Statements of one class go to the end of the last bucket if that is the one of the class. -/
theorem addAll_last_bucket {before : List (Text × List Statement)} {clazz : Text}
    (hnew : clazz ∉ before.map Prod.fst) (filed : List Statement) {ss : List Statement}
    (hss : ∀ s ∈ ss, s.clazz = clazz) :
    addAll ⟨before ++ [(clazz, filed)]⟩ ss = ⟨before ++ [(clazz, filed ++ ss)]⟩ := by
  induction ss generalizing filed with
  | nil => simp [addAll]
  | cons s ss ih =>
      obtain ⟨rfl, hss⟩ := List.forall_mem_cons.1 hss
      have hstep : (Store.mk (before ++ [(s.clazz, filed)])).add s =
          ⟨before ++ [(s.clazz, filed ++ [s])]⟩ := by
        rw [add, insert_append_of_notMem hnew]
        simp [insert]
      calc addAll ⟨before ++ [(s.clazz, filed)]⟩ (s :: ss)
          = addAll ⟨before ++ [(s.clazz, filed ++ [s])]⟩ ss := congrArg (addAll · ss) hstep
        _ = ⟨before ++ [(s.clazz, filed ++ [s] ++ ss)]⟩ := ih (filed ++ [s]) hss
        _ = ⟨before ++ [(s.clazz, filed ++ s :: ss)]⟩ := by simp

/-- The statements of a class that is not there yet make up its bucket. -/
theorem addAll_new_bucket {before : List (Text × List Statement)} {clazz : Text}
    {ss : List Statement} (hnew : clazz ∉ before.map Prod.fst) (hne : ss ≠ [])
    (hss : ∀ s ∈ ss, s.clazz = clazz) :
    addAll ⟨before⟩ ss = ⟨before ++ [(clazz, ss)]⟩ := by
  obtain ⟨s, ss, rfl⟩ := List.exists_cons_of_ne_nil hne
  obtain ⟨rfl, hss⟩ := List.forall_mem_cons.1 hss
  have hstep : (Store.mk before).add s = ⟨before ++ [(s.clazz, [s])]⟩ := by
    have hinsert := insert_append_of_notMem hnew []
    rw [List.append_nil] at hinsert
    rw [add, hinsert, insert]
  calc addAll ⟨before⟩ (s :: ss)
      = addAll ⟨before ++ [(s.clazz, [s])]⟩ ss := congrArg (addAll · ss) hstep
    _ = ⟨before ++ [(s.clazz, [s] ++ ss)]⟩ := addAll_last_bucket hnew [s] hss

theorem addAll_buckets (before : List (Text × List Statement))
    {later : List (Text × List Statement)} (h : Filed ⟨before ++ later⟩) :
    addAll ⟨before⟩ (later.flatMap Prod.snd) = ⟨before ++ later⟩ := by
  induction later generalizing before with
  | nil => simp [addAll]
  | cons b later ih =>
      obtain ⟨clazz, bucket⟩ := b
      have hnew : clazz ∉ before.map Prod.fst := by
        have hnodup := h.classes_nodup
        simp only [classes, List.map_append, List.map_cons] at hnodup
        exact fun hmem => (List.nodup_append.1 hnodup).2.2 clazz hmem clazz (by simp) rfl
      have hbucket := addAll_new_bucket hnew (h.nonempty (clazz, bucket) (by simp))
        (h.ofClass (clazz, bucket) (by simp))
      have hrest := ih (before ++ [(clazz, bucket)]) (by simpa using h)
      rw [List.flatMap_cons, addAll, List.foldl_append, ← addAll, ← addAll, hbucket, hrest,
        List.append_assoc, List.singleton_append]

/-- Filing what a store lists gives the store. -/
theorem Filed.ofList_toList {store : Store} (h : store.Filed) : ofList store.toList = store :=
  addAll_buckets [] h

end LogHarvest.Store
