import LogHarvest.Text.Code
import Mathlib.Data.List.Sort

/-!
# Things in the order of their names

Things with names are listed in the order of their names, and those of one name in the order in which
they came. So one thing more changes nothing about the others: it gets a place of its own, which its
name and the others decide.
-/

namespace LogHarvest.Text

theorem le_total (s t : Text) : (le s t || le t s) = true := by
  induction s generalizing t with
  | nil => simp [le]
  | cons a s ih =>
      cases t with
      | nil => simp [le]
      | cons b t =>
          obtain hlt | heq | hgt := Nat.lt_trichotomy a.val b.val
          · simp [le, hlt]
          · obtain rfl : a = b := by cases a; cases b; simpa using heq
            simpa [le] using ih t
          · simp [le, hgt]

theorem le_trans {s t u : Text} (hst : le s t = true) (htu : le t u = true) : le s u = true := by
  induction s generalizing t u with
  | nil => simp [le]
  | cons a s ih =>
      cases t with
      | nil => simp [le] at hst
      | cons b t =>
          cases u with
          | nil => simp [le] at htu
          | cons c u =>
              simp only [le, Bool.or_eq_true, decide_eq_true_eq, Bool.and_eq_true] at hst htu ⊢
              obtain hab | ⟨rfl, hst⟩ := hst
              · obtain hbc | ⟨rfl, -⟩ := htu
                · exact .inl (Nat.lt_trans hab hbc)
                · exact .inl hab
              · obtain hbc | ⟨rfl, htu⟩ := htu
                · exact .inl hbc
                · exact .inr ⟨rfl, ih hst htu⟩

theorem le_antisymm {s t : Text} (hst : le s t = true) (hts : le t s = true) : s = t := by
  induction s generalizing t with
  | nil =>
      cases t with
      | nil => rfl
      | cons b t => simp [le] at hts
  | cons a s ih =>
      cases t with
      | nil => simp [le] at hst
      | cons b t =>
          simp only [le, Bool.or_eq_true, decide_eq_true_eq, Bool.and_eq_true] at hst hts
          obtain hab | ⟨rfl, hst⟩ := hst
          · obtain hba | ⟨rfl, -⟩ := hts
            · exact absurd hab (Nat.lt_asymm hba)
            · exact absurd hab (Nat.lt_irrefl _)
          · obtain hlt | ⟨-, hts⟩ := hts
            · exact absurd hlt (Nat.lt_irrefl _)
            · rw [ih hst hts]

section Sorting

variable {β : Type}

/-- Whether a thing may stand before another one. -/
def namedLe (a b : Text × β) : Bool := le a.1 b.1

/-- Named things in the order of their names. -/
def sortByName (l : List (Text × β)) : List (Text × β) := l.mergeSort namedLe

theorem namedLe_total (a b : Text × β) : (namedLe a b || namedLe b a) = true := le_total a.1 b.1

theorem namedLe_trans (a b c : Text × β) (hab : namedLe a b = true) (hbc : namedLe b c = true) :
    namedLe a c = true := le_trans hab hbc

theorem pairwise_sortByName (l : List (Text × β)) :
    (sortByName l).Pairwise fun a b => namedLe a b = true :=
  List.pairwise_mergeSort namedLe_trans namedLe_total l

theorem mem_sortByName {a : Text × β} {l : List (Text × β)} : a ∈ sortByName l ↔ a ∈ l :=
  List.mem_mergeSort

/-- Things with different names stand in the strict order of these. -/
theorem pairwise_sortByName_of_nodup {l : List (Text × β)} (h : (l.map Prod.fst).Nodup) :
    (sortByName l).Pairwise fun a b => le a.1 b.1 = true ∧ a.1 ≠ b.1 := by
  have hsorted : ((sortByName l).map Prod.fst).Nodup :=
    ((List.mergeSort_perm l namedLe).map Prod.fst).nodup_iff.2 h
  exact (pairwise_sortByName l).and (List.pairwise_map.1 hsorted)

/-- Sorts a thing in among others. -/
def insertByName (a : Text × β) (l : List (Text × β)) : List (Text × β) :=
  l.orderedInsert (fun a b => namedLe a b = true) a

theorem insertByName_of_le {a b : Text × β} (h : namedLe a b = true) (l : List (Text × β)) :
    insertByName a (b :: l) = a :: b :: l := List.orderedInsert_cons_of_le _ _ h

theorem insertByName_of_not_le {a b : Text × β} (h : ¬namedLe a b = true) (l : List (Text × β)) :
    insertByName a (b :: l) = b :: insertByName a l := List.orderedInsert_of_not_le _ _ h

/-- The first thing is sorted in among the others. -/
theorem sortByName_cons (a : Text × β) (l : List (Text × β)) :
    sortByName (a :: l) = insertByName a (sortByName l) := by
  obtain ⟨front, rest, hall, hothers, hfront⟩ :=
    List.mergeSort_cons namedLe_trans namedLe_total a l
  have hsorted := pairwise_sortByName (a :: l)
  rw [sortByName, hall] at hsorted
  rw [sortByName, hall, sortByName, hothers]
  clear hall hothers
  induction front with
  | nil =>
      cases rest with
      | nil => rfl
      | cons b rest =>
          have hab : namedLe a b = true := (List.pairwise_cons.1 hsorted).1 b (by simp)
          exact (insertByName_of_le hab rest).symm
  | cons b front ih =>
      have hb : ¬namedLe a b = true := by simpa using hfront b (by simp)
      rw [List.cons_append, List.cons_append, insertByName_of_not_le hb,
        ih (fun c hc => hfront c (List.mem_cons_of_mem b hc)) (List.pairwise_cons.1 hsorted).2]

/-- Where a thing is sorted in depends on its name alone. -/
theorem exists_insertByName_eq (name : Text) (l : List (Text × β)) :
    ∃ front rest, l = front ++ rest ∧
      ∀ x, x.1 = name → insertByName x l = front ++ x :: rest := by
  induction l with
  | nil => exact ⟨[], [], rfl, fun x _ => rfl⟩
  | cons b l ih =>
      by_cases hb : le name b.1 = true
      · refine ⟨[], b :: l, rfl, fun x hx => ?_⟩
        subst hx
        exact insertByName_of_le hb l
      · obtain ⟨front, rest, rfl, hinsert⟩ := ih
        refine ⟨b :: front, rest, rfl, fun x hx => ?_⟩
        rw [insertByName_of_not_le (by rw [namedLe, hx]; exact hb), hinsert x hx, List.cons_append]

/-- A thing is sorted in among others in the same way whether or not another one is there. -/
theorem exists_insertByName_middle {name : Text} {front rest : List (Text × β)}
    (hrest : ∀ b ∈ rest, le name b.1 = true) (a : Text × β) :
    ∃ front' rest', insertByName a (front ++ rest) = front' ++ rest' ∧
      ∀ x, x.1 = name → insertByName a (front ++ x :: rest) = front' ++ x :: rest' := by
  induction front with
  | nil =>
      by_cases ha : le a.1 name = true
      · refine ⟨[a], rest, ?_, fun x hx => ?_⟩
        · cases rest with
          | nil => rfl
          | cons b rest => exact insertByName_of_le (le_trans ha (hrest b (by simp))) rest
        · subst hx
          exact insertByName_of_le ha rest
      · refine ⟨[], insertByName a rest, rfl, fun x hx => ?_⟩
        subst hx
        exact insertByName_of_not_le ha rest
  | cons b front ih =>
      by_cases hb : namedLe a b = true
      · exact ⟨a :: b :: front, rest, insertByName_of_le hb _, fun x _ => insertByName_of_le hb _⟩
      · obtain ⟨front', rest', hothers, hwith⟩ := ih
        refine ⟨b :: front', rest', ?_, fun x hx => ?_⟩
        · rw [List.cons_append, insertByName_of_not_le hb, hothers, List.cons_append]
        · rw [List.cons_append, insertByName_of_not_le hb, hwith x hx, List.cons_append]

/-- A thing between others gets a place among them that its name decides. -/
theorem exists_sortByName_middle (before later : List (Text × β)) (x : Text × β) :
    ∃ front rest, sortByName (before ++ later) = front ++ rest ∧
      ∀ y, y.1 = x.1 → sortByName (before ++ y :: later) = front ++ y :: rest := by
  induction before with
  | nil =>
      obtain ⟨front, rest, hothers, hwith⟩ := exists_insertByName_eq x.1 (sortByName later)
      refine ⟨front, rest, hothers, fun y hy => ?_⟩
      rw [List.nil_append, sortByName_cons, hwith y hy]
  | cons a before ih =>
      obtain ⟨front, rest, hothers, hwith⟩ := ih
      have hrest : ∀ b ∈ rest, le x.1 b.1 = true := by
        have hsorted := pairwise_sortByName (before ++ x :: later)
        rw [hwith x rfl] at hsorted
        exact (List.pairwise_cons.1 (List.pairwise_append.1 hsorted).2.1).1
      obtain ⟨front', rest', hothers', hwith'⟩ := exists_insertByName_middle hrest a
      refine ⟨front', rest', ?_, fun y hy => ?_⟩
      · rw [List.cons_append, sortByName_cons, hothers, hothers']
      · rw [List.cons_append, sortByName_cons, hwith y hy, hwith' y hy]

end Sorting

end LogHarvest.Text
