import LogHarvest.Proofs.Store.Grouping
import Mathlib.Data.List.Induction

/-!
# Stores and their histories

Of a store nothing can be seen but what the list of the statements added to it says: its classes in
the order in which they were first seen, the statements of each class in the order of their addition,
and their number. So whatever a new store is asked between additions, it answers as that list does,
and the answers of later questions do not depend on earlier ones.
-/

namespace LogHarvest

namespace Statement

/-- The classes of some statements, each where it is first seen. -/
def classesOf (ss : List Statement) : List Text := (ss.map Statement.clazz).eraseDups

/-- One statement more shows its class at the end, unless the class has been seen. -/
theorem classesOf_concat (ss : List Statement) (s : Statement) :
    classesOf (ss ++ [s]) =
      if s.clazz ∈ classesOf ss then classesOf ss else classesOf ss ++ [s.clazz] := by
  have hone : [s.clazz].removeAll (ss.map Statement.clazz) =
      if s.clazz ∈ classesOf ss then [] else [s.clazz] := by
    have hmem : (ss.map Statement.clazz).elem s.clazz = decide (s.clazz ∈ classesOf ss) := by
      rw [List.elem_eq_mem, decide_eq_decide, classesOf, List.mem_eraseDups]
    rw [List.removeAll, List.filter_singleton, hmem]
    by_cases hseen : s.clazz ∈ classesOf ss <;> simp only [hseen] <;> rfl
  rw [classesOf, List.map_append, List.eraseDups_append, List.map_singleton, hone, ← classesOf]
  split
  · exact List.append_nil _
  · rfl

/-- Some statements class by class. -/
def groupedByClass (ss : List Statement) : List Statement :=
  (classesOf ss).flatMap fun clazz => ofClass clazz ss

end Statement

namespace Store

/-! ### What a store of some statements holds -/

theorem classes_ofList (ss : List Statement) : (ofList ss).classes = Statement.classesOf ss := by
  induction ss using List.reverseRecOn with
  | nil => rfl
  | append_singleton ss s ih =>
      have hadd : ofList (ss ++ [s]) = (ofList ss).add s := by
        simp [ofList, addAll]
      rw [hadd, classes_add, ih, Statement.classesOf_concat]

/-- The bucket of a class holds the statements of the class. -/
theorem Filed.own_eq {store : Store} (h : store.Filed) {b : Text × List Statement}
    (hb : b ∈ store.buckets) : store.own b.1 = b.2 := by
  obtain ⟨before, later, hbuckets⟩ := List.append_of_mem hb
  have hfirst : ∀ other ∈ before, other.1 ≠ b.1 := by
    have hnodup := h.classes_nodup
    rw [classes, hbuckets, List.map_append, List.map_cons] at hnodup
    intro other hother
    exact (List.nodup_append.1 hnodup).2.2 _ (List.mem_map_of_mem hother) _ (by simp)
  have hnone : before.find? (fun other => other.1 = b.1) = none :=
    List.find?_eq_none.2 fun other hother => by simpa using hfirst other hother
  simp [own, hbuckets, hnone]

theorem Filed.buckets_eq {store : Store} (h : store.Filed) :
    store.buckets = store.classes.map fun clazz => (clazz, store.own clazz) := by
  rw [classes, List.map_map]
  refine (List.map_id _).symm.trans (List.map_congr_left fun b hb => ?_)
  exact Prod.ext rfl (h.own_eq hb).symm

/-- A store lists the statements that were added class by class. -/
theorem toList_ofList (ss : List Statement) :
    (ofList ss).toList = Statement.groupedByClass ss := by
  rw [toList, (filed_ofList ss).buckets_eq, List.flatMap_map, classes_ofList]
  simp only [own_ofList, Statement.groupedByClass]

/-- Listing a store keeps the order of the statements of one class. -/
theorem ofClass_toList (ss : List Statement) (clazz : Text) :
    Statement.ofClass clazz (ofList ss).toList = Statement.ofClass clazz ss := by
  rw [← own_ofList (ofList ss).toList, (filed_ofList ss).ofList_toList, own_ofList]

theorem size_ofList (ss : List Statement) : (ofList ss).size = ss.length := by
  rw [size_eq_length_toList, (toList_ofList_perm ss).length_eq]

/-! ### Additions and questions -/

/-- What can be done with a store: a statement is added, or the store is asked for the statements
that serve a class, for its classes, for all statements, for their number or for how it is shown. -/
inductive Access where
  | add (s : Statement)
  | candidates (clazz : Text)
  | classes
  | list
  | size
  | describe

/-- The statement that an access adds. -/
def Access.added? : Access → Option Statement
  | .add s => some s
  | _ => none

/-- What is answered to a question. -/
inductive Answer where
  | nothing
  | statements (ss : List Statement)
  | classes (classes : List Text)
  | number (n : Nat)
  | text (t : Text)

def access (store : Store) : Access → Answer × Store
  | .add s => (.nothing, store.add s)
  | .candidates clazz => (.statements (store.candidates clazz), store)
  | .classes => (.classes store.classes, store)
  | .list => (.statements store.toList, store)
  | .size => (.number store.size, store)
  | .describe => (.text store.describe, store)

/-- The answers to some accesses in order, and the store after them. -/
def accessAll (store : Store) : List Access → List Answer × Store
  | [] => ([], store)
  | a :: rest =>
    let (answer, store) := store.access a
    let (answers, store) := accessAll store rest
    (answer :: answers, store)

/-- What the statements that have been added say to an access. -/
def answerOf (ss : List Statement) : Access → Answer
  | .add _ => .nothing
  | .candidates clazz =>
    .statements <|
      if Statement.ofClass clazz ss = [] then Statement.ofClass Statement.defaultClass ss
      else Statement.ofClass clazz ss
  | .classes => .classes (Statement.classesOf ss)
  | .list => .statements (Statement.groupedByClass ss)
  | .size => .number ss.length
  | .describe =>
    .text <|
      Text.ofString "PatternRepository(classes=" ++ Text.ofNat (Statement.classesOf ss).length ++
        Text.ofString ", statements=" ++ Text.ofNat ss.length ++ Text.ofString ")"

/-- The answers to some accesses, each from the statements that have been added before it. -/
def answersOf (ss : List Statement) : List Access → List Answer
  | [] => []
  | a :: rest => answerOf ss a :: answersOf (ss ++ a.added?.toList) rest

/-! ### Answers from the history -/

/-- A store of some statements answers as they do. -/
theorem access_ofList (ss : List Statement) (a : Access) :
    (ofList ss).access a = (answerOf ss a, ofList (ss ++ a.added?.toList)) := by
  cases a with
  | add s => simp [access, answerOf, Access.added?, ofList, addAll]
  | candidates clazz =>
      simp only [access, answerOf, Access.added?, Option.toList_none, List.append_nil]
      by_cases hown : Statement.ofClass clazz ss = []
      · rw [if_pos hown, candidates_of_own_eq_nil (by rw [own_ofList, hown]), own_ofList]
      · rw [if_neg hown, candidates_of_own_ne_nil (by rw [own_ofList]; exact hown), own_ofList]
  | classes => simp [access, answerOf, Access.added?, classes_ofList]
  | list => simp [access, answerOf, Access.added?, toList_ofList]
  | size => simp [access, answerOf, Access.added?, size_ofList]
  | describe =>
      have hlength : (ofList ss).buckets.length = (Statement.classesOf ss).length := by
        rw [← classes_ofList, classes, List.length_map]
      simp [access, answerOf, Access.added?, describe, hlength, size_ofList]

theorem accessAll_ofList (ss : List Statement) (accesses : List Access) :
    (ofList ss).accessAll accesses =
      (answersOf ss accesses, ofList (ss ++ accesses.filterMap Access.added?)) := by
  induction accesses generalizing ss with
  | nil => simp [accessAll, answersOf]
  | cons a rest ih =>
      have hadded : (a :: rest).filterMap Access.added? =
          a.added?.toList ++ rest.filterMap Access.added? := by
        cases hone : a.added? <;> simp [hone]
      rw [accessAll, access_ofList]
      simp only [ih, answersOf, hadded, List.append_assoc]

/-- Whatever is added to a new store and asked of it in between, each answer is that of the
statements added up to then. With the statements `ss` added in the end, the store has their classes
in the order in which they were first seen, and lists them class by class: none is lost or doubled,
those of one class keep their order, no class is listed without a statement, and filing them as they
are listed gives the store again. The questions leave no trace: two stores to which the same
statements were added answer alike ever after. -/
theorem accessAll_of_history (accesses : List Access) :
    let ss := accesses.filterMap Access.added?
    let store := (empty.accessAll accesses).2
    (empty.accessAll accesses).1 = answersOf [] accesses ∧
      store.classes = Statement.classesOf ss ∧
      store.toList = Statement.groupedByClass ss ∧ store.toList.Perm ss ∧
      (∀ clazz, Statement.ofClass clazz store.toList = Statement.ofClass clazz ss) ∧
      store.size = ss.length ∧ (∀ b ∈ store.buckets, b.2 ≠ []) ∧
      (∀ clazz, store.candidates clazz =
        if Statement.ofClass clazz ss = [] then Statement.ofClass Statement.defaultClass ss
        else Statement.ofClass clazz ss) ∧
      ofList store.toList = store ∧
      ∀ others : List Access, others.filterMap Access.added? = ss → ∀ later,
        ((empty.accessAll others).2.accessAll later).1 = (store.accessAll later).1 := by
  intro ss store
  have hrun (accesses : List Access) : empty.accessAll accesses =
      (answersOf [] accesses, ofList (accesses.filterMap Access.added?)) := by
    exact accessAll_ofList [] accesses
  have hstore : store = ofList ss := congrArg Prod.snd (hrun accesses)
  have hfiled := filed_ofList ss
  rw [hstore]
  refine ⟨congrArg Prod.fst (hrun accesses), classes_ofList ss, toList_ofList ss,
    toList_ofList_perm ss, ofClass_toList ss, size_ofList ss, hfiled.nonempty, fun clazz => ?_,
    hfiled.ofList_toList, fun others hothers later => ?_⟩
  · have hanswer := congrArg Prod.fst (access_ofList ss (.candidates clazz))
    simpa [access, answerOf] using hanswer
  · rw [hrun others, hothers]

/-- A class that is asked for before it has a statement is served by the default class, and is not
seen by being asked for. -/
example (s : Statement) (hs : s.clazz = Statement.defaultClass) :
    (empty.accessAll [.add s, .candidates ['Z'], .classes]).1 =
      [.nothing, .statements [s], .classes [Statement.defaultClass]] := by
  have hother : ¬Statement.defaultClass = [Code.ofChar 'Z'] := by decide
  simp [accessAll, access, add, empty, insert, candidates, own, classes, hs, hother]

end Store

end LogHarvest
