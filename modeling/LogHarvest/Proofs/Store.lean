import LogHarvest.Store

/-!
# What a store keeps of its statements

A store of some statements holds for each class exactly those of the class, in their order.
This is all that a reader of messages asks of it.
-/

namespace LogHarvest

/-- The statements of one class, in order. -/
def Statement.ofClass (clazz : Text) (ss : List Statement) : List Statement :=
  ss.filter fun s => s.clazz = clazz

/-- The class whose statements serve a class: the class itself if it has any, or else the default
class. -/
def Statement.servingClass (ss : List Statement) (clazz : Text) : Text :=
  if ∃ s ∈ ss, s.clazz = clazz then clazz else defaultClass

theorem Statement.mem_ofClass {clazz : Text} {ss : List Statement} {s : Statement} :
    s ∈ ofClass clazz ss ↔ s ∈ ss ∧ s.clazz = clazz := by
  simp [ofClass]

theorem Statement.ofClass_eq_nil_iff {clazz : Text} {ss : List Statement} :
    ofClass clazz ss = [] ↔ ∀ s ∈ ss, s.clazz ≠ clazz := by
  simp [ofClass]

/-- A class is served by that of a statement if it is the same, or if it has no statement and the
other one is the default class. -/
theorem Statement.servingClass_eq {clazz : Text} {ss : List Statement} {s : Statement}
    (hs : s ∈ ss)
    (hc : clazz = s.clazz ∨ s.clazz = defaultClass ∧ ∀ other ∈ ss, other.clazz ≠ clazz) :
    servingClass ss clazz = s.clazz := by
  obtain rfl | ⟨hdefault, hnone⟩ := hc
  · exact if_pos ⟨s, hs, rfl⟩
  · rw [hdefault]
    exact if_neg fun ⟨other, hother, hclazz⟩ => hnone other hother hclazz

/-- No statement serves a class if there is none of the class and none of the default class. -/
theorem Statement.ofClass_servingClass_eq_nil_iff {clazz : Text} {ss : List Statement} :
    ofClass (servingClass ss clazz) ss = [] ↔
      ∀ s ∈ ss, s.clazz ≠ clazz ∧ s.clazz ≠ defaultClass := by
  rw [ofClass_eq_nil_iff]
  by_cases hc : ∃ s ∈ ss, s.clazz = clazz
  · obtain ⟨s, hs, hclazz⟩ := hc
    rw [servingClass, if_pos ⟨s, hs, hclazz⟩]
    exact ⟨fun h => absurd hclazz (h s hs), fun h => absurd hclazz (h s hs).1⟩
  · rw [servingClass, if_neg hc]
    constructor
    · intro h s hs
      exact ⟨fun hclazz => hc ⟨s, hs, hclazz⟩, h s hs⟩
    · intro h s hs
      exact (h s hs).2

namespace Store

theorem own_add (store : Store) (s : Statement) (clazz : Text) :
    (store.add s).own clazz = store.own clazz ++ Statement.ofClass clazz [s] := by
  obtain ⟨buckets⟩ := store
  simp only [own, add, Statement.ofClass]
  induction buckets with
  | nil => by_cases hc : s.clazz = clazz <;> simp [insert, hc]
  | cons b rest ih =>
      obtain ⟨name, bucket⟩ := b
      rw [insert]
      by_cases hname : name = s.clazz
      · subst hname
        by_cases hc : s.clazz = clazz <;> simp [hc]
      · by_cases hc : name = clazz
        · subst hc
          simp [hname, Ne.symm hname]
        · simpa [hname, hc] using ih

theorem own_addAll (store : Store) (ss : List Statement) (clazz : Text) :
    (store.addAll ss).own clazz = store.own clazz ++ Statement.ofClass clazz ss := by
  induction ss generalizing store with
  | nil => simp [addAll, Statement.ofClass]
  | cons s ss ih =>
      have hstep : store.addAll (s :: ss) = (store.add s).addAll ss := rfl
      rw [hstep, ih, own_add, List.append_assoc]
      simp only [Statement.ofClass, ← List.filter_append, List.singleton_append]

@[simp] theorem own_ofList (ss : List Statement) (clazz : Text) :
    (ofList ss).own clazz = Statement.ofClass clazz ss := by
  rw [ofList, own_addAll]
  rfl

/-- A class is served by its own statements as soon as it has one. -/
theorem candidates_of_own_ne_nil {store : Store} {clazz : Text} (h : store.own clazz ≠ []) :
    store.candidates clazz = store.own clazz := by
  rw [candidates]
  split
  · next hnil => exact absurd hnil h
  · rfl

theorem candidates_of_own_eq_nil {store : Store} {clazz : Text} (h : store.own clazz = []) :
    store.candidates clazz = store.own Statement.defaultClass := by
  rw [candidates, h]

/-- The statements that serve a class are those of the class, or those of the default class if the
class has none. -/
@[simp] theorem candidates_ofList (ss : List Statement) (clazz : Text) :
    (ofList ss).candidates clazz = Statement.ofClass (Statement.servingClass ss clazz) ss := by
  by_cases hc : ∃ s ∈ ss, s.clazz = clazz
  · have hown : (ofList ss).own clazz ≠ [] := by
      obtain ⟨s, hs, hclazz⟩ := hc
      rw [own_ofList]
      exact List.ne_nil_of_mem (Statement.mem_ofClass.2 ⟨hs, hclazz⟩)
    rw [candidates_of_own_ne_nil hown, own_ofList, Statement.servingClass, if_pos hc]
  · have hown : (ofList ss).own clazz = [] := by
      rw [own_ofList, Statement.ofClass_eq_nil_iff]
      exact fun s hs hclazz => hc ⟨s, hs, hclazz⟩
    rw [candidates_of_own_eq_nil hown, own_ofList, Statement.servingClass, if_neg hc]

end Store

end LogHarvest
