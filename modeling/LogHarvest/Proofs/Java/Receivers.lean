import LogHarvest.Proofs.Java.Rule
import LogHarvest.Proofs.Java.Traversal

/-!
# Receivers come first

A receiver is the first child of its call, because a rule of the grammar gives its role in no other
way than by a step, and a step puts the tree that it is taken on before everything else.
-/

namespace LogHarvest.Java

/-! ### Rules -/

namespace Rule

variable {N : Type}

/-- The role of a receiver is given by steps only. -/
def receiverFirst : Rule N → Bool
  | .role part r => part ≠ .object && r.receiverFirst
  | .both a b => a.receiverFirst && b.receiverFirst
  | .either a b => a.receiverFirst && b.receiverFirst
  | .chain a b => a.receiverFirst && b.receiverFirst
  | .many r => r.receiverFirst
  | .ahead r => r.receiverFirst
  | .notAhead r => r.receiverFirst
  | .node _ r => r.receiverFirst
  | .nodeUnlessSingle _ r => r.receiverFirst
  | .step _ _ _ r => r.receiverFirst
  | .only _ r => r.receiverFirst
  | _ => true

end Rule

theorem Grammar.rule_receiverFirst (p : Part) : (Grammar.rule p).receiverFirst = true := by
  cases p with
  | expression arrow => cases arrow <;> rfl
  | operand arrow => cases arrow <;> rfl
  | _ => rfl

/-! ### Trees -/

/-- A receiver, of the node or of any node below it, comes before the other children. -/
inductive Tree.ReceiverFirst : Tree → Prop where
  | node {kind : Kind} {span : Span} {children : List (Role × Tree)}
      (first : ∀ c ∈ children.tail, c.1 ≠ .object)
      (below : ∀ c ∈ children, c.2.ReceiverFirst) : ReceiverFirst (.node kind span children)

theorem Tree.receiverFirst_iff {t : Tree} :
    t.ReceiverFirst ↔
      (∀ c ∈ t.children.tail, c.1 ≠ .object) ∧ ∀ c ∈ t.children, c.2.ReceiverFirst := by
  constructor
  · rintro ⟨first, below⟩
    exact ⟨first, below⟩
  · rintro ⟨first, below⟩
    cases t
    exact .node first below

/-! ### What rules give -/

namespace Rule

variable {N : Type} {grammar : N → Rule N} {tokens : List Token} {task : Task N}
  {children : List (Role × Tree)}

/-- Children none of which is a receiver. -/
def NoReceiver (children : List (Role × Tree)) : Prop :=
  ∀ c ∈ children, c.1 ≠ .object ∧ c.2.ReceiverFirst

theorem NoReceiver.append {a b : List (Role × Tree)} (ha : NoReceiver a) (hb : NoReceiver b) :
    NoReceiver (a ++ b) :=
  List.forall_mem_append.2 ⟨ha, hb⟩

theorem noReceiver_singleton {t : Tree} (ht : t.ReceiverFirst) : NoReceiver [(.plain, t)] := by
  intro c hc
  obtain rfl := List.mem_singleton.1 hc
  exact ⟨nofun, ht⟩

theorem NoReceiver.receiverFirst {kind : Kind} {span : Span} (h : NoReceiver children) :
    (Tree.node kind span children).ReceiverFirst :=
  .node (fun c hc => (h c (List.mem_of_mem_tail hc)).1) fun c hc => (h c hc).2

/-- Receivers come first in a rule and in the tree that it is taken on. -/
def Task.ReceiverFirst : Task N → Prop
  | .take subject r => (∀ t ∈ subject, Tree.ReceiverFirst t) ∧ r.receiverFirst = true
  | .steps tree r => tree.ReceiverFirst ∧ r.receiverFirst = true

theorem noReceiver_of_gives (hg : ∀ n, (grammar n).receiverFirst = true)
    (h : Gives grammar tokens task children) (ht : task.ReceiverFirst) : NoReceiver children := by
  induction h with
  | silent h => exact fun c hc => absurd hc List.not_mem_nil
  | none => exact fun c hc => absurd hc List.not_mem_nil
  | name _ _ => exact noReceiver_singleton (.node (by simp) (by simp))
  | token _ => exact noReceiver_singleton (.node (by simp) (by simp))
  | named h ih => exact ih ⟨ht.1, hg _⟩
  | both ha hb iha ihb =>
      obtain ⟨hfirst, hsecond⟩ := Bool.and_eq_true_iff.1 ht.2
      exact (iha ⟨ht.1, hfirst⟩).append (ihb ⟨ht.1, hsecond⟩)
  | first h ih => exact ih ⟨ht.1, (Bool.and_eq_true_iff.1 ht.2).1⟩
  | second h ih => exact ih ⟨ht.1, (Bool.and_eq_true_iff.1 ht.2).2⟩
  | more ha hb iha ihb => exact (iha ht).append (ihb ht)
  | role h ih =>
      obtain ⟨hpart, hr⟩ := Bool.and_eq_true_iff.1 ht.2
      intro c hc
      obtain ⟨d, hd, rfl⟩ := List.mem_map.1 hc
      exact ⟨of_decide_eq_true hpart, (ih ⟨ht.1, hr⟩ d hd).2⟩
  | node h ih => exact noReceiver_singleton (ih ht).receiverFirst
  | single h ih => exact ih ht
  | several h ih => exact noReceiver_singleton (ih ht).receiverFirst
  | chain hbase hsteps ihbase ihsteps =>
      obtain ⟨hb, hs⟩ := Bool.and_eq_true_iff.1 ht.2
      have htree := ihbase ⟨by simp, hb⟩ _ (List.mem_singleton.2 rfl)
      exact ihsteps ⟨htree.2, hs⟩
  | step h ih =>
      -- The subject is the one child that may be a receiver, and it is put first.
      have hchildren := ih ⟨by simp, ht.2⟩
      refine noReceiver_singleton (.node (fun c hc => (hchildren c hc).1) ?_)
      exact List.forall_mem_cons.2 ⟨ht.1 _ rfl, fun c hc => (hchildren c hc).2⟩
  | only h ih => exact ih ht
  | stop => exact noReceiver_singleton ht.1
  | grow hstep hsteps ihstep ihsteps =>
      have hgrown := ihstep ⟨by simpa using ht.1, ht.2⟩ _ (List.mem_singleton.2 rfl)
      exact ihsteps ⟨hgrown.2, ht.2⟩

end Rule

theorem Tree.receiverFirst_of_ofTokens {ts : List Token} {t : Tree} (h : ofTokens? ts = some t) :
    t.ReceiverFirst := by
  obtain ⟨role, hgives⟩ := Rule.exists_gives_of_ofTokens h
  have hall := Rule.noReceiver_of_gives Grammar.rule_receiverFirst hgives ⟨by simp, rfl⟩
  exact (hall (role, t) (List.mem_singleton.2 rfl)).2

/-! ### Walking a tree -/

theorem Located.Below.receiverFirst {root : Tree} {l : Located} (hl : Below root l)
    (h : root.ReceiverFirst) : l.tree.ReceiverFirst := by
  induction hl with
  | root => exact h
  | inner outer hm ih =>
      obtain ⟨c, hc, rfl⟩ := List.mem_map.1 hm
      exact (Tree.receiverFirst_iff.1 ih).2 c hc

/-- A child that is a receiver has a lower number than one with another role. -/
theorem Tree.ReceiverFirst.lt {t object other : Tree} (h : t.ReceiverFirst) {i j : Nat}
    {role : Role} (hobject : t.children[i]? = some (.object, object))
    (hother : t.children[j]? = some (role, other)) (hrole : role ≠ .object) : i < j := by
  obtain rfl : i = 0 := by
    cases i with
    | zero => rfl
    | succ i =>
        rw [← List.getElem?_tail] at hobject
        exact absurd rfl ((receiverFirst_iff.1 h).1 _ (List.mem_of_getElem? hobject))
  refine Nat.pos_of_ne_zero ?_
  rintro rfl
  have hsame := Option.some.inj (hobject.symm.trans hother)
  exact hrole (Prod.mk.inj hsame).1.symm

end LogHarvest.Java
