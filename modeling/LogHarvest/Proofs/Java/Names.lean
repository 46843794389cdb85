import LogHarvest.Java.Calls
import LogHarvest.Proofs.Java.Rule
import LogHarvest.Proofs.Java.Traversal

/-!
# What names a node

A child that names its parent is a single word of the source, and every declaration and call has
such a child. These are properties of the grammar as data: the role of a name is given to nothing
but a name rule, no other rule makes up a child in that role, and the rule of a node that needs a
name has one in each of its alternatives. A test on rules says so, what a rule gives keeps it, and
so does every way of walking the tree that comes of it.
-/

namespace LogHarvest.Java

/-! ### Rules -/

/-- The nodes that have a name: declarations of types and variables, and calls. -/
def Kind.isNamed (k : Kind) : Bool := isTypeDecl k || k = .declarator || k = .call

namespace Rule

variable {N : Type}

/-- A rule that takes a name and nothing else. -/
def isName : Rule N → Bool
  | .name _ => true
  | _ => false

/-- Whatever the rule takes, a child in the role of a name comes of it. -/
def givesName : Rule N → Bool
  | .role .name r => r.isName
  | .both a b => a.givesName || b.givesName
  | .either a b => a.givesName && b.givesName
  | _ => false

/-- The role of a name is given to names only, and to one for each node that has a name. -/
def wellNamed : Rule N → Bool
  | .role .name r => r.isName
  | .role _ r => r.wellNamed
  | .step _ part kind r => part ≠ .name && (!kind.isNamed || r.givesName) && r.wellNamed
  | .both a b => a.wellNamed && b.wellNamed
  | .either a b => a.wellNamed && b.wellNamed
  | .chain a b => a.wellNamed && b.wellNamed
  | .many r => r.wellNamed
  | .ahead r => r.wellNamed
  | .notAhead r => r.wellNamed
  | .token _ leaf => !leaf.isNamed
  | .node kind r => (!kind.isNamed || r.givesName) && r.wellNamed
  | .nodeUnlessSingle kind r => !kind.isNamed && r.wellNamed
  | .only _ r => r.wellNamed
  | _ => true

end Rule

theorem Grammar.rule_wellNamed (p : Part) : (Grammar.rule p).wellNamed = true := by
  cases p with
  | expression arrow => cases arrow <;> rfl
  | operand arrow => cases arrow <;> rfl
  | _ => rfl

/-! ### Trees -/

/-- Children that name a node of some kind: one at least, if such nodes have names. -/
def Names (kind : Kind) (children : List (Role × Tree)) : Prop :=
  kind.isNamed = true → ∃ c ∈ children, c.1 = .name

/-- Nodes that have names are named, and wherever a child of a node names the node, the span of the
child has a property. -/
inductive Tree.NamedBy (P : Span → Prop) : Tree → Prop where
  | node {kind : Kind} {span : Span} {children : List (Role × Tree)}
      (named : Names kind children)
      (names : ∀ c ∈ children, c.1 = .name → P c.2.span)
      (below : ∀ c ∈ children, c.2.NamedBy P) : NamedBy P (.node kind span children)

/-- The same of children whose parent is still to be made. -/
structure NamedAll (P : Span → Prop) (children : List (Role × Tree)) : Prop where
  names : ∀ c ∈ children, c.1 = .name → P c.2.span
  below : ∀ c ∈ children, c.2.NamedBy P

variable {P : Span → Prop}

theorem Tree.namedBy_iff {t : Tree} :
    t.NamedBy P ↔ Names t.kind t.children ∧ NamedAll P t.children := by
  constructor
  · rintro ⟨named, names, below⟩
    exact ⟨named, names, below⟩
  · rintro ⟨named, names, below⟩
    cases t
    exact .node named names below

theorem Tree.NamedBy.mono {Q : Span → Prop} {t : Tree} (h : t.NamedBy P)
    (hPQ : ∀ span, P span → Q span) : t.NamedBy Q := by
  induction h with
  | node named names below ih =>
      exact .node named (fun c hc hname => hPQ _ (names c hc hname)) ih

theorem namedAll_nil : NamedAll P [] := ⟨by simp, by simp⟩

theorem NamedAll.append {a b : List (Role × Tree)} (ha : NamedAll P a) (hb : NamedAll P b) :
    NamedAll P (a ++ b) := by
  constructor
  · intro c hc
    exact (List.mem_append.1 hc).elim (ha.names c) (hb.names c)
  · intro c hc
    exact (List.mem_append.1 hc).elim (ha.below c) (hb.below c)

/-- A single child in a role other than that of a name. -/
theorem namedAll_singleton {role : Role} {t : Tree} (hrole : role ≠ .name) (ht : t.NamedBy P) :
    NamedAll P [(role, t)] := by
  constructor
  · intro c hc hname
    obtain rfl := List.mem_singleton.1 hc
    exact absurd hname hrole
  · intro c hc
    obtain rfl := List.mem_singleton.1 hc
    exact ht

theorem names_of_not {kind : Kind} {children : List (Role × Tree)} (h : kind.isNamed = false) :
    Names kind children :=
  fun hnamed => absurd hnamed (by simp [h])

theorem namedBy_ofToken {kind : Kind} (h : kind.isNamed = false) (t : Token) :
    (Tree.ofToken kind t).NamedBy P :=
  Tree.namedBy_iff.2 ⟨names_of_not h, namedAll_nil⟩

/-! ### What rules give -/

namespace Rule

variable {N : Type} {grammar : N → Rule N} {tokens : List Token} {task : Task N}
  {children : List (Role × Tree)}

/-- What is given as a name is a word. -/
theorem exists_word_of_gives {subject : Option Tree} {r : Rule N} (hr : r.isName = true)
    (h : Gives grammar tokens (.take subject r) children) :
    ∃ t ∈ tokens, t.kind = .word ∧ children = [(.plain, Tree.ofToken .identifier t)] := by
  cases h with
  | name ht hword => exact ⟨_, ht, hword, rfl⟩
  | silent h => cases r <;> simp_all [isName, isSilent]
  | _ => simp [isName] at hr

/-- Whatever comes of a task, a child in the role of a name is among it. -/
def Task.givesName : Task N → Bool
  | .take _ r => r.givesName
  | .steps _ _ => false

/-- A rule that gives a name gives one whatever it takes. -/
theorem exists_name_of_gives (h : Gives grammar tokens task children)
    (ht : task.givesName = true) : ∃ c ∈ children, c.1 = .name := by
  induction h with
  | role h ih =>
      rename_i subject part r children
      obtain rfl : part = .name := by cases part <;> simp_all [Task.givesName, Rule.givesName]
      obtain ⟨t, -, -, rfl⟩ := exists_word_of_gives ht h
      exact ⟨_, List.mem_singleton.2 rfl, rfl⟩
  | both ha hb iha ihb =>
      obtain hfirst | hsecond := Bool.or_eq_true_iff.1 ht
      · obtain ⟨c, hc, hname⟩ := iha hfirst
        exact ⟨c, List.mem_append_left _ hc, hname⟩
      · obtain ⟨c, hc, hname⟩ := ihb hsecond
        exact ⟨c, List.mem_append_right _ hc, hname⟩
  | first h ih => exact ih (Bool.and_eq_true_iff.1 ht).1
  | second h ih => exact ih (Bool.and_eq_true_iff.1 ht).2
  | silent h =>
      rename_i subject rule
      cases rule <;> simp_all [Task.givesName, Rule.givesName, isSilent]
  | _ => simp [Task.givesName, Rule.givesName] at ht

/-- What the rule of a node gives names the node. -/
theorem names_of_gives {kind : Kind} {subject : Option Tree} {r : Rule N}
    (hr : (!kind.isNamed || r.givesName) = true)
    (h : Gives grammar tokens (.take subject r) children) : Names kind children := by
  intro hkind
  rw [hkind] at hr
  exact exists_name_of_gives h (by simpa [Task.givesName] using hr)

/-- A rule and the tree that it is taken on are well named. -/
def Task.WellNamed (P : Span → Prop) : Task N → Prop
  | .take subject r => (∀ t ∈ subject, Tree.NamedBy P t) ∧ r.wellNamed = true
  | .steps tree r => tree.NamedBy P ∧ r.wellNamed = true

theorem namedAll_of_gives (hg : ∀ n, (grammar n).wellNamed = true)
    (hP : ∀ t ∈ tokens, t.kind = .word → P ⟨t.start, t.stop, t.row⟩)
    (h : Gives grammar tokens task children) (ht : task.WellNamed P) : NamedAll P children := by
  induction h with
  | silent h => exact namedAll_nil
  | name ht hword => exact namedAll_singleton (by decide) (namedBy_ofToken rfl _)
  | token _ =>
      exact namedAll_singleton (by decide) (namedBy_ofToken (by simpa [wellNamed] using ht.2) _)
  | named h ih => exact ih ⟨ht.1, hg _⟩
  | both ha hb iha ihb =>
      obtain ⟨hfirst, hsecond⟩ := Bool.and_eq_true_iff.1 ht.2
      exact (iha ⟨ht.1, hfirst⟩).append (ihb ⟨ht.1, hsecond⟩)
  | first h ih => exact ih ⟨ht.1, (Bool.and_eq_true_iff.1 ht.2).1⟩
  | second h ih => exact ih ⟨ht.1, (Bool.and_eq_true_iff.1 ht.2).2⟩
  | none => exact namedAll_nil
  | more ha hb iha ihb => exact (iha ht).append (ihb ht)
  | role h ih =>
      rename_i subject part r children
      by_cases hpart : part = .name
      · subst hpart
        obtain ⟨t, hmem, hword, rfl⟩ := exists_word_of_gives ht.2 h
        constructor
        · intro c hc _
          obtain rfl := List.mem_singleton.1 hc
          exact hP t hmem hword
        · intro c hc
          obtain rfl := List.mem_singleton.1 hc
          exact namedBy_ofToken rfl t
      · have hrule := ht.2
        have hr : r.wellNamed = true := by cases part <;> simp_all [wellNamed]
        constructor
        · intro c hc hname
          obtain ⟨d, -, rfl⟩ := List.mem_map.1 hc
          exact absurd hname hpart
        · intro c hc
          obtain ⟨d, hd, rfl⟩ := List.mem_map.1 hc
          exact (ih ⟨ht.1, hr⟩).below d hd
  | node h ih =>
      obtain ⟨hname, hr⟩ := Bool.and_eq_true_iff.1 ht.2
      exact namedAll_singleton (by decide)
        (Tree.namedBy_iff.2 ⟨names_of_gives hname h, ih ⟨ht.1, hr⟩⟩)
  | single h ih => exact ih ⟨ht.1, (Bool.and_eq_true_iff.1 ht.2).2⟩
  | several h ih =>
      rename_i subject kind r children span
      obtain ⟨hkind, hr⟩ := Bool.and_eq_true_iff.1 ht.2
      have hnot : kind.isNamed = false := by simpa using hkind
      exact namedAll_singleton (by decide)
        (Tree.namedBy_iff.2 ⟨names_of_not hnot, ih ⟨ht.1, hr⟩⟩)
  | chain hbase hsteps ihbase ihsteps =>
      obtain ⟨hb, hs⟩ := Bool.and_eq_true_iff.1 ht.2
      have htree := (ihbase ⟨by simp, hb⟩).below _ (List.mem_singleton.2 rfl)
      exact ihsteps ⟨htree, hs⟩
  | step h ih =>
      rename_i subjects part kind r tree children span
      obtain ⟨hstep, hr⟩ := Bool.and_eq_true_iff.1 ht.2
      obtain ⟨hpart, hname⟩ := Bool.and_eq_true_iff.1 hstep
      have htree := namedAll_singleton (by simpa using hpart) (ht.1 tree rfl)
      have hnames : Names kind ((part, tree) :: children) := by
        intro hkind
        obtain ⟨c, hc, hrole⟩ := names_of_gives hname h hkind
        exact ⟨c, List.mem_cons_of_mem _ hc, hrole⟩
      exact namedAll_singleton (by decide)
        (Tree.namedBy_iff.2 ⟨hnames, htree.append (ih ⟨by simp, hr⟩)⟩)
  | only h ih => exact ih ht
  | stop => exact namedAll_singleton (by decide) ht.1
  | grow hstep hsteps ihstep ihsteps =>
      have hgrown := ihstep ⟨by simpa using ht.1, ht.2⟩
      exact ihsteps ⟨hgrown.below _ (List.mem_singleton.2 rfl), ht.2⟩

end Rule

/-- The span of one of the words among some tokens. -/
def IsWordSpan (ts : List Token) (span : Span) : Prop :=
  ∃ word ∈ ts, word.kind = .word ∧ span = ⟨word.start, word.stop, word.row⟩

/-- In the tree of some tokens, what names a node is one of the words. -/
theorem Tree.namedBy_of_ofTokens {ts : List Token} {t : Tree} (h : ofTokens? ts = some t) :
    t.NamedBy (IsWordSpan ts) := by
  obtain ⟨role, hgives⟩ := Rule.exists_gives_of_ofTokens h
  have hwords : ∀ word ∈ ts, word.kind = .word →
      IsWordSpan ts ⟨word.start, word.stop, word.row⟩ :=
    fun word hword hkind => ⟨word, hword, hkind, rfl⟩
  have hall := Rule.namedAll_of_gives Grammar.rule_wellNamed hwords hgives ⟨by simp, rfl⟩
  exact hall.below (role, t) (List.mem_singleton.2 rfl)

/-! ### Walking a tree -/

/-- A node and the nodes around it are well named. -/
def Located.NamedBy (P : Span → Prop) (l : Located) : Prop :=
  l.tree.NamedBy P ∧ ∀ t ∈ l.around, t.NamedBy P

theorem Located.NamedBy.inner {l : Located} (h : l.NamedBy P) : ∀ m ∈ l.inner, m.NamedBy P := by
  intro m hm
  obtain ⟨c, hc, rfl⟩ := List.mem_map.1 hm
  exact ⟨(Tree.namedBy_iff.1 h.1).2.below c hc, List.forall_mem_cons.2 h⟩

theorem Located.Below.namedBy {root : Tree} {l : Located} (hl : Below root l)
    (h : root.NamedBy P) : l.NamedBy P := by
  induction hl with
  | root => exact ⟨h, by simp⟩
  | inner outer hm ih => exact ih.inner _ hm

end LogHarvest.Java
