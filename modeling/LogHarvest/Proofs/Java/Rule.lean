import LogHarvest.Java.Grammar

/-!
# What rules give

Taking a rule off the front of some tokens tries alternatives, looks ahead and counts down fuel. The
children that come of it are derived without any of that, by one way of making children for each
kind of rule. So what holds of the children of a rule is shown by induction on how they were made.

Where a rule looks ahead, or says that something is not ahead, only the choice depends on it. The
derivation therefore allows more than taking the rule does: it says what a rule can give and not
when.
-/

namespace LogHarvest.Java.Rule

variable {N : Type}

/-- What is to be done: to take a rule, with a subject for a step, or to take steps from a tree. -/
inductive Task (N : Type) where
  | take (subject : Option Tree) (rule : Rule N)
  | steps (tree : Tree) (steps : Rule N)

/-- A rule that makes no children. -/
def isSilent : Rule N → Bool
  | .nothing | .symbols _ | .keyword _ | .ahead _ | .notAhead _ => true
  | _ => false

section

variable (grammar : N → Rule N) (tokens : List Token)

/-- The children that can be made of some tokens. -/
inductive Gives : Task N → List (Role × Tree) → Prop
  | silent {subject : Option Tree} {rule : Rule N} (h : rule.isSilent = true) :
      Gives (.take subject rule) []
  | name {subject : Option Tree} {reserved : List Text} {t : Token} (ht : t ∈ tokens)
      (hword : t.kind = .word) :
      Gives (.take subject (.name reserved)) [(.plain, Tree.ofToken .identifier t)]
  | token {subject : Option Tree} {kind : TokenKind} {leaf : Kind} {t : Token} (ht : t ∈ tokens) :
      Gives (.take subject (.token kind leaf)) [(.plain, Tree.ofToken leaf t)]
  | named {subject : Option Tree} {n : N} {children : List (Role × Tree)}
      (h : Gives (.take subject (grammar n)) children) : Gives (.take subject (.named n)) children
  | both {subject : Option Tree} {first second : Rule N} {a b : List (Role × Tree)}
      (ha : Gives (.take subject first) a) (hb : Gives (.take subject second) b) :
      Gives (.take subject (.both first second)) (a ++ b)
  | first {subject : Option Tree} {first second : Rule N} {children : List (Role × Tree)}
      (h : Gives (.take subject first) children) :
      Gives (.take subject (.either first second)) children
  | second {subject : Option Tree} {first second : Rule N} {children : List (Role × Tree)}
      (h : Gives (.take subject second) children) :
      Gives (.take subject (.either first second)) children
  | none {subject : Option Tree} {r : Rule N} : Gives (.take subject (.many r)) []
  | more {subject : Option Tree} {r : Rule N} {a b : List (Role × Tree)}
      (ha : Gives (.take subject r) a) (hb : Gives (.take subject (.many r)) b) :
      Gives (.take subject (.many r)) (a ++ b)
  | role {subject : Option Tree} {part : Role} {r : Rule N} {children : List (Role × Tree)}
      (h : Gives (.take subject r) children) :
      Gives (.take subject (.role part r)) (children.map fun c => (part, c.2))
  | node {subject : Option Tree} {kind : Kind} {r : Rule N} {children : List (Role × Tree)}
      {span : Span} (h : Gives (.take subject r) children) :
      Gives (.take subject (.node kind r)) [(.plain, .node kind span children)]
  | single {subject : Option Tree} {kind : Kind} {r : Rule N} {child : Role × Tree}
      (h : Gives (.take subject r) [child]) :
      Gives (.take subject (.nodeUnlessSingle kind r)) [child]
  | several {subject : Option Tree} {kind : Kind} {r : Rule N} {children : List (Role × Tree)}
      {span : Span} (h : Gives (.take subject r) children) :
      Gives (.take subject (.nodeUnlessSingle kind r)) [(.plain, .node kind span children)]
  | chain {subject : Option Tree} {base steps : Rule N} {role : Role} {tree : Tree}
      {children : List (Role × Tree)} (hbase : Gives (.take none base) [(role, tree)])
      (hsteps : Gives (.steps tree steps) children) :
      Gives (.take subject (.chain base steps)) children
  | step {subjects : Kind → Bool} {part : Role} {kind : Kind} {r : Rule N} {tree : Tree}
      {children : List (Role × Tree)} {span : Span} (h : Gives (.take none r) children) :
      Gives (.take (some tree) (.step subjects part kind r))
        [(.plain, .node kind span ((part, tree) :: children))]
  | only {subject : Option Tree} {kinds : Kind → Bool} {r : Rule N} {child : Role × Tree}
      (h : Gives (.take subject r) [child]) : Gives (.take subject (.only kinds r)) [child]
  | stop {tree : Tree} {steps : Rule N} : Gives (.steps tree steps) [(.plain, tree)]
  | grow {tree grown : Tree} {steps : Rule N} {role : Role} {children : List (Role × Tree)}
      (hstep : Gives (.take (some tree) steps) [(role, grown)])
      (hsteps : Gives (.steps grown steps) children) : Gives (.steps tree steps) children

end

/-! ### Taking a rule -/

theorem subset_of_takeSymbols {texts : List Text} {ts rest : List Token}
    (h : takeSymbols texts ts = some rest) : rest ⊆ ts := by
  fun_induction takeSymbols texts ts with
  | case1 ts =>
      obtain rfl := Option.some.inj h
      exact List.Subset.refl _
  | case2 t ts =>
      obtain rfl := Option.some.inj h
      exact List.subset_cons_self t ts
  | case3 => simp at h
  | case4 => rename_i ih; exact fun t ht => List.mem_cons_of_mem _ (ih h ht)
  | case5 => simp at h
  | case6 => simp at h

variable {grammar : N → Rule N} {tokens : List Token}

/-- The children in a result are derived, and the tokens in it are among those there were. -/
def Derived (grammar : N → Rule N) (tokens : List Token) (task : Task N) (result : Result) : Prop :=
  ∀ children rest, result = some (children, rest) →
    Gives grammar tokens task children ∧ rest ⊆ tokens

theorem derived_none (task : Task N) : Derived grammar tokens task none := by
  intro children rest h
  simp at h

theorem derived_some {task : Task N} {children : List (Role × Tree)} {rest : List Token}
    (h : Gives grammar tokens task children) (hrest : rest ⊆ tokens) :
    Derived grammar tokens task (some (children, rest)) := by
  intro children' rest' heq
  obtain ⟨rfl, rfl⟩ := Prod.mk.inj (Option.some.inj heq)
  exact ⟨h, hrest⟩

/-- What is taken with some fuel is derived. -/
structure TakesDerived (grammar : N → Rule N) (tokens : List Token) (fuel : Nat) : Prop where
  take : ∀ subject rule ts, ts ⊆ tokens →
    Derived grammar tokens (.take subject rule) (take grammar fuel subject rule ts)
  steps : ∀ tree steps ts, ts ⊆ tokens →
    Derived grammar tokens (.steps tree steps) (takeSteps grammar fuel tree steps ts)

section Step

variable {fuel : Nat} {ts : List Token}

theorem TakesDerived.take_succ (ih : TakesDerived grammar tokens fuel) (subject : Option Tree)
    (rule : Rule N) (hts : ts ⊆ tokens) :
    Derived grammar tokens (.take subject rule) (Rule.take grammar (fuel + 1) subject rule ts) := by
  cases rule with
  | nothing => exact derived_some (.silent rfl) hts
  | symbols texts =>
      intro children rest h
      obtain ⟨rest', hrest, heq⟩ := Option.map_eq_some_iff.1 h
      obtain ⟨rfl, rfl⟩ := Prod.mk.inj heq
      exact ⟨.silent rfl, List.Subset.trans (subset_of_takeSymbols hrest) hts⟩
  | keyword text =>
      cases ts with
      | nil => exact derived_none _
      | cons t rest =>
          simp only [Rule.take]
          split
          · exact derived_some (.silent rfl) (List.cons_subset.1 hts).2
          · exact derived_none _
  | name reserved =>
      cases ts with
      | nil => exact derived_none _
      | cons t rest =>
          obtain ⟨ht, hrest⟩ := List.cons_subset.1 hts
          simp only [Rule.take]
          split
          · next hword => exact derived_some (.name ht hword.1) hrest
          · exact derived_none _
  | token kind leaf =>
      cases ts with
      | nil => exact derived_none _
      | cons t rest =>
          obtain ⟨ht, hrest⟩ := List.cons_subset.1 hts
          simp only [Rule.take]
          split
          · exact derived_some (.token ht) hrest
          · exact derived_none _
  | named n =>
      intro children rest h
      exact (ih.take subject (grammar n) ts hts _ _ h).imp_left .named
  | both first second =>
      simp only [Rule.take]
      split
      · exact derived_none _
      · next a rest ha =>
        obtain ⟨ha, hrest⟩ := ih.take subject first ts hts _ _ ha
        split
        · exact derived_none _
        · next b rest' hb =>
          obtain ⟨hb, hrest'⟩ := ih.take subject second rest hrest _ _ hb
          exact derived_some (.both ha hb) hrest'
  | either first second =>
      simp only [Rule.take]
      split
      · next children rest h =>
        obtain ⟨h, hrest⟩ := ih.take subject first ts hts _ _ h
        exact derived_some (.first h) hrest
      · intro children rest h
        exact (ih.take subject second ts hts _ _ h).imp_left .second
  | many r =>
      simp only [Rule.take]
      split
      · exact derived_some .none hts
      · next a rest ha =>
        obtain ⟨ha, hrest⟩ := ih.take subject r ts hts _ _ ha
        split
        · split
          · next b rest' hb =>
            obtain ⟨hb, hrest'⟩ := ih.take subject (.many r) rest hrest _ _ hb
            exact derived_some (.more ha hb) hrest'
          · exact derived_none _
        · rw [← List.append_nil a]
          exact derived_some (.more ha .none) hrest
  | ahead r =>
      simp only [Rule.take]
      split
      · exact derived_some (.silent rfl) hts
      · exact derived_none _
  | notAhead r =>
      simp only [Rule.take]
      split
      · exact derived_none _
      · exact derived_some (.silent rfl) hts
  | role part r =>
      simp only [Rule.take]
      split
      · next children rest h =>
        obtain ⟨h, hrest⟩ := ih.take subject r ts hts _ _ h
        exact derived_some (.role h) hrest
      · exact derived_none _
  | node kind r =>
      simp only [Rule.take]
      split
      · next children rest h =>
        obtain ⟨h, hrest⟩ := ih.take subject r ts hts _ _ h
        exact derived_some (.node h) hrest
      · exact derived_none _
  | nodeUnlessSingle kind r =>
      simp only [Rule.take]
      split
      · next child rest h =>
        obtain ⟨h, hrest⟩ := ih.take subject r ts hts _ _ h
        exact derived_some (.single h) hrest
      · next children rest _ h =>
        obtain ⟨h, hrest⟩ := ih.take subject r ts hts _ _ h
        exact derived_some (.several h) hrest
      · exact derived_none _
  | chain base steps =>
      simp only [Rule.take]
      split
      · next role tree rest h =>
        obtain ⟨hbase, hrest⟩ := ih.take none base ts hts _ _ h
        intro children rest' hsteps
        exact (ih.steps tree steps rest hrest _ _ hsteps).imp_left (.chain hbase)
      · exact derived_none _
  | step subjects part kind r =>
      simp only [Rule.take]
      split
      · exact derived_none _
      · split
        · split
          · next children rest h =>
            obtain ⟨h, hrest⟩ := ih.take none r ts hts _ _ h
            exact derived_some (.step h) hrest
          · exact derived_none _
        · exact derived_none _
  | only kinds r =>
      simp only [Rule.take]
      split
      · next child rest h =>
        obtain ⟨h, hrest⟩ := ih.take subject r ts hts _ _ h
        split
        · exact derived_some (.only h) hrest
        · exact derived_none _
      · exact derived_none _

theorem TakesDerived.takeSteps_succ (ih : TakesDerived grammar tokens fuel) (tree : Tree)
    (steps : Rule N) (hts : ts ⊆ tokens) :
    Derived grammar tokens (.steps tree steps)
      (takeSteps grammar (fuel + 1) tree steps ts) := by
  simp only [takeSteps]
  split
  · next role grown rest h =>
    obtain ⟨hstep, hrest⟩ := ih.take (some tree) steps ts hts _ _ h
    intro children rest' hsteps
    exact (ih.steps grown steps rest hrest _ _ hsteps).imp_left (.grow hstep)
  · exact derived_some .stop hts

end Step

theorem takesDerived (grammar : N → Rule N) (tokens : List Token) (fuel : Nat) :
    TakesDerived grammar tokens fuel := by
  induction fuel with
  | zero => exact ⟨fun _ _ _ _ => derived_none _, fun _ _ _ _ => derived_none _⟩
  | succ fuel ih =>
      exact ⟨fun subject rule _ hts => ih.take_succ subject rule hts,
        fun tree steps _ hts => ih.takeSteps_succ tree steps hts⟩

/-- What a rule takes off some tokens can be made of them. -/
theorem gives_of_take {fuel : Nat} {subject : Option Tree} {rule : Rule N} {ts rest : List Token}
    {children : List (Role × Tree)}
    (h : take grammar fuel subject rule ts = some (children, rest)) :
    Gives grammar ts (.take subject rule) children :=
  ((takesDerived grammar ts fuel).take subject rule ts (List.Subset.refl _) _ _ h).1

/-- The tree of some tokens is what the rule of a program gives. -/
theorem exists_gives_of_ofTokens {ts : List Token} {t : Tree} (h : Tree.ofTokens? ts = some t) :
    ∃ role, Gives Grammar.rule ts (.take none (.node .other (.named .program))) [(role, t)] := by
  unfold Tree.ofTokens? at h
  split at h
  · next role tree htake =>
    obtain rfl := Option.some.inj h
    exact ⟨role, gives_of_take htake⟩
  · simp at h

end LogHarvest.Java.Rule
