import LogHarvest.Proofs.Java.CallOrder
import LogHarvest.Proofs.Java.Ownership
import Mathlib.Data.List.Nodup

/-!
# Types around log calls and types in the table of fields

The types around a log call are read off the way from the root of the tree to the call, and the
table of fields is made by a walk over the whole tree. Both go by the same kinds of nodes and all of
these have names, so every type around a call is in the table. The table has one entry for each
name: the first declaration of a name makes the entry, and every one of them adds its fields to it.
-/

namespace LogHarvest

open LogCall (fieldsOf)

namespace Java

variable {source : Text}

/-! ### The way to a place -/

/-- The nodes on the way from a root to a place, outermost first and without the node there. -/
def Tree.outer : Tree → (place : List Nat) → List Tree
  | _, [] => []
  | t, i :: place =>
    t :: match t.children[i]? with
      | some c => c.2.outer place
      | none => []

/-- The nodes around a node are those on the way to it, back to the root. -/
theorem Located.around_of_at? {l m : Located} {place : List Nat} (h : l.at? place = some m) :
    m.around = (l.tree.outer place).reverse ++ l.around := by
  induction place generalizing l with
  | nil =>
      obtain rfl := Option.some.inj h
      rfl
  | cons i place ih =>
      obtain ⟨next, hnext, hrest⟩ := Option.bind_eq_some_iff.1 h
      rw [Located.inner, List.getElem?_map] at hnext
      obtain ⟨c, hc, rfl⟩ := Option.map_eq_some_iff.1 hnext
      rw [ih hrest, Tree.outer, hc, List.reverse_cons, List.append_assoc, List.singleton_append]

/-! ### The names in the table -/

/-- A name that is new to the table comes after the others. -/
theorem map_fst_addFields (added : Text) (names : List Text) (fields : List (Text × List Text)) :
    (addFields added names fields).map Prod.fst =
      if added ∈ fields.map Prod.fst then fields.map Prod.fst
      else fields.map Prod.fst ++ [added] := by
  induction fields with
  | nil => rfl
  | cons f rest ih =>
      rw [addFields]
      by_cases hf : f.1 = added
      · simp [hf]
      · rw [if_neg hf, List.map_cons, ih]
        by_cases hrest : added ∈ rest.map Prod.fst <;> simp [hrest, Ne.symm hf]

/-- A table has one entry for each name of some declarations. -/
structure NamesOf (source : Text) (decls : List Located) (fields : List (Text × List Text)) :
    Prop where
  once : (fields.map Prod.fst).Nodup
  mem_iff : ∀ name, name ∈ fields.map Prod.fst ↔ ∃ l ∈ decls, nameOf source l.tree = some name

section Names

variable {decls : List Located} {fields : List (Text × List Text)}

theorem namesOf_nil : NamesOf source [] [] := ⟨List.nodup_nil, by simp⟩

theorem NamesOf.addDeclaration (h : NamesOf source decls fields) (l : Located) :
    NamesOf source (decls ++ [l]) (addDeclaration source fields l) := by
  have hdecls (name : Text) : (∃ m ∈ decls ++ [l], nameOf source m.tree = some name) ↔
      name ∈ fields.map Prod.fst ∨ nameOf source l.tree = some name := by
    rw [h.mem_iff]
    simp only [List.mem_append, List.mem_singleton, or_and_right, exists_or, exists_eq_left]
  unfold Java.addDeclaration
  -- A declaration makes an entry only if no earlier one of its name has made it.
  split
  · next added hadded =>
    rw [hadded] at hdecls
    constructor
    · rw [map_fst_addFields]
      split
      · exact h.once
      · next hnew => exact h.once.append (List.nodup_singleton added) (by simpa using hnew)
    · intro name
      rw [hdecls, map_fst_addFields, Option.some.injEq]
      split
      · next hold => exact (or_iff_left_of_imp fun heq => heq ▸ hold).symm
      · rw [List.mem_append, List.mem_singleton, eq_comm]
  · next hnone =>
    refine ⟨h.once, fun name => ?_⟩
    rw [hdecls, hnone]
    simp

theorem NamesOf.foldl (h : NamesOf source decls fields) (more : List Located) :
    NamesOf source (decls ++ more) (more.foldl (Java.addDeclaration source) fields) := by
  induction more generalizing decls fields with
  | nil =>
      rw [List.append_nil]
      exact h
  | cons l more ih =>
      have hmore := ih (h.addDeclaration l)
      rw [List.append_assoc] at hmore
      exact hmore

theorem namesOf_fieldsByType (source : Text) (t : Tree) :
    NamesOf source (Located.ofKind isTypeDecl t) (fieldsByType source t) :=
  namesOf_nil.foldl _

/-- The fields of a name are those in its entry. -/
theorem fieldsOf_of_mem (honce : (fields.map Prod.fst).Nodup) {entry : Text × List Text}
    (h : entry ∈ fields) : fieldsOf fields entry.1 = entry.2 := by
  induction fields with
  | nil => exact absurd h List.not_mem_nil
  | cons f rest ih =>
      obtain ⟨hf, hrest⟩ := List.nodup_cons.1 honce
      rw [fieldsOf_cons]
      obtain rfl | h := List.mem_cons.1 h
      · exact if_pos rfl
      · have hne : f.1 ≠ entry.1 := fun heq => hf (heq ▸ List.mem_map_of_mem h)
        rw [if_neg hne, ih hrest h]

end Names

/-! ### The table of a tree -/

/-- A declaration of a type, at any depth of a tree. -/
def IsTypeIn (tree t : Tree) : Prop :=
  isTypeDecl t.kind = true ∧ ∃ outer, Located.Below tree ⟨t, outer⟩

/-- A table of fields is that of a tree: all types have names, the table has one entry for each name
and no others, and in the entry are the fields that any of the types of that name declares. -/
structure IsTableOf (source : Text) (tree : Tree) (fields : List (Text × List Text)) : Prop where
  once : (fields.map Prod.fst).Nodup
  named : ∀ t, IsTypeIn tree t → ∃ name, nameOf source t = some name
  mem_iff : ∀ name, name ∈ fields.map Prod.fst ↔
    ∃ t, IsTypeIn tree t ∧ nameOf source t = some name
  mem_entry_iff : ∀ entry ∈ fields, ∀ field, field ∈ entry.2 ↔
    ∃ t, IsTypeIn tree t ∧ nameOf source t = some entry.1 ∧ DeclaresField source t field

theorem exists_mem_ofKind_iff (tree : Tree) (p : Tree → Prop) :
    (∃ l ∈ Located.ofKind isTypeDecl tree, p l.tree) ↔ ∃ t, IsTypeIn tree t ∧ p t := by
  constructor
  · rintro ⟨⟨t, outer⟩, hl, hp⟩
    obtain ⟨hbelow, htype⟩ := Located.mem_ofKind_iff.1 hl
    exact ⟨t, ⟨htype, outer, hbelow⟩, hp⟩
  · rintro ⟨t, ⟨htype, outer, hbelow⟩, hp⟩
    exact ⟨⟨t, outer⟩, Located.mem_ofKind_iff.2 ⟨hbelow, htype⟩, hp⟩

section Site

variable {tree : Tree}

theorem exists_nameOf_of_isTypeIn [Parser] [LawfulParser] (htree : parse? source = some tree)
    {t : Tree} (ht : IsTypeIn tree t) : ∃ name, nameOf source t = some name := by
  obtain ⟨htype, outer, hbelow⟩ := ht
  exact exists_nameOf_of_below htree hbelow (by simp [Kind.isNamed, htype])

theorem isTableOf_fieldsByType [Parser] [LawfulParser] (htree : parse? source = some tree) :
    IsTableOf source tree (fieldsByType source tree) := by
  have hnames := namesOf_fieldsByType source tree
  refine ⟨hnames.once, fun t ht => exists_nameOf_of_isTypeIn htree ht, ?names, ?entries⟩
  case names =>
    intro name
    rw [hnames.mem_iff]
    exact exists_mem_ofKind_iff tree fun t => nameOf source t = some name
  case entries =>
    intro entry hentry field
    rw [← fieldsOf_of_mem hnames.once hentry, mem_fieldsOf_fieldsByType]
    exact exists_mem_ofKind_iff tree fun t =>
      nameOf source t = some entry.1 ∧ DeclaresField source t field

/-! ### Log calls and the types around them -/

/-- What holds of a log call beside the table of its source: the names of the types around it are
those of the declarations around its node, one for each, and in the table. A call with a template
has arguments. -/
structure IsSite (source : Text) (methods : List Text) (fields : List (Text × List Text))
    (l : Located) (c : LogCall) : Prop extends IsLogCall source methods l c where
  types : List.Forall₂ (fun t name => nameOf source t = some name)
    (l.around.filter fun t => isTypeDecl t.kind) c.enclosing
  inTable : ∀ name ∈ c.enclosing, name ∈ fields.map Prod.fst
  argued : c.template ≠ none → 1 ≤ c.argumentCount

theorem forall₂_filterMap_nameOf {ts : List Tree}
    (h : ∀ t ∈ ts, ∃ name, nameOf source t = some name) :
    List.Forall₂ (fun t name => nameOf source t = some name) ts
      (ts.filterMap (nameOf source)) := by
  induction ts with
  | nil => exact .nil
  | cons t ts ih =>
      obtain ⟨ht, hts⟩ := List.forall_mem_cons.1 h
      obtain ⟨name, hname⟩ := ht
      rw [List.filterMap_cons_some hname]
      exact .cons hname (ih hts)

theorem isTypeIn_of_mem_around {l : Located} (hl : Located.Below tree l) {t : Tree}
    (ht : t ∈ l.around.filter fun t => isTypeDecl t.kind) : IsTypeIn tree t := by
  obtain ⟨haround, htype⟩ := List.mem_filter.1 ht
  exact ⟨htype, hl.exists_of_mem_around haround⟩

theorem ne_nil_of_templateOf {arguments : List Tree} {template : Option Text}
    (h : templateOf source arguments = .ok template) (hsome : template ≠ none) :
    arguments ≠ [] := by
  rintro rfl
  exact hsome (Except.ok.inj h).symm

theorem IsLogCall.isSite {methods : List Text} {fields : List (Text × List Text)} {l : Located}
    {c : LogCall} (hcall : IsLogCall source methods l c) (hl : Located.Below tree l)
    (htable : IsTableOf source tree fields) : IsSite source methods fields l c := by
  have htypes : List.Forall₂ (fun t name => nameOf source t = some name)
      (l.around.filter fun t => isTypeDecl t.kind) c.enclosing := by
    rw [hcall.enclosing, enclosingTypes]
    exact forall₂_filterMap_nameOf fun t ht => htable.named t (isTypeIn_of_mem_around hl ht)
  refine ⟨hcall, htypes, ?inTable, ?argued⟩
  case inTable =>
    intro name hname
    rw [hcall.enclosing] at hname
    obtain ⟨t, ht, hname⟩ := List.mem_filterMap.1 hname
    exact (htable.mem_iff name).2 ⟨t, isTypeIn_of_mem_around hl ht, hname⟩
  case argued =>
    intro htemplate
    rw [hcall.arguments]
    exact List.length_pos_of_ne_nil (ne_nil_of_templateOf hcall.template htemplate)

end Site

end Java

namespace SourceFacts

open Java

/-- A source without syntax errors has facts if it is text. There is one log call in them for each
call in the tree, at whatever depth, of one of the methods. The names of the types around it are
those of the type declarations on the way to it, one for each, from the innermost to the outermost,
and all of them are in the table; if it has a template it has arguments. In the table are the names
of all types of the source and no others, each once, with the fields that the types of that name
declare directly, in whatever order these types come. -/
theorem enclosing_in_table [Parser] [LawfulParser] {path source : Text} {methods : List Text}
    {tree : Tree} (htree : parse? source = some tree) :
    ((∀ c ∈ source, c.IsScalar) → ∃ facts, ofText path source methods = .ok facts) ∧
    (∀ place l, Located.at? ⟨tree, []⟩ place = some l → l.around = (tree.outer place).reverse) ∧
    ∀ facts, ofText path source methods = .ok facts →
      Located.EachOnce ⟨tree, []⟩ (CallsOneOf source (methodsOr methods))
        (IsSite source (methodsOr methods) facts.fields) facts.calls ∧
      IsTableOf source tree facts.fields := by
  refine ⟨?facts, ?around, ?sites⟩
  case facts =>
    intro hsource
    exact (exists_facts_iff htree).2 fun _ l _ _ => exists_templateOf hsource _
  case around =>
    intro place l hat
    rw [Located.around_of_at? hat, List.append_nil]
  case sites =>
    intro facts hfacts
    have htable : IsTableOf source tree facts.fields := by
      rw [(of_ofText htree hfacts).2]
      exact isTableOf_fieldsByType htree
    refine ⟨(eachOnce_calls htree hfacts).imp fun place l c hat hcall => ?_, htable⟩
    exact hcall.isSite (Located.below_iff_exists_at.2 ⟨place, hat⟩) htable

/-- An interface and an enum of one name in two classes, of which the first is around a call. -/
def sameNames : Text :=
  Text.ofString "class A\x7bL x;interface B\x7bL k=n;default void g()" ++
    Text.ofString "\x7bk.info(\"a\",1);\x7d\x7d\x7dclass C\x7benum B\x7bP;L z,k;\x7d\x7d"

/-- The two share an entry, and a class without fields has one. -/
theorem enclosing_in_table_sameNames :
    ∃ tree facts, parse? sameNames = some tree ∧ (∀ c ∈ sameNames, c.IsScalar) ∧
      ofText [] sameNames [] = .ok facts ∧
      facts.calls.map (·.enclosing) = [["B", "A"].map Text.ofString] ∧
      facts.fields.map Prod.fst = ["A", "B", "C"].map Text.ofString ∧
      facts.fields.map Prod.snd = [["x"], ["k", "z", "k"], []].map (·.map Text.ofString) ∧
      Located.EachOnce ⟨tree, []⟩ (CallsOneOf sameNames Level.names)
        (IsSite sameNames Level.names facts.fields) facts.calls ∧
      IsTableOf sameNames tree facts.fields ∧
      ∃ place l, Located.at? ⟨tree, []⟩ place = some l ∧ l.tree.kind = .call ∧
        l.around = (tree.outer place).reverse := by
  have hscalar : ∀ c ∈ sameNames, c.IsScalar := by decide +kernel
  obtain ⟨tree, facts, htree, hfacts, hcheck⟩ := exists_of_check sameNames
    (fun tree facts => decide
      (facts.calls.map (·.enclosing) = [["B", "A"].map Text.ofString] ∧
        facts.fields.map Prod.fst = ["A", "B", "C"].map Text.ofString ∧
        facts.fields.map Prod.snd = [["x"], ["k", "z", "k"], []].map (·.map Text.ofString)) &&
      (Located.at? ⟨tree, []⟩ [0, 1, 1, 1, 1, 3, 0, 0]).any fun l => l.tree.kind = .call)
    (by decide +kernel)
  obtain ⟨htexts, hplace⟩ := Bool.and_eq_true_iff.1 hcheck
  obtain ⟨henclosing, hnames, hfields⟩ := of_decide_eq_true htexts
  obtain ⟨l, hat, hkind⟩ := (Option.any_eq_true _ _).1 hplace
  obtain ⟨-, haround, hsites⟩ := @enclosing_in_table _ _ [] sameNames [] tree htree
  obtain ⟨heach, htable⟩ := hsites facts hfacts
  exact ⟨tree, facts, htree, hscalar, hfacts, henclosing, hnames, hfields, heach, htable,
    _, l, hat, of_decide_eq_true hkind, haround _ l hat⟩

end SourceFacts

end LogHarvest
