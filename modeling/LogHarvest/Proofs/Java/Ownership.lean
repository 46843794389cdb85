import LogHarvest.Proofs.Java.Calls
import Mathlib.Data.List.Pairwise

/-!
# Which type owns a log call

The owner of a call is looked up in a table of fields by the names of the types around the call.
The table and the names come from different walks over the tree, which agree: a type around a call
is visited when the table is made, so if no two types share a name, its entry holds the fields
that it declares in its own body and no others. The owner is then the innermost type around the
call that declares a field named like the word that the method is called on.

That word is taken for the receiver also where the method is called on `super` and the word only
says whose `super` is meant.
-/

namespace LogHarvest

open LogCall (fieldsOf)

namespace Java

variable {source : Text}

/-! ### Declared fields -/

/-- A member of the body of a type: it stands in the body or, in an enum, after the constants. -/
inductive IsMember (type : Tree) : Tree → Prop
  | direct {body : Tree} {c : Role × Tree} (hbody : type.child? .body = some body)
      (hc : c ∈ body.children) (hkind : c.2.kind ≠ .enumMembers) : IsMember type c.2
  | afterConstants {body : Tree} {c d : Role × Tree} (hbody : type.child? .body = some body)
      (hc : c ∈ body.children) (hkind : c.2.kind = .enumMembers) (hd : d ∈ c.2.children) :
      IsMember type d.2

/-- A type declares a field or a constant directly in its body. -/
def DeclaresField (source : Text) (type : Tree) (field : Text) : Prop :=
  ∃ m d, IsMember type m ∧ isFieldDecl m.kind = true ∧ (Role.declarator, d) ∈ m.children ∧
    nameOf source d = some field

theorem Tree.mem_childrenWith {t d : Tree} {role : Role} :
    d ∈ t.childrenWith role ↔ (role, d) ∈ t.children := by
  simp only [childrenWith, List.mem_map, List.mem_filter, decide_eq_true_eq]
  constructor
  · rintro ⟨⟨role, d⟩, ⟨hmem, rfl⟩, rfl⟩
    exact hmem
  · intro hmem
    exact ⟨(role, d), ⟨hmem, rfl⟩, rfl⟩

theorem isMember_iff {type m : Tree} :
    IsMember type m ↔ ∃ body, type.child? .body = some body ∧ m ∈ members body := by
  constructor
  · intro h
    cases h with
    | direct hbody hc hkind =>
        exact ⟨_, hbody, List.mem_flatMap.2 ⟨_, hc, by simp [hkind]⟩⟩
    | afterConstants hbody hc hkind hd =>
        refine ⟨_, hbody, List.mem_flatMap.2 ⟨_, hc, ?_⟩⟩
        rw [if_pos hkind]
        exact List.mem_map_of_mem hd
  · rintro ⟨body, hbody, hm⟩
    obtain ⟨c, hc, hm⟩ := List.mem_flatMap.1 hm
    split at hm
    · next hkind =>
      obtain ⟨d, hd, rfl⟩ := List.mem_map.1 hm
      exact .afterConstants hbody hc hkind hd
    · next hkind =>
      obtain rfl := List.mem_singleton.1 hm
      exact .direct hbody hc hkind

theorem mem_declaredFields {type : Tree} {field : Text} :
    field ∈ declaredFields source type ↔ DeclaresField source type field := by
  simp only [DeclaresField, isMember_iff]
  unfold declaredFields
  cases type.child? .body with
  | none => simp
  | some body =>
      simp only [Option.some.injEq, exists_eq_left', List.mem_flatMap, List.mem_filter,
        List.mem_filterMap, Tree.mem_childrenWith]
      constructor
      · rintro ⟨m, ⟨hm, hkind⟩, d, hd, hname⟩
        exact ⟨m, d, hm, hkind, hd, hname⟩
      · rintro ⟨m, d, hm, hkind, hd, hname⟩
        exact ⟨m, ⟨hm, hkind⟩, d, hd, hname⟩

instance (source : Text) (type : Tree) : DecidablePred (DeclaresField source type) :=
  fun _ => decidable_of_iff _ mem_declaredFields

/-! ### The table of fields -/

theorem fieldsOf_cons (f : Text × List Text) (rest : List (Text × List Text)) (name : Text) :
    fieldsOf (f :: rest) name = if f.1 = name then f.2 else fieldsOf rest name := by
  by_cases h : f.1 = name
  · simp [fieldsOf, h]
  · simp [fieldsOf, h]

/-- A type that is added to the table shares an entry with the types of its name. -/
theorem fieldsOf_addFields (added : Text) (names : List Text) (fields : List (Text × List Text))
    (name : Text) :
    fieldsOf (addFields added names fields) name =
      if added = name then fieldsOf fields name ++ names else fieldsOf fields name := by
  induction fields with
  | nil => simp [addFields, fieldsOf_cons, show fieldsOf [] name = [] from rfl]
  | cons f rest ih =>
      rw [addFields]
      split
      · next hf =>
        subst hf
        simp only [fieldsOf_cons]
        split <;> rfl
      · next hf =>
        rw [fieldsOf_cons, fieldsOf_cons, ih]
        split
        · next hname =>
          subst hname
          rw [if_neg (Ne.symm hf)]
        · rfl

/-- The table with the fields of one more declaration. -/
def addDeclaration (source : Text) (fields : List (Text × List Text)) (l : Located) :
    List (Text × List Text) :=
  match nameOf source l.tree with
  | some name => addFields name (declaredFields source l.tree) fields
  | none => fields

theorem mem_fieldsOf_addDeclaration {fields : List (Text × List Text)} {l : Located}
    {name field : Text} :
    field ∈ fieldsOf (addDeclaration source fields l) name ↔
      field ∈ fieldsOf fields name ∨
        nameOf source l.tree = some name ∧ DeclaresField source l.tree field := by
  unfold addDeclaration
  split
  · next added hadded =>
    rw [fieldsOf_addFields, hadded, Option.some.injEq, ← mem_declaredFields]
    by_cases hname : added = name
    · rw [if_pos hname, List.mem_append]
      simp only [hname, true_and]
    · rw [if_neg hname]
      simp only [hname, false_and, or_false]
  · next hnone => simp [hnone]

/-- The table holds under each name what the declarations of that name declare. -/
theorem mem_fieldsOf_fieldsByType {t : Tree} {name field : Text} :
    field ∈ fieldsOf (fieldsByType source t) name ↔
      ∃ l ∈ Located.ofKind isTypeDecl t,
        nameOf source l.tree = some name ∧ DeclaresField source l.tree field := by
  have hfold (ls : List Located) (fields : List (Text × List Text)) :
      field ∈ fieldsOf (ls.foldl (addDeclaration source) fields) name ↔
        field ∈ fieldsOf fields name ∨
          ∃ l ∈ ls, nameOf source l.tree = some name ∧ DeclaresField source l.tree field := by
    induction ls generalizing fields with
    | nil => simp
    | cons l ls ih =>
        rw [List.foldl_cons, ih, mem_fieldsOf_addDeclaration, or_assoc]
        simp only [List.mem_cons, or_and_right, exists_or, exists_eq_left]
  have hnil : field ∉ fieldsOf [] name := List.not_mem_nil
  exact (hfold _ []).trans (or_iff_right hnil)

/-- The names of all types of a tree. -/
def typeNames (source : Text) (t : Tree) : List Text :=
  (Located.ofKind isTypeDecl t).filterMap fun l => nameOf source l.tree

theorem eq_of_nameOf_eq {t : Tree} (hnames : (typeNames source t).Nodup) {l l' : Located}
    (hl : l ∈ Located.ofKind isTypeDecl t) (hl' : l' ∈ Located.ofKind isTypeDecl t) {name : Text}
    (hname : nameOf source l.tree = some name) (hname' : nameOf source l'.tree = some name) :
    l = l' := by
  by_contra hne
  have hpairs := List.pairwise_filterMap.1 hnames
  have : Std.Symm fun m m' : Located => ∀ b, nameOf source m.tree = some b →
      ∀ b', nameOf source m'.tree = some b' → b ≠ b' :=
    ⟨fun m m' h b hb b' hb' => (h b' hb' b hb).symm⟩
  exact hpairs.forall hl hl' hne name hname name hname' rfl

/-- If no two types share a name, the entry of a type holds the fields that it declares itself. -/
theorem mem_fieldsOf_iff {t : Tree} (hnames : (typeNames source t).Nodup) {l : Located}
    (hl : l ∈ Located.ofKind isTypeDecl t) {name : Text}
    (hname : nameOf source l.tree = some name) {field : Text} :
    field ∈ fieldsOf (fieldsByType source t) name ↔ DeclaresField source l.tree field := by
  rw [mem_fieldsOf_fieldsByType]
  constructor
  · rintro ⟨l', hl', hname', hfield⟩
    obtain rfl := eq_of_nameOf_eq hnames hl hl' hname hname'
    exact hfield
  · intro hfield
    exact ⟨l, hl, hname, hfield⟩

/-! ### The innermost type -/

/-- No type among some nodes declares a field. -/
def NoneDeclares (source : Text) (around : List Tree) (field : Text) : Prop :=
  ∀ t ∈ around, isTypeDecl t.kind = true → ¬DeclaresField source t field

/-- Of the types among some nodes the first that declares a field has some name. -/
def InnermostDeclares (source : Text) (around : List Tree) (field owner : Text) : Prop :=
  ∃ inner type outer, around = inner ++ type :: outer ∧ NoneDeclares source inner field ∧
    isTypeDecl type.kind = true ∧ DeclaresField source type field ∧
    nameOf source type = some owner

theorem mem_enclosingTypes {l : Located} {name : Text} :
    name ∈ enclosingTypes source l ↔
      ∃ t ∈ l.around, isTypeDecl t.kind = true ∧ nameOf source t = some name := by
  simp only [enclosingTypes, List.mem_filterMap, List.mem_filter, and_assoc]

section Around

variable [Parser] [LawfulParser] {tree : Tree} {l : Located} {field : Text}

/-- A type around a node has a name, and its entry is about it. -/
theorem exists_name_of_around (htree : parse? source = some tree)
    (hnames : (typeNames source tree).Nodup) (hl : Located.Below tree l) {t : Tree}
    (ht : t ∈ l.around) (htype : isTypeDecl t.kind = true) :
    ∃ name, nameOf source t = some name ∧
      ∀ field, field ∈ fieldsOf (fieldsByType source tree) name ↔ DeclaresField source t field := by
  obtain ⟨outer, hbelow⟩ := hl.exists_of_mem_around ht
  obtain ⟨name, hname⟩ := exists_nameOf_of_below htree hbelow (by simp [Kind.isNamed, htype])
  have hmem : ⟨t, outer⟩ ∈ Located.ofKind isTypeDecl tree :=
    Located.mem_ofKind_iff.2 ⟨hbelow, htype⟩
  exact ⟨name, hname, fun field => mem_fieldsOf_iff hnames hmem hname⟩

/-- Looking a field up by the names of the types around a node finds the innermost of these types
that declares it. -/
theorem find?_enclosingTypes_eq_some_iff (htree : parse? source = some tree)
    (hnames : (typeNames source tree).Nodup) (hl : Located.Below tree l) {owner : Text} :
    ((enclosingTypes source l).find? fun type =>
        (fieldsOf (fieldsByType source tree) type).contains field) = some owner ↔
      InnermostDeclares source l.around field owner := by
  have hdeclares {t : Tree} (ht : t ∈ l.around) :
      (isTypeDecl t.kind = true ∧ (nameOf source t).any (fun type =>
        (fieldsOf (fieldsByType source tree) type).contains field) = true) ↔
      isTypeDecl t.kind = true ∧ DeclaresField source t field := by
    refine and_congr_right fun htype => ?_
    obtain ⟨name, hname, hentry⟩ := exists_name_of_around htree hnames hl ht htype
    rw [hname, Option.any_some, List.contains_iff_mem, hentry]
  rw [enclosingTypes, List.find?_filterMap, List.find?_filter, Option.bind_eq_some_iff]
  constructor
  · rintro ⟨type, hfound, hname⟩
    obtain ⟨htype, inner, outer, haround, hinner⟩ := List.find?_eq_some_iff_append.1 hfound
    obtain ⟨hkind, hfield⟩ := (hdeclares (by simp [haround])).1 (of_decide_eq_true htype)
    refine ⟨inner, type, outer, haround, fun t ht hkind' hfield' => ?_, hkind, hfield, hname⟩
    have hmem : t ∈ l.around := by simp [haround, ht]
    have hnot := hinner t ht
    rw [Bool.not_eq_true', decide_eq_false_iff_not] at hnot
    exact hnot ((hdeclares hmem).2 ⟨hkind', hfield'⟩)
  · rintro ⟨inner, type, outer, haround, hinner, hkind, hfield, hname⟩
    refine ⟨type, List.find?_eq_some_iff_append.2 ⟨?_, inner, outer, haround, ?_⟩, hname⟩
    · exact decide_eq_true ((hdeclares (by simp [haround])).2 ⟨hkind, hfield⟩)
    · intro t ht
      rw [Bool.not_eq_true', decide_eq_false_iff_not, hdeclares (by simp [haround, ht])]
      exact fun h => hinner t ht h.1 h.2

theorem find?_enclosingTypes_eq_none_iff (htree : parse? source = some tree)
    (hnames : (typeNames source tree).Nodup) (hl : Located.Below tree l) :
    ((enclosingTypes source l).find? fun type =>
        (fieldsOf (fieldsByType source tree) type).contains field) = none ↔
      NoneDeclares source l.around field := by
  simp only [List.find?_eq_none, mem_enclosingTypes, List.contains_iff_mem]
  constructor
  · intro h t ht htype hfield
    obtain ⟨name, hname, hentry⟩ := exists_name_of_around htree hnames hl ht htype
    exact h name ⟨t, ht, htype, hname⟩ ((hentry field).2 hfield)
  · rintro h name ⟨t, ht, htype, hname⟩ hmem
    obtain ⟨name', hname', hentry⟩ := exists_name_of_around htree hnames hl ht htype
    obtain rfl := Option.some.inj (hname.symm.trans hname')
    exact h t ht htype ((hentry field).1 hmem)

end Around

/-! ### Receivers -/

/-- The word that a method is called on: that before the point, or before the point and `super`. -/
def IsCalledOn (source : Text) (call : Tree) (name : Text) : Prop :=
  ∃ object, call.child? .object = some object ∧ object.kind = .identifier ∧
    object.span.text source = name

/-- A call of the method of a supertype that is named by a word: `Type.super.method()`. -/
def ThroughSuper (call : Tree) : Prop := ∃ c ∈ call.children, c.1 = .plain ∧ c.2.kind = .superWord

instance : DecidablePred ThroughSuper := fun call =>
  inferInstanceAs (Decidable (∃ c ∈ call.children, c.1 = .plain ∧ c.2.kind = .superWord))

/-- The receiver of a call is a word. Where the call goes through `super` it is not the word that
says whose. -/
def HasSimpleReceiver (source : Text) (call : Tree) (name : Text) : Prop :=
  IsCalledOn source call name ∧ ¬ThroughSuper call

theorem receiverOf_eq_some_iff {call : Tree} {name : Text} :
    receiverOf source call = some name ↔ IsCalledOn source call name := by
  unfold receiverOf IsCalledOn
  cases call.child? .object with
  | none => simp
  | some object => simp

end Java

/-! ### Resolution -/

namespace LogCall

/-- The class that owns a call and whether some type does. -/
def resolution (c : LogCall) (fields : List (Text × List Text)) : Text × Bool :=
  (c.owner fields, (c.owner? fields).isSome)

variable {c : LogCall} {fields : List (Text × List Text)}

theorem resolution_eq_found_iff {owner : Text} :
    c.resolution fields = (owner, true) ↔ c.owner? fields = some owner := by
  rw [resolution, LogCall.owner, Prod.mk.injEq, Option.isSome_iff_exists]
  constructor
  · rintro ⟨howner, found, hfound⟩
    rw [hfound, Option.getD_some] at howner
    rw [hfound, howner]
  · intro h
    exact ⟨by rw [h, Option.getD_some], owner, h⟩

theorem resolution_eq_missing_iff :
    c.resolution fields = (Statement.defaultClass, false) ↔ c.owner? fields = none := by
  rw [resolution, LogCall.owner, Prod.mk.injEq, Option.isSome_eq_false_iff,
    Option.isNone_iff_eq_none]
  constructor
  · exact fun h => h.2
  · intro h
    exact ⟨by rw [h, Option.getD_none], h⟩

end LogCall

namespace Java

variable {source : Text}

/-- A log call is resolved to the innermost of some types that declares its receiver, and to the
default class if none does or there is no receiver. -/
structure ResolvesTo (source : Text) (receiver : Text → Prop) (around : List Tree)
    (resolution : Text × Bool) : Prop where
  found : ∀ owner, resolution = (owner, true) ↔
    ∃ name, receiver name ∧ InnermostDeclares source around name owner
  missing : resolution = (Statement.defaultClass, false) ↔
    ∀ name, receiver name → NoneDeclares source around name

section Site

variable {tree : Tree} {l : Located} {methods : List Text} {c : LogCall}

theorem IsLogCall.owner?_eq (hcall : IsLogCall source methods l c)
    (fields : List (Text × List Text)) :
    c.owner? fields = (receiverOf source l.tree).bind fun name =>
      (enclosingTypes source l).find? fun type => (fieldsOf fields type).contains name := by
  rw [LogCall.owner?, hcall.receiver, hcall.enclosing]
  cases receiverOf source l.tree <;> rfl

/-- With the table of its source, a log call is resolved by the word that it is called on. -/
theorem IsLogCall.resolvesTo [Parser] [LawfulParser] (hcall : IsLogCall source methods l c)
    (htree : parse? source = some tree) (hnames : (typeNames source tree).Nodup)
    (hl : Located.Below tree l) :
    ResolvesTo source (IsCalledOn source l.tree) l.around
      (c.resolution (fieldsByType source tree)) := by
  constructor
  · intro owner
    rw [LogCall.resolution_eq_found_iff, hcall.owner?_eq, Option.bind_eq_some_iff]
    simp only [receiverOf_eq_some_iff, find?_enclosingTypes_eq_some_iff htree hnames hl]
  · rw [LogCall.resolution_eq_missing_iff, hcall.owner?_eq, Option.bind_eq_none_iff]
    simp only [receiverOf_eq_some_iff, find?_enclosingTypes_eq_none_iff htree hnames hl]

/-- A call through `super` has no receiver that is a word, so it is resolved by its receiver if it
is not resolved to any type. -/
theorem resolvesTo_hasSimpleReceiver_iff {around : List Tree} {resolution : Text × Bool}
    (h : ResolvesTo source (IsCalledOn source l.tree) around resolution) :
    ResolvesTo source (HasSimpleReceiver source l.tree) around resolution ↔
      (ThroughSuper l.tree → ∀ name, IsCalledOn source l.tree name →
        NoneDeclares source around name) := by
  by_cases hsuper : ThroughSuper l.tree
  · have hnone : ∀ name, ¬HasSimpleReceiver source l.tree name := fun name hname =>
      hname.2 hsuper
    constructor
    · intro hsimple _
      exact h.missing.1 (hsimple.missing.2 fun name hname => absurd hname (hnone name))
    · intro hdeclares
      have hmissing := h.missing.2 (hdeclares hsuper)
      constructor
      · intro owner
        simp [hmissing, hnone]
      · simp [hmissing, hnone]
  · have hsame : HasSimpleReceiver source l.tree = IsCalledOn source l.tree := by
      funext name
      simp [HasSimpleReceiver, hsuper]
    rw [hsame]
    exact iff_of_true h fun hthrough => absurd hthrough hsuper

end Site

end Java

namespace SourceFacts

open Java

/-- Every log call of a source without syntax errors, whose types have different names, is one of
the calls in its tree. It is resolved to the innermost of the types around it that declares, in its
own body, a field named like the word that the method is called on, and to the default class if
there is no such word or type. Where the method is called on `super`, the word before that is no
receiver; the receiver still decides, for the default class, exactly if no type around the call
declares a field named like the word. -/
theorem resolution_eq_innermost [Parser] [LawfulParser] {path source : Text}
    {methods : List Text} {tree : Tree} {facts : SourceFacts} (htree : parse? source = some tree)
    (hnames : (typeNames source tree).Nodup)
    (hfacts : ofText path source methods = .ok facts) {c : LogCall} (hc : c ∈ facts.calls) :
    (∃ l names, Located.Below tree l ∧ l.tree.kind = .call ∧ IsLogCall source names l c) ∧
      ∀ l names, Located.Below tree l → IsLogCall source names l c →
        ResolvesTo source (IsCalledOn source l.tree) l.around (c.resolution facts.fields) ∧
        (ResolvesTo source (HasSimpleReceiver source l.tree) l.around
            (c.resolution facts.fields) ↔
          (ThroughSuper l.tree → ∀ name, IsCalledOn source l.tree name →
            NoneDeclares source l.around name)) := by
  obtain ⟨tree', htree', hcalls, hfields⟩ := exists_tree_of_ofText hfacts
  obtain rfl : tree = tree' := Option.some.inj (htree.symm.trans htree')
  rw [hfields]
  constructor
  · obtain ⟨l, hl, hcall⟩ := exists_of_mem_logCalls hcalls hc
    obtain ⟨hbelow, hkind⟩ := Located.mem_ofKind_iff.1 hl
    exact ⟨l, _, hbelow, of_decide_eq_true hkind, isLogCall_of_logCall hcall⟩
  · intro l methods hbelow hcall
    have hresolves := hcall.resolvesTo htree hnames hbelow
    exact ⟨hresolves, resolvesTo_hasSimpleReceiver_iff hresolves⟩

/-- A call in an anonymous class, around which an enum alone declares a field of the name. -/
def nestedTypes : Text :=
  Text.ofString "enum E\x7bP;L l;class B\x7bL o;void f(int l)\x7bnew C()\x7bL l;" ++
    Text.ofString "void g()\x7bl.info();\x7d\x7d;\x7d\x7d\x7d"

/-- Neither a field of the anonymous class nor a parameter counts. -/
theorem resolution_nestedTypes :
    ∃ tree facts, parse? nestedTypes = some tree ∧ (typeNames nestedTypes tree).Nodup ∧
      ofText [] nestedTypes [] = .ok facts ∧
      ∃ c ∈ facts.calls, c.resolution facts.fields = (Text.ofString "E", true) ∧
        ∃ l, Located.Below tree l ∧
          ResolvesTo nestedTypes (IsCalledOn nestedTypes l.tree) l.around
            (Text.ofString "E", true) := by
  obtain ⟨tree, facts, htree, hfacts, hcheck⟩ := exists_of_check nestedTypes
    (fun tree facts => decide ((typeNames nestedTypes tree).Nodup ∧
      facts.calls.map (·.resolution facts.fields) = [(Text.ofString "E", true)]))
    (by decide +kernel)
  obtain ⟨hnames, hcalls⟩ := of_decide_eq_true hcheck
  obtain ⟨c, hc, hresolution⟩ : ∃ c ∈ facts.calls,
      c.resolution facts.fields = (Text.ofString "E", true) :=
    List.mem_map.1 (hcalls ▸ List.mem_singleton.2 rfl)
  obtain ⟨⟨l, methods, hbelow, -, hcall⟩, hresolves⟩ :=
    resolution_eq_innermost htree hnames hfacts hc
  refine ⟨tree, facts, htree, hnames, hfacts, c, hc, hresolution, l, hbelow, ?_⟩
  exact hresolution ▸ (hresolves l methods hbelow hcall).1

/-- A call of a method that the class takes over from an interface, with a field named like it. -/
def superCall : Text :=
  Text.ofString "interface B\x7bdefault void info(String s)\x7b\x7d\x7d" ++
    Text.ofString "class A implements B\x7bint B;void f()\x7bB.super.info(\"x\");\x7d\x7d"

/-- The call has no receiver that is a word, and yet it is resolved to the class with the field. -/
theorem resolution_superCall :
    ∃ tree facts, parse? superCall = some tree ∧ (typeNames superCall tree).Nodup ∧
      ofText [] superCall [] = .ok facts ∧
      ∃ c ∈ facts.calls, ∃ l methods, Located.Below tree l ∧ l.tree.kind = .call ∧
        IsLogCall superCall methods l c ∧ c.resolution facts.fields = (Text.ofString "A", true) ∧
        ¬ResolvesTo superCall (HasSimpleReceiver superCall l.tree) l.around
          (c.resolution facts.fields) := by
  obtain ⟨tree, facts, htree, hfacts, hcheck⟩ := exists_of_check superCall
    (fun tree facts => decide ((typeNames superCall tree).Nodup ∧
      (∀ l ∈ Located.ofKind (· = .call) tree, ThroughSuper l.tree) ∧
      facts.calls.map (·.resolution facts.fields) = [(Text.ofString "A", true)]))
    (by decide +kernel)
  obtain ⟨hnames, hsuper, hcalls⟩ := of_decide_eq_true hcheck
  obtain ⟨c, hc, hresolution⟩ : ∃ c ∈ facts.calls,
      c.resolution facts.fields = (Text.ofString "A", true) :=
    List.mem_map.1 (hcalls ▸ List.mem_singleton.2 rfl)
  obtain ⟨tree', htree', hlogCalls, -⟩ := exists_tree_of_ofText hfacts
  obtain rfl : tree = tree' := Option.some.inj (htree.symm.trans htree')
  obtain ⟨l, hl, hcall⟩ := exists_of_mem_logCalls hlogCalls hc
  obtain ⟨hbelow, hkind⟩ := Located.mem_ofKind_iff.1 hl
  refine ⟨tree, facts, htree, hnames, hfacts, c, hc, l, _, hbelow, of_decide_eq_true hkind,
    isLogCall_of_logCall hcall, hresolution, fun hresolves => ?_⟩
  have hmissing := hresolves.missing.2 fun name hname => absurd (hsuper l hl) hname.2
  rw [hresolution] at hmissing
  exact absurd hmissing (by decide)

end SourceFacts

end LogHarvest
