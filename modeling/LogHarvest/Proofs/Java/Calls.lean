import LogHarvest.Java.Calls
import LogHarvest.Proofs.Java.Literal
import LogHarvest.Proofs.Java.Parser
import LogHarvest.Proofs.Java.Preorder
import LogHarvest.Proofs.Statement
import LogHarvest.Proofs.Success

/-!
# Log calls and their records

What a source file says about a log call fits into a record: its method is named for a level, the
types around it are named by words, and words hold neither bars nor line terminators. Templates
can hold both, but no stray bytes.
-/

namespace LogHarvest

/-- A call whose parts fit into a record once its template has been escaped. -/
structure LogCall.Recordable (c : LogCall) : Prop where
  method : c.method.IsField
  enclosing : ∀ name ∈ c.enclosing, name.IsField
  template : ∀ t ∈ c.template, t.IsDecoded

theorem LogCall.owner_eq_or_mem (c : LogCall) (fields : List (Text × List Text)) :
    c.owner fields = Statement.defaultClass ∨ c.owner fields ∈ c.enclosing := by
  rw [LogCall.owner]
  cases howner : c.owner? fields with
  | none => exact .inl rfl
  | some name =>
      rw [LogCall.owner?] at howner
      split at howner
      · simp at howner
      · exact .inr (List.mem_of_find?_eq_some howner)

theorem LogCall.Recordable.owner {c : LogCall} (h : c.Recordable)
    (fields : List (Text × List Text)) : (c.owner fields).IsField := by
  obtain hdefault | hmem := c.owner_eq_or_mem fields
  · rw [hdefault]
    decide
  · exact h.enclosing _ hmem

namespace Java

variable {source : Text}

/-! ### Words and literals -/

theorem inField_of_isWordCode {c : Code} (h : isWordCode c) (hlt : c.val < 0x110000) :
    c.InField := by
  have hnone : ∀ d ∈ [columnBar, ('\r' : Code), ('\n' : Code)], isWordCode d = false := by
    decide +kernel
  have hne : ∀ d ∈ [columnBar, ('\r' : Code), ('\n' : Code)], c ≠ d := by
    rintro d hd rfl
    simp [hnone c hd] at h
  exact ⟨hne _ (by simp), hne _ (by simp), hne _ (by simp), hlt⟩

theorem isField_of_isWordOf (hsource : source.IsDecoded) {span : Span}
    (h : IsWordOf source span) : (span.text source).IsField := fun c hc =>
  inField_of_isWordCode (h c hc) (hsource c (List.mem_of_mem_drop (List.mem_of_mem_take hc)))

theorem isDecoded_literalText {t : Tree} {template : Text}
    (h : literalText source t = .ok template) : template.IsDecoded := by
  obtain ⟨literal, hliteral, rfl⟩ := map_eq_ok_iff.1 h
  exact Literal.isDecoded_value (Text.Utf8.isDecoded_of_decode hliteral)

theorem isDecoded_templateOf {arguments : List Tree} {template : Option Text}
    (h : templateOf source arguments = .ok template) : ∀ t ∈ template, t.IsDecoded := by
  rintro t rfl
  unfold templateOf at h
  split at h
  · next first rest =>
    split at h
    · obtain ⟨literal, hliteral, hsome⟩ := map_eq_ok_iff.1 h
      obtain rfl := Option.some.inj hsome
      exact isDecoded_literalText hliteral
    · simp at h
  · simp at h

/-! ### Names -/

/-- The spans whose text can be a field of a record. -/
def IsFieldSpan (source : Text) (span : Span) : Prop := (span.text source).IsField

theorem isField_nameOf {t : Tree} (ht : t.NamedBy (IsFieldSpan source)) {name : Text}
    (h : nameOf source t = some name) : name.IsField := by
  obtain ⟨n, hn, rfl⟩ := Option.map_eq_some_iff.1 h
  obtain ⟨c, hc, rfl⟩ := Option.map_eq_some_iff.1 hn
  have hrole : c.1 = .name := by simpa using List.find?_some hc
  exact (Tree.namedBy_iff.1 ht).2.names c (List.mem_of_find?_eq_some hc) hrole

/-- Declarations and calls have names. -/
theorem exists_nameOf (source : Text) {P : Span → Prop} {t : Tree} (ht : t.NamedBy P)
    (hkind : t.kind.isNamed = true) : ∃ name, nameOf source t = some name := by
  obtain ⟨c, hc, hname⟩ := (Tree.namedBy_iff.1 ht).1 hkind
  refine Option.isSome_iff_exists.1 ?_
  rw [nameOf, Option.isSome_map, Tree.child?, Option.isSome_map, List.find?_isSome]
  exact ⟨c, hc, decide_eq_true hname⟩

section Parser

variable [Parser] [LawfulParser]

theorem namedBy_of_parse (hsource : source.IsDecoded) {t : Tree} (h : parse? source = some t) :
    t.NamedBy (IsFieldSpan source) :=
  (LawfulParser.namedBy h).mono fun _ => isField_of_isWordOf hsource

/-- Declarations and calls of a source have names. -/
theorem exists_nameOf_of_below {tree : Tree} {l : Located} (htree : parse? source = some tree)
    (hl : Located.Below tree l) (hkind : l.tree.kind.isNamed = true) :
    ∃ name, nameOf source l.tree = some name :=
  exists_nameOf source (hl.namedBy (LawfulParser.namedBy htree)).1 hkind

end Parser

/-- A name is made of what its source is made of. -/
theorem mem_of_mem_nameOf {t : Tree} {name : Text} (h : nameOf source t = some name) {c : Code}
    (hc : c ∈ name) : c ∈ source := by
  obtain ⟨n, -, rfl⟩ := Option.map_eq_some_iff.1 h
  exact List.mem_of_mem_drop (List.mem_of_mem_take hc)

/-! ### Calls -/

section Calls

variable {methods : List Text} {l : Located} {c : LogCall}

/-- Where the parts of a log call are found. -/
structure IsLogCall (source : Text) (methods : List Text) (l : Located) (c : LogCall) : Prop where
  method : nameOf source l.tree = some c.method
  logs : c.method ∈ methods
  template : templateOf source (argumentsOf l.tree) = .ok c.template
  receiver : c.receiver = receiverOf source l.tree
  enclosing : c.enclosing = enclosingTypes source l
  line : c.line = l.tree.span.row + 1
  arguments : c.argumentCount = (argumentsOf l.tree).length

theorem isLogCall_of_logCall (h : logCall? source methods l = .ok (some c)) :
    IsLogCall source methods l c := by
  unfold logCall? at h
  split at h
  · simp at h
  · next method hmethod =>
    split at h
    · next hmem =>
      obtain ⟨template, htemplate, hsome⟩ := map_eq_ok_iff.1 h
      obtain rfl := Option.some.inj hsome
      exact ⟨hmethod, by simpa using hmem, htemplate, rfl, rfl, rfl, rfl⟩
    · simp at h

theorem exists_of_mem_logCalls {ls : List Located} {calls : List LogCall}
    (h : logCalls source methods ls = .ok calls) (hc : c ∈ calls) :
    ∃ l ∈ ls, logCall? source methods l = .ok (some c) := by
  induction ls generalizing calls with
  | nil =>
      obtain rfl := Except.ok.inj h
      simp at hc
  | cons l ls ih =>
      rw [logCalls] at h
      obtain ⟨call, hcall, h⟩ := bind_eq_ok_iff.1 h
      obtain ⟨others, hothers, h⟩ := bind_eq_ok_iff.1 h
      obtain rfl := Except.ok.inj h
      obtain hc | hc := List.mem_append.1 hc
      · obtain rfl : call = some c := by simpa using hc
        exact ⟨l, by simp, hcall⟩
      · obtain ⟨other, hother, hcall⟩ := ih hothers hc
        exact ⟨other, List.mem_cons_of_mem l hother, hcall⟩

theorem recordable_of_logCall (hmethods : ∀ m ∈ methods, m.IsField)
    (hl : l.NamedBy (IsFieldSpan source)) (h : logCall? source methods l = .ok (some c)) :
    c.Recordable := by
  have hcall := isLogCall_of_logCall h
  refine ⟨hmethods c.method hcall.logs, ?_, isDecoded_templateOf hcall.template⟩
  intro name hname
  rw [hcall.enclosing] at hname
  obtain ⟨t, ht, hname⟩ := List.mem_filterMap.1 hname
  exact isField_nameOf (hl.2 t (List.mem_filter.1 ht).1) hname

/-- The method and the types of a call are named in its source. -/
theorem mem_source_of_logCall (h : logCall? source methods l = .ok (some c)) {code : Code}
    (hcode : code ∈ c.method ∨ ∃ name ∈ c.enclosing, code ∈ name) : code ∈ source := by
  have hcall := isLogCall_of_logCall h
  obtain hcode | ⟨name, hname, hcode⟩ := hcode
  · exact mem_of_mem_nameOf hcall.method hcode
  · rw [hcall.enclosing] at hname
    obtain ⟨t, -, hname⟩ := List.mem_filterMap.1 hname
    exact mem_of_mem_nameOf hname hcode

end Calls

end Java

namespace SourceFacts

variable [Java.Parser] {path : Text} {bytes : Text.Utf8.Bytes} {facts : SourceFacts}

theorem ofText_eq_ok_iff {source : Text} {methods : List Text} :
    ofText path source methods = .ok facts ↔
      ∃ tree, Java.parse? source = some tree ∧
        ofTree path source (if methods.isEmpty then Level.names else methods) tree = .ok facts := by
  rw [ofText]
  cases Java.parse? source with
  | none => simp
  | some tree =>
      simp only [Option.some.injEq, exists_eq_left']
      generalize ofTree path source (if methods.isEmpty then Level.names else methods) tree = result
      cases result <;> simp [Except.mapError]

/-- The facts of a source text are its log calls and the fields of its types. -/
theorem exists_tree_of_ofText {source : Text} {methods : List Text}
    (h : ofText path source methods = .ok facts) :
    ∃ tree, Java.parse? source = some tree ∧
      Java.logCalls source (if methods.isEmpty then Level.names else methods)
        (Java.Located.ofKind (· = .call) tree) = .ok facts.calls ∧
      facts.fields = Java.fieldsByType source tree := by
  obtain ⟨tree, htree, hfacts⟩ := ofText_eq_ok_iff.1 h
  obtain ⟨calls, hcalls, rfl⟩ := map_eq_ok_iff.1 hfacts
  exact ⟨tree, htree, hcalls, rfl⟩

/-- The facts of a source text are those of its tree. -/
theorem of_ofText {source : Text} {methods : List Text} {tree : Java.Tree}
    (htree : Java.parse? source = some tree) (h : ofText path source methods = .ok facts) :
    Java.logCalls source (if methods.isEmpty then Level.names else methods)
        (Java.Located.ofKind (· = .call) tree) = .ok facts.calls ∧
      facts.fields = Java.fieldsByType source tree := by
  obtain ⟨tree', htree', hfacts⟩ := exists_tree_of_ofText h
  obtain rfl : tree = tree' := Option.some.inj (htree.symm.trans htree')
  exact hfacts

/-- A source with facts, by a check of its tree and of them. -/
theorem exists_of_check (source : Text) (check : Java.Tree → SourceFacts → Bool)
    (h : ((Java.parse? source).any fun tree =>
      (ofTree [] source Level.names tree).toOption.any (check tree)) = true) :
    ∃ tree facts, Java.parse? source = some tree ∧ ofText [] source [] = .ok facts ∧
      check tree facts = true := by
  obtain ⟨tree, htree, hany⟩ := (Option.any_eq_true _ _).1 h
  obtain ⟨facts, hfacts, hcheck⟩ := (Option.any_eq_true _ _).1 hany
  exact ⟨tree, facts, htree,
    ofText_eq_ok_iff.2 ⟨tree, htree, toOption_eq_some_iff.1 hfacts⟩, hcheck⟩

/-- A log call of a source file is one of the calls in its syntax tree. -/
theorem exists_of_mem_calls (h : ofBytes path bytes [] = .ok facts) {c : LogCall}
    (hc : c ∈ facts.calls) :
    ∃ source tree, Text.Utf8.decode bytes = .ok source ∧ Java.parse? source = some tree ∧
      ∃ l ∈ Java.Located.ofKind (· = .call) tree,
        Java.logCall? source Level.names l = .ok (some c) := by
  rw [ofBytes] at h
  split at h
  · simp at h
  · next source hsource =>
    split at h
    · next facts' hfacts =>
      obtain rfl := Except.ok.inj h
      obtain ⟨tree, htree, hcalls, -⟩ := exists_tree_of_ofText hfacts
      exact ⟨source, tree, hsource, htree, Java.exists_of_mem_logCalls hcalls hc⟩
    · simp at h
    · simp at h

/-- The log calls of any source file fit into records. -/
theorem recordable_of_ofBytes [Java.LawfulParser] (h : ofBytes path bytes [] = .ok facts) :
    ∀ c ∈ facts.calls, c.Recordable := by
  intro c hc
  have hlevels : ∀ m ∈ Level.names, m.IsField := by decide
  obtain ⟨source, tree, hsource, htree, l, hl, hcall⟩ := exists_of_mem_calls h hc
  have hnamed := Java.namedBy_of_parse (Text.Utf8.isDecoded_of_decode hsource) htree
  have hbelow := (Java.Located.mem_ofKind_iff.1 hl).1
  exact Java.recordable_of_logCall hlevels (hbelow.namedBy hnamed) hcall

/-- What names a log call of a source file and its types can be encoded. -/
theorem isScalar_of_mem_calls (h : ofBytes path bytes [] = .ok facts) {c : LogCall}
    (hc : c ∈ facts.calls) {code : Code}
    (hcode : code ∈ c.method ∨ ∃ name ∈ c.enclosing, code ∈ name) : code.IsScalar := by
  obtain ⟨source, tree, hsource, -, l, -, hcall⟩ := exists_of_mem_calls h hc
  exact Text.Utf8.isScalar_of_mem_decode hsource (Java.mem_source_of_logCall hcall hcode)

end SourceFacts

end LogHarvest
