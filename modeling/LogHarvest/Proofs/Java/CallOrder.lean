import LogHarvest.Proofs.Java.Calls

/-!
# The order of log calls

The log calls of a source are those calls in its tree whose methods log, one entry for each of them,
in the order of the recursive traversal. A receiver is the first child of its call, so what is in the
receiver of a call comes before what is in the arguments.

The facts of a source are wanting only if a template is not text, which no literal of a text can be.
-/

namespace LogHarvest

namespace Java

/-! ### Log calls in order -/

/-- A call of one of some methods. -/
def CallsOneOf (source : Text) (methods : List Text) (l : Located) : Prop :=
  l.tree.kind = .call ∧ ∃ method ∈ methods, nameOf source l.tree = some method

section Calls

variable {source : Text} {methods : List Text} {l : Located}

/-- Whether a node has one of some names. -/
def hasName (source : Text) (methods : List Text) (l : Located) : Bool :=
  (nameOf source l.tree).any methods.contains

theorem hasName_iff :
    hasName source methods l = true ↔ ∃ method ∈ methods, nameOf source l.tree = some method := by
  simp [hasName, Option.any_eq_true, and_comm]

theorem logCall_eq_map {method : Text} (hmem : method ∈ methods)
    (hname : nameOf source l.tree = some method) :
    logCall? source methods l = (templateOf source (argumentsOf l.tree)).map fun template =>
      some ⟨template, method, receiverOf source l.tree, enclosingTypes source l,
        l.tree.span.row + 1, (argumentsOf l.tree).length⟩ := by
  rw [logCall?, hname]
  exact if_pos (List.contains_iff_mem.2 hmem)

theorem logCall_eq_none (h : hasName source methods l = false) :
    logCall? source methods l = .ok none := by
  rw [hasName] at h
  rw [logCall?]
  cases hname : nameOf source l.tree with
  | none => rfl
  | some method =>
      rw [hname, Option.any_some] at h
      exact if_neg (Bool.eq_false_iff.1 h)

/-- A node with one of the names comes to nothing only if its template is no text. -/
theorem exists_logCall_iff :
    (∃ call, logCall? source methods l = .ok call) ↔
      (hasName source methods l = true →
        ∃ template, templateOf source (argumentsOf l.tree) = .ok template) := by
  cases h : hasName source methods l with
  | false => simp [logCall_eq_none h]
  | true =>
      obtain ⟨method, hmem, hname⟩ := hasName_iff.1 h
      simp only [logCall_eq_map hmem hname, map_eq_ok_iff, forall_const]
      constructor
      · rintro ⟨call, template, htemplate, -⟩
        exact ⟨template, htemplate⟩
      · rintro ⟨template, htemplate⟩
        exact ⟨_, template, htemplate, rfl⟩

theorem hasName_eq_isSome {call : Option LogCall} (h : logCall? source methods l = .ok call) :
    hasName source methods l = call.isSome := by
  cases hhas : hasName source methods l with
  | false =>
      obtain rfl := Except.ok.inj ((logCall_eq_none hhas).symm.trans h)
      rfl
  | true =>
      obtain ⟨method, hmem, hname⟩ := hasName_iff.1 hhas
      rw [logCall_eq_map hmem hname] at h
      obtain ⟨template, -, rfl⟩ := map_eq_ok_iff.1 h
      rfl

/-- The log calls of some nodes are those of the nodes with the names, in the same order. -/
theorem forall₂_logCalls {ls : List Located} {calls : List LogCall}
    (h : logCalls source methods ls = .ok calls) :
    List.Forall₂ (IsLogCall source methods) (ls.filter (hasName source methods)) calls := by
  induction ls generalizing calls with
  | nil =>
      obtain rfl := Except.ok.inj h
      exact .nil
  | cons l ls ih =>
      rw [logCalls] at h
      obtain ⟨call, hcall, h⟩ := bind_eq_ok_iff.1 h
      obtain ⟨others, hothers, h⟩ := bind_eq_ok_iff.1 h
      obtain rfl := Except.ok.inj h
      cases call with
      | none =>
          rw [List.filter_cons_of_neg (by simp [hasName_eq_isSome hcall])]
          exact ih hothers
      | some c =>
          rw [List.filter_cons_of_pos (hasName_eq_isSome hcall)]
          exact .cons (isLogCall_of_logCall hcall) (ih hothers)

theorem exists_logCalls_iff {ls : List Located} :
    (∃ calls, logCalls source methods ls = .ok calls) ↔
      ∀ l ∈ ls, hasName source methods l = true →
        ∃ template, templateOf source (argumentsOf l.tree) = .ok template := by
  induction ls with
  | nil => simp [logCalls]
  | cons l ls ih =>
      rw [List.forall_mem_cons, ← exists_logCall_iff, ← ih]
      simp only [logCalls, bind_eq_ok_iff]
      constructor
      · rintro ⟨calls, call, hcall, others, hothers, -⟩
        exact ⟨⟨call, hcall⟩, others, hothers⟩
      · rintro ⟨⟨call, hcall⟩, others, hothers⟩
        exact ⟨_, call, hcall, others, hothers, rfl⟩

end Calls

/-! ### Templates of a text -/

theorem bytesOf_eq_encoding {t : Text} (ht : t.IsDecoded) : bytesOf t = Text.Utf8.encoding t := by
  refine List.flatMap_congr fun c hc => ?_
  exact if_pos (ht c hc)

/-- A literal in a text is text. -/
theorem exists_templateOf {source : Text} (hsource : ∀ c ∈ source, c.IsScalar)
    (arguments : List Tree) : ∃ template, templateOf source arguments = .ok template := by
  unfold templateOf
  split
  · next first rest =>
    have hspan : ∀ c ∈ first.span.text source, c.IsScalar :=
      fun c hc => hsource c (List.mem_of_mem_drop (List.mem_of_mem_take hc))
    split
    · rw [literalText, bytesOf_eq_encoding fun c hc => (hspan c hc).lt,
        Text.Utf8.decode_encoding hspan]
      exact ⟨_, rfl⟩
    · exact ⟨_, rfl⟩
  · exact ⟨_, rfl⟩

/-- What is in the receiver of a call comes after the call and before what is in its arguments. -/
def ReceiverBeforeArguments (root : Located) : Prop :=
  ∀ place l, root.at? place = some l → l.tree.kind = .call →
    ∀ i j receiver arguments, l.tree.children[i]? = some (.object, receiver) →
      l.tree.children[j]? = some (.arguments, arguments) →
      ∀ inReceiver inArguments, place < place ++ i :: inReceiver ∧
        place ++ i :: inReceiver < place ++ j :: inArguments

end Java

namespace SourceFacts

open Java Java.Located

variable {path source : Text} {methods : List Text} {tree : Tree}

/-- The methods that are looked for: those of the levels if none are named. -/
def methodsOr (methods : List Text) : List Text :=
  if methods.isEmpty then Level.names else methods

theorem callsOneOf_iff {l : Located} :
    (hasName source methods l && decide (l.tree.kind = .call)) = true ↔
      CallsOneOf source methods l := by
  rw [Bool.and_eq_true, decide_eq_true_iff, hasName_iff, CallsOneOf, and_comm]

section Parser

variable [Parser]

/-- There are facts of a source unless the template of a log call is no text. -/
theorem exists_facts_iff (htree : parse? source = some tree) :
    (∃ facts, ofText path source methods = .ok facts) ↔
      ∀ place l, Located.at? ⟨tree, []⟩ place = some l →
        CallsOneOf source (methodsOr methods) l →
        ∃ template, templateOf source (argumentsOf l.tree) = .ok template := by
  have hcalls : (∃ facts, ofText path source methods = .ok facts) ↔
      ∃ calls, logCalls source (methodsOr methods) (ofKind (· = .call) tree) = .ok calls := by
    simp only [ofText_eq_ok_iff, htree, Option.some.injEq, exists_eq_left', ofTree, map_eq_ok_iff]
    exact ⟨fun ⟨_, calls, hcalls, _⟩ => ⟨calls, hcalls⟩,
      fun ⟨calls, hcalls⟩ => ⟨_, calls, hcalls, rfl⟩⟩
  rw [hcalls, exists_logCalls_iff]
  constructor
  · intro h place l hat hcall
    have hmem : l ∈ ofKind (· = .call) tree :=
      mem_ofKind_iff.2 ⟨below_iff_exists_at.2 ⟨place, hat⟩, decide_eq_true hcall.1⟩
    exact h l hmem (hasName_iff.2 hcall.2)
  · intro h l hl hname
    obtain ⟨hbelow, hkind⟩ := mem_ofKind_iff.1 hl
    obtain ⟨place, hat⟩ := below_iff_exists_at.1 hbelow
    exact h place l hat ⟨of_decide_eq_true hkind, hasName_iff.1 hname⟩

theorem eachOnce_calls {facts : SourceFacts} (htree : parse? source = some tree)
    (hfacts : ofText path source methods = .ok facts) :
    EachOnce ⟨tree, []⟩ (CallsOneOf source (methodsOr methods))
      (IsLogCall source (methodsOr methods)) facts.calls := by
  have hcalls := (of_ofText htree hfacts).1
  have hcalled : CallsOneOf source (methodsOr methods) = fun l =>
      (hasName source (methodsOr methods) l && decide (l.tree.kind = .call)) = true :=
    funext fun l => propext callsOneOf_iff.symm
  have hentries := forall₂_logCalls hcalls
  rw [ofKind, all_eq_preorder, List.filter_filter] at hentries
  rw [hcalled]
  exact (eachOnce_filter_preorder ⟨tree, []⟩ _).of_forall₂ hentries

theorem receiverBeforeArguments_of_parse [LawfulParser] (htree : parse? source = some tree) :
    ReceiverBeforeArguments ⟨tree, []⟩ := by
  intro place l hat _ i j receiver arguments hreceiver harguments inReceiver inArguments
  have hfirst := (below_iff_exists_at.2 ⟨place, hat⟩).receiverFirst
    (LawfulParser.receiverFirst htree)
  have hlt := hfirst.lt hreceiver harguments nofun
  exact ⟨lt_append_cons place i inReceiver, append_cons_lt place hlt inReceiver inArguments⟩

/-- The walk of a tree ends when it has visited every node, and finds the nodes of some kinds in the
order of the recursive traversal, each of them once. The facts of a source without syntax errors
have one entry for each call in its tree, at whatever place, of one of the methods, and no other
entries, in that order: after a call comes what is in its receiver and then what is in its
arguments. There are facts of it unless the template of one of these calls is no text, and so there
are facts of every text. -/
theorem calls_in_preorder [LawfulParser] :
    (∀ (kinds : Kind → Bool) (t : Tree),
      (∀ rounds more, visit (rounds + more) [⟨t, []⟩] =
        visit rounds [⟨t, []⟩] ++ visit more (pendingAfter rounds [⟨t, []⟩])) ∧
      (∀ rounds, pendingAfter rounds [⟨t, []⟩] = [] ↔ t.size ≤ rounds) ∧
      ofKind kinds t = (preorder ⟨t, []⟩).filter (fun l => kinds l.tree.kind) ∧
      EachOnce ⟨t, []⟩ (fun l => kinds l.tree.kind = true) Eq (ofKind kinds t)) ∧
    ∀ (path source : Text) (methods : List Text) (tree : Tree), parse? source = some tree →
      ((∃ facts, ofText path source methods = .ok facts) ↔
        ∀ place l, Located.at? ⟨tree, []⟩ place = some l →
          CallsOneOf source (methodsOr methods) l →
          ∃ template, templateOf source (argumentsOf l.tree) = .ok template) ∧
      ((∀ c ∈ source, c.IsScalar) → ∃ facts, ofText path source methods = .ok facts) ∧
      (∀ facts, ofText path source methods = .ok facts →
        EachOnce ⟨tree, []⟩ (CallsOneOf source (methodsOr methods))
          (IsLogCall source (methodsOr methods)) facts.calls) ∧
      ReceiverBeforeArguments ⟨tree, []⟩ := by
  constructor
  · intro kinds t
    have htotal : total [⟨t, []⟩] = t.size := by simp [total]
    refine ⟨fun rounds more => visit_add rounds more _, ?ends, ?order, ?once⟩
    case ends =>
      intro rounds
      rw [pendingAfter_eq_nil_iff, htotal]
    case order => rw [ofKind, all_eq_preorder]
    case once =>
      rw [ofKind, all_eq_preorder]
      exact eachOnce_filter_preorder _ _
  · intro path source methods tree htree
    have hiff := @exists_facts_iff path source methods tree _ htree
    exact ⟨hiff, fun hsource => hiff.2 fun _ l _ _ => exists_templateOf hsource _,
      fun facts hfacts => eachOnce_calls htree hfacts, receiverBeforeArguments_of_parse htree⟩

end Parser

/-- Log calls in a lambda, in a receiver, in arguments and in an anonymous class. -/
def nestedCalls : Text :=
  Text.ofString "class A\x7bR r=()->l.info();void f()" ++
    Text.ofString "\x7bx.info(y.warn(),new B()\x7bvoid g()\x7bz.debug();\x7d\x7d)" ++
    Text.ofString ".error(\"d\");\x7d\x7d"

/-- The outermost call of a statement comes before its receiver, and that before its arguments. -/
theorem calls_in_preorder_nestedCalls :
    ∃ tree facts, parse? nestedCalls = some tree ∧ (∀ c ∈ nestedCalls, c.IsScalar) ∧
      ofText [] nestedCalls [] = .ok facts ∧
      facts.calls.map (·.method) = ["info", "error", "info", "warn", "debug"].map Text.ofString ∧
      EachOnce ⟨tree, []⟩ (CallsOneOf nestedCalls Level.names)
        (IsLogCall nestedCalls Level.names) facts.calls ∧
      ∃ place l receiver arguments, Located.at? ⟨tree, []⟩ place = some l ∧ l.tree.kind = .call ∧
        l.tree.children[0]? = some (.object, receiver) ∧
        l.tree.children[2]? = some (.arguments, arguments) ∧
        place < place ++ [0] ∧ place ++ [0] < place ++ [2] := by
  have hscalar : ∀ c ∈ nestedCalls, c.IsScalar := by decide +kernel
  obtain ⟨tree, facts, htree, hfacts, hcheck⟩ := exists_of_check nestedCalls
    (fun tree facts =>
      decide (facts.calls.map (·.method) =
        ["info", "error", "info", "warn", "debug"].map Text.ofString) &&
      (Located.at? ⟨tree, []⟩ [0, 1, 1, 3, 0, 0]).any fun l => l.tree.kind = .call &&
        l.tree.children[0]?.any (·.1 = .object) && l.tree.children[2]?.any (·.1 = .arguments))
    (by decide +kernel)
  obtain ⟨hmethods, hplace⟩ := Bool.and_eq_true_iff.1 hcheck
  obtain ⟨l, hat, hl⟩ := (Option.any_eq_true _ _).1 hplace
  obtain ⟨hl, harguments⟩ := Bool.and_eq_true_iff.1 hl
  obtain ⟨hkind, hreceiver⟩ := Bool.and_eq_true_iff.1 hl
  obtain ⟨⟨_, receiver⟩, hreceiver, hobject⟩ := (Option.any_eq_true _ _).1 hreceiver
  obtain ⟨⟨_, arguments⟩, harguments, hrole⟩ := (Option.any_eq_true _ _).1 harguments
  obtain rfl := of_decide_eq_true hobject
  obtain rfl := of_decide_eq_true hrole
  obtain ⟨-, -, heach, hbefore⟩ := calls_in_preorder.2 [] nestedCalls [] tree htree
  refine ⟨tree, facts, htree, hscalar, hfacts, of_decide_eq_true hmethods, heach facts hfacts,
    [0, 1, 1, 3, 0, 0], l, receiver, arguments, hat, of_decide_eq_true hkind, hreceiver,
    harguments, ?_⟩
  exact hbefore _ l hat (of_decide_eq_true hkind) 0 2 receiver arguments hreceiver harguments [] []

end SourceFacts

end LogHarvest
