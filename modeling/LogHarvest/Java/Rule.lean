import LogHarvest.Java.Tree

/-!
# Grammar rules

A grammar is data: a rule says what it takes off the front of the tokens and which nodes it
makes of it. Alternatives are tried in order and the first that fits is taken. What is written
with the recursion on the left, such as `a.b().c[0]`, is a chain: a base and then steps, each of
which makes the node before it a child.
-/

namespace LogHarvest.Java

/-- A rule over named rules of type `N`. -/
inductive Rule (N : Type) where
  | nothing
  | symbols (texts : List Text)
  | keyword (text : Text)
  | name (reserved : List Text)
  | token (kind : TokenKind) (node : Kind)
  | named (n : N)
  | both (first second : Rule N)
  | either (first second : Rule N)
  | many (r : Rule N)
  | ahead (r : Rule N)
  | notAhead (r : Rule N)
  | role (role : Role) (r : Rule N)
  | node (kind : Kind) (r : Rule N)
  | nodeUnlessSingle (kind : Kind) (r : Rule N)
  | chain (base steps : Rule N)
  | step (subjects : Kind → Bool) (role : Role) (kind : Kind) (r : Rule N)
  | only (kinds : Kind → Bool) (r : Rule N)

namespace Rule

variable {N : Type}

instance : Append (Rule N) := ⟨both⟩

instance : OrElse (Rule N) := ⟨fun a b => either a (b ())⟩

/-- The children a rule has made and the tokens after it. -/
abbrev Result := Option (List (Role × Tree) × List Token)

/-- Takes symbols that follow each other without a gap. -/
def takeSymbols : List Text → List Token → Option (List Token)
  | [], ts => some ts
  | [text], t :: ts => if t.text = text then some ts else none
  | text :: rest, t :: u :: ts =>
    if t.text = text ∧ u.start = t.stop then takeSymbols rest (u :: ts) else none
  | _, _ => none

/-- Whether some tokens start after others do. -/
def startLater : List Token → List Token → Bool
  | _, [] => false
  | [], _ :: _ => true
  | u :: _, t :: _ => t.start < u.start

/-- The tokens of a list that come before those of the other. -/
def taken (before : List Token) : List Token → List Token
  | [] => before
  | u :: _ => before.takeWhile fun t => t.start < u.start

/-- The span from one list of tokens to the one after it. -/
def spanOf (before after : List Token) : Span :=
  match before with
  | [] => ⟨0, 0, 0⟩
  | t :: _ => ⟨t.start, ((taken before after).getLast?.map Token.stop).getD t.start, t.row⟩

/-- A node around children, for the tokens between two lists. -/
def around (kind : Kind) (before after : List Token) (children : List (Role × Tree)) :
    List (Role × Tree) :=
  [(.plain, .node kind (spanOf before after) children)]

mutual

/-- Takes a rule off the front of some tokens. A step makes a child of the subject. -/
def take (grammar : N → Rule N) : (fuel : Nat) → (subject : Option Tree) → Rule N →
    List Token → Result
  | 0, _, _, _ => none
  | fuel + 1, subject, rule, ts =>
    match rule with
    | .nothing => some ([], ts)
    | .symbols texts => (takeSymbols texts ts).map fun rest => ([], rest)
    | .keyword text =>
      match ts with
      | t :: rest => if t.kind = .word ∧ t.text = text then some ([], rest) else none
      | [] => none
    | .name reserved =>
      match ts with
      | t :: rest =>
        if t.kind = .word ∧ !reserved.contains t.text then
          some ([(.plain, Tree.ofToken .identifier t)], rest)
        else none
      | [] => none
    | .token kind leaf =>
      match ts with
      | t :: rest =>
        if t.kind = kind then some ([(.plain, Tree.ofToken leaf t)], rest) else none
      | [] => none
    | .named n => take grammar fuel subject (grammar n) ts
    | .both first second =>
      match take grammar fuel subject first ts with
      | none => none
      | some (a, rest) =>
        match take grammar fuel subject second rest with
        | none => none
        | some (b, rest) => some (a ++ b, rest)
    | .either first second =>
      match take grammar fuel subject first ts with
      | some result => some result
      | none => take grammar fuel subject second ts
    | .many r =>
      match take grammar fuel subject r ts with
      | none => some ([], ts)
      | some (a, rest) =>
        if startLater rest ts then
          match take grammar fuel subject (.many r) rest with
          | some (b, rest) => some (a ++ b, rest)
          | none => none
        else some (a, rest)
    | .ahead r =>
      match take grammar fuel subject r ts with
      | some _ => some ([], ts)
      | none => none
    | .notAhead r =>
      match take grammar fuel subject r ts with
      | some _ => none
      | none => some ([], ts)
    | .role part r =>
      match take grammar fuel subject r ts with
      | some (children, rest) => some (children.map fun c => (part, c.2), rest)
      | none => none
    | .node kind r =>
      match take grammar fuel subject r ts with
      | some (children, rest) => some (around kind ts rest children, rest)
      | none => none
    | .nodeUnlessSingle kind r =>
      match take grammar fuel subject r ts with
      | some ([child], rest) => some ([child], rest)
      | some (children, rest) => some (around kind ts rest children, rest)
      | none => none
    | .chain base steps =>
      match take grammar fuel none base ts with
      | some ([(_, tree)], rest) => takeSteps grammar fuel tree steps rest
      | _ => none
    | .step subjects part kind r =>
      match subject with
      | none => none
      | some tree =>
        if subjects tree.kind then
          match take grammar fuel none r ts with
          | some (children, rest) =>
            let span := { tree.span with stop := max tree.span.stop (spanOf ts rest).stop }
            some ([(.plain, .node kind span ((part, tree) :: children))], rest)
          | none => none
        else none
    | .only kinds r =>
      match take grammar fuel subject r ts with
      | some ([child], rest) => if kinds child.2.kind then some ([child], rest) else none
      | _ => none

/-- Takes steps as long as one fits. -/
def takeSteps (grammar : N → Rule N) : (fuel : Nat) → Tree → Rule N → List Token → Result
  | 0, _, _, _ => none
  | fuel + 1, tree, steps, ts =>
    match take grammar fuel (some tree) steps ts with
    | some ([(_, grown)], rest) => takeSteps grammar fuel grown steps rest
    | _ => some ([(.plain, tree)], ts)

end

/-! ### Combinations -/

def symbol (text : String) : Rule N := .symbols [Text.ofString text]

def word (text : String) : Rule N := .keyword (Text.ofString text)

/-- One of some words. -/
def anyWord : List String → Rule N
  | [] => .notAhead .nothing
  | [w] => word w
  | w :: ws => .either (word w) (anyWord ws)

/-- One of some symbols. -/
def anySymbol : List String → Rule N
  | [] => .notAhead .nothing
  | [s] => symbol s
  | s :: ss => .either (symbol s) (anySymbol ss)

def maybe (r : Rule N) : Rule N := .either r .nothing

/-- A rule at least once, with a separator between each two. -/
def separated (separator : String) (r : Rule N) : Rule N := r ++ .many (symbol separator ++ r)

/-- A rule any number of times, with commas between. -/
def listed (r : Rule N) : Rule N := maybe (separated "," r)

def braced (r : Rule N) : Rule N := symbol "\x7b" ++ r ++ symbol "\x7d"

def parenthesized (r : Rule N) : Rule N := symbol "(" ++ r ++ symbol ")"

end Rule

end LogHarvest.Java
