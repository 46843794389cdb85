import LogHarvest.Java.Token

/-!
# Syntax trees

A node has a kind, the part of the source it stands for, and its children in the order of the
source, each with the role it plays. Only the kinds and roles that tell log calls, types and
fields apart have names of their own.
-/

namespace LogHarvest.Java

/-- What a node is. -/
inductive Kind where
  | identifier
  | string
  | call
  | arguments
  | fieldAccess
  | arrayAccess
  | superWord
  | classDecl
  | interfaceDecl
  | enumDecl
  | recordDecl
  | fieldDecl
  | constantDecl
  | declarator
  | body
  | enumMembers
  | expression
  | other
deriving DecidableEq

/-- The part a child plays in its parent. -/
inductive Role where
  | name
  | object
  | arguments
  | argument
  | body
  | declarator
  | plain
deriving DecidableEq

/-- A node of a syntax tree. -/
inductive Tree where
  | node (kind : Kind) (span : Span) (children : List (Role × Tree))

namespace Tree

def kind : Tree → Kind
  | .node k _ _ => k

def span : Tree → Span
  | .node _ s _ => s

def children : Tree → List (Role × Tree)
  | .node _ _ cs => cs

/-- The first child with a role. -/
def child? (t : Tree) (role : Role) : Option Tree :=
  (t.children.find? fun c => c.1 = role).map Prod.snd

/-- The children with a role. -/
def childrenWith (t : Tree) (role : Role) : List Tree :=
  (t.children.filter fun c => c.1 = role).map Prod.snd

/-- A node without children for a token. -/
def ofToken (kind : Kind) (t : Token) : Tree := .node kind ⟨t.start, t.stop, t.row⟩ []

end Tree

end LogHarvest.Java
