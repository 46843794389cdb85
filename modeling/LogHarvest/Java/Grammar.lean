import LogHarvest.Java.Rule

/-!
# The grammar of Java source

The rules follow the language, leniently where a tool that looks for calls can be: statements
and methods may stand outside of classes, stray semicolons are fine everywhere, and modifiers
are not checked against what they modify. A word is reserved only where a keyword could stand
in its place, so that contextual keywords can name things everywhere else.

Operators are not ranked. An expression is a row of operands with operators between them, for
calls come in the same order however the operands are grouped.
-/

namespace LogHarvest.Java

open Text (ofString)

/-- The named rules. Where `arrow` is false an expression may not be a bare lambda, because an
arrow after it belongs to a switch rule. -/
inductive Part where
  | program
  | statement
  | block
  | declaration
  | localVariables
  | switch
  | switchLabel
  | classBody
  | interfaceBody
  | annotationBody
  | method
  | modifiers
  | annotationUse
  | elementValue
  | type
  | plainType
  | simpleType
  | typeArguments
  | typeParameters
  | dimensions
  | formalParameters
  | declarators
  | initializer
  | expression (arrow : Bool)
  | operand (arrow : Bool)
  | lambda
  | primary
  | creation
  | argumentList
  | recordPattern
  | scopedName
  | moduleDirective

namespace Grammar

open Rule

abbrev R := Rule Part

def part (p : Part) : R := .named p

/-! ### Words -/

def primitiveWords : List String :=
  ["void", "byte", "short", "int", "long", "char", "float", "double", "boolean"]

/-- Words that cannot name anything at the start of an operand. -/
def operandWords : List String :=
  primitiveWords ++ ["true", "false", "null", "this", "super", "new", "switch", "instanceof"]

/-- Words that cannot name a member after a point. -/
def memberWords : List String := ["new", "super", "this", "class"]

def modifierWords : List String :=
  ["public", "protected", "private", "abstract", "static", "final", "strictfp", "default",
    "synchronized", "native", "transient", "volatile"]

/-- Words that start a statement or a declaration and nothing else. -/
def statementWords : List String :=
  modifierWords ++ ["assert", "do", "while", "break", "continue", "return", "throw", "try",
    "if", "for", "class", "interface", "enum", "package", "import"]

/-- Words that start a declaration or a statement or are names. They cannot name the type of
a local variable. -/
def softWords : List String := ["open", "module", "record", "with", "sealed", "yield"]

/-- Words that cannot name the type of a member or a constructor. -/
def memberTypeWords : List String := modifierWords ++ ["class", "interface", "enum"]

def named (reserved : List String) : R := .name (reserved.map ofString)

/-- A name wherever no keyword could stand. -/
def anyName : R := named []

def operandName : R := named operandWords

def memberName : R := named memberWords

/-- A name that is given to the thing around it. -/
def givenName (reserved : List String) : R := role .name (named reserved)

/-! ### Types and annotations -/

def annotations : R := many (part .annotationUse)

def scopedName : R := anyName ++ many (symbol "." ++ anyName)

def elementPair : R := operandName ++ symbol "=" ++ part .elementValue

def annotationUse : R :=
  notAhead (symbols [ofString "@", ofString "interface"]) ++ symbol "@" ++ part .scopedName ++
    maybe (parenthesized (separated "," elementPair) <|> parenthesized (part .elementValue) <|>
      parenthesized nothing)

def elementValue : R :=
  braced (listed (part .elementValue) ++ maybe (symbol ",")) <|> part .annotationUse <|>
    part (.expression true)

def modifier : R :=
  part .annotationUse <|> anyWord modifierWords <|> word "sealed" <|>
    symbols [ofString "non", ofString "-", ofString "sealed"]

def modifiers : R := many modifier

def typeName (reserved : List String) : R := named reserved ++ maybe (part .typeArguments)

def simpleType : R :=
  node .other (anyWord primitiveWords <|>
    typeName operandWords ++ many (symbol "." ++ annotations ++ typeName memberWords))

def dimensions : R :=
  let pair := annotations ++ symbol "[" ++ symbol "]"
  pair ++ many pair

def plainType : R := nodeUnlessSingle .other (part .simpleType ++ maybe (part .dimensions))

def type : R := nodeUnlessSingle .other (annotations ++ part .plainType)

def wildcard : R :=
  annotations ++ symbol "?" ++ maybe ((word "extends" <|> word "super") ++ part .type)

def typeArguments : R := symbol "<" ++ listed (wildcard <|> part .type) ++ symbol ">"

def typeParameters : R :=
  let bound := word "extends" ++ separated "&" (part .type)
  symbol "<" ++ separated "," (annotations ++ anyName ++ maybe bound) ++ symbol ">"

def typeList : R := separated "," (part .type)

/-! ### Expressions -/

def assignmentSymbols : R :=
  anySymbol ["=", "+=", "-=", "*=", "/=", "&=", "|=", "^=", "%=", "<<="] <|>
    symbols [ofString ">", ofString ">", ofString ">", ofString "="] <|>
    symbols [ofString ">", ofString ">", ofString "="]

def binarySymbols : R :=
  anySymbol ["&&", "||", "==", "!=", "<=", "<<", "<", "+", "-", "*", "/", "&", "|", "^", "%"] <|>
    symbols [ofString ">", ofString ">", ofString ">"] <|>
    symbols [ofString ">", ofString ">"] <|>
    symbols [ofString ">", ofString "="] <|>
    symbol ">"

def stringLiteral : R :=
  let embedded := part (.expression true)
  token .string .string <|>
    node .string (token .stringHead .other ++ embedded ++
      many (token .stringPart .other ++ embedded) ++ token .stringTail .other)

def literal : R :=
  token .number .other <|> token .character .other <|> stringLiteral <|>
    node .other (anyWord ["true", "false", "null"])

def arguments : R := role .arguments (part .argumentList)

def argumentList : R :=
  node .arguments (parenthesized (listed (role .argument (part (.expression true)))))

def referenceTail : R :=
  symbol "::" ++ maybe (part .typeArguments) ++ (word "new" <|> named ["new"])

/-- What starts with a type: a class literal or a reference to a method. -/
def typeOperand : R := part .plainType ++ (symbol "." ++ word "class" <|> referenceTail)

def primaryBase : R :=
  node .other typeOperand <|> literal <|> node .other (word "this") <|>
    node .superWord (word "super" ++ ahead (symbol "." <|> symbol "::")) <|>
    node .call (role .name operandName ++ arguments) <|> operandName <|>
    node .other (parenthesized (part (.expression true))) <|> part .creation

def anySubject (_ : Kind) : Bool := true

def ordinarySubject (k : Kind) : Bool := k ≠ .superWord

def assignable (k : Kind) : Bool := k = .identifier || k = .fieldAccess || k = .arrayAccess

def calledMember : R := maybe (part .typeArguments) ++ role .name memberName ++ arguments

def superMember : R := symbol "." ++ node .superWord (word "super") ++ symbol "."

def primarySteps : R :=
  step anySubject .object .call (symbol "." ++ calledMember) <|>
    step ordinarySubject .object .call (superMember ++ calledMember) <|>
    step anySubject .plain .fieldAccess
      ((superMember <|> symbol ".") ++ (memberName <|> node .other (word "this"))) <|>
    step ordinarySubject .plain .other (symbol "." ++ part .creation) <|>
    step ordinarySubject .plain .other (symbol "." ++ stringLiteral) <|>
    step ordinarySubject .plain .arrayAccess
      (symbol "[" ++ part (.expression true) ++ symbol "]") <|>
    step anySubject .plain .other referenceTail <|>
    step assignable .plain .expression (assignmentSymbols ++ part (.expression true))

def primary : R := chain primaryBase primarySteps

def creation : R :=
  let sized := symbol "[" ++ part (.expression true) ++ symbol "]"
  let array := annotations ++ part .simpleType ++
    (annotations ++ sized ++ many (annotations ++ sized) ++ maybe (part .dimensions) <|>
      part .dimensions ++ part .initializer)
  let object := annotations ++ maybe (part .typeArguments) ++ annotations ++
    part .simpleType ++ part .argumentList ++ maybe (part .classBody)
  node .other (word "new" ++ (array <|> object))

def lambda : R :=
  let inferred := parenthesized (separated "," operandName)
  node .expression ((operandName <|> inferred <|> part .formalParameters) ++ symbol "->" ++
    (part .block <|> part (.expression true)))

def cast (arrow : Bool) : R :=
  node .expression (parenthesized (separated "&" (part .type)) ++ part (.operand arrow))

def operand (arrow : Bool) : R :=
  let signed := anySymbol ["++", "--", "+", "-", "!", "~"] ++ part (.operand arrow)
  (if arrow then part .lambda else notAhead nothing) <|> node .expression signed <|>
    cast arrow <|> part .switch <|> part .primary

def instanceTail : R :=
  word "instanceof" ++ maybe (word "final") ++
    (part .recordPattern <|> part .type ++ maybe anyName)

def expression (arrow : Bool) : R :=
  let conditional := symbol "?" ++ part (.expression true) ++ symbol ":" ++
    part (.expression arrow)
  let tail := anySymbol ["++", "--"] <|> instanceTail <|> conditional <|>
    binarySymbols ++ part (.operand arrow)
  nodeUnlessSingle .expression (part (.operand arrow) ++ many tail)

def initializer : R :=
  node .other (braced (listed (part .initializer) ++ maybe (symbol ","))) <|>
    part (.expression true)

/-! ### Variables and parameters -/

def declaratorName (reserved : List String) : R :=
  givenName reserved ++ maybe (part .dimensions)

def declarator : R :=
  node .declarator (declaratorName ["instanceof"] ++ maybe (symbol "=" ++ part .initializer))

def declarators : R := separated "," (role .declarator declarator)

/-- No word here that could not be the name of a local variable's type. -/
def localTypeAhead : R := notAhead (anyWord (statementWords ++ softWords))

def localVariables : R :=
  node .other (part .modifiers ++ localTypeAhead ++ part .plainType ++ part .declarators ++
    symbol ";")

def formalParameters : R :=
  let receiver := annotations ++ part .plainType ++ many (anyName ++ symbol ".") ++ word "this"
  let spread := part .modifiers ++ part .plainType ++ symbol "..." ++ annotations ++ declarator
  let single := part .modifiers ++ part .plainType ++ declaratorName ["this"]
  let rest := listed (spread <|> single)
  node .other (parenthesized (receiver ++ symbol "," ++ rest <|> receiver <|> rest))

/-! ### Patterns and switches -/

def recordPattern : R :=
  let component := part .recordPattern <|> part .plainType ++ named ["when"] <|> word "_"
  node .other (named operandWords ++ maybe (part .typeArguments) ++
    parenthesized (listed component))

def switchLabel : R :=
  let pattern := (part .recordPattern <|> part .plainType ++ named ["when"]) ++
    ahead (word "when" <|> symbol "->" <|> symbol ":")
  let guard := word "when" ++ part (.expression false)
  word "case" ++ (pattern <|> separated "," (part (.expression false))) ++ maybe guard <|>
    word "default"

def switch : R :=
  let throwing := word "throw" ++ part (.expression true) ++ symbol ";"
  let result := part .block <|> throwing <|> part (.expression true) ++ symbol ";"
  let rule := node .other (part .switchLabel ++ symbol "->" ++ result)
  let label := part .switchLabel ++ symbol ":"
  let group := node .other (label ++ many label ++ many (part .statement))
  node .expression (word "switch" ++ parenthesized (part (.expression true)) ++
    (braced (many rule) <|> braced (many group)))

/-! ### Statements -/

def block : R := node .other (braced (many (part .statement)))

def condition : R := parenthesized (part (.expression true))

def forStatement : R :=
  let each := part .modifiers ++ part .plainType ++ declaratorName [] ++ symbol ":" ++
    part (.expression true)
  let start := part .localVariables <|> listed (part (.expression true)) ++ symbol ";"
  let counted := start ++ maybe (part (.expression true)) ++ symbol ";" ++
    listed (part (.expression true))
  word "for" ++ (parenthesized each <|> parenthesized counted) ++ part .statement

def tryStatement : R :=
  let caught := part .modifiers ++ separated "|" (part .plainType) ++ declaratorName []
  let catching := word "catch" ++ parenthesized caught ++ part .block
  let finally_ := word "finally" ++ part .block
  let typed := part .modifiers ++ part .plainType ++ declaratorName [] ++ symbol "=" ++
    part (.expression true)
  let resource := typed <|>
    only (fun k => k = .identifier || k = .fieldAccess) (part .primary)
  let resources := parenthesized (separated ";" resource ++ maybe (symbol ";"))
  word "try" ++ (resources ++ part .block ++ many catching ++ maybe finally_ <|>
    part .block ++ (catching ++ many catching ++ maybe finally_ <|> finally_))

/-- A statement that starts with a word of its own. -/
def wordStatement : R :=
  let value := part (.expression true)
  word "if" ++ condition ++ part .statement ++ maybe (word "else" ++ part .statement) <|>
    word "while" ++ condition ++ part .statement <|>
    forStatement <|>
    word "do" ++ part .statement ++ word "while" ++ condition ++ symbol ";" <|>
    tryStatement <|>
    word "synchronized" ++ condition ++ part .block <|>
    word "return" ++ maybe value ++ symbol ";" <|>
    word "throw" ++ value ++ symbol ";" <|>
    word "break" ++ maybe anyName ++ symbol ";" <|>
    word "continue" ++ maybe anyName ++ symbol ";" <|>
    word "assert" ++ value ++ maybe (symbol ":" ++ value) ++ symbol ";" <|>
    word "yield" ++ value ++ symbol ";" <|>
    part .switch

def labelled : R :=
  notAhead (anyWord softWords) ++ operandName ++ symbol ":" ++ part .statement

def statement : R :=
  symbol ";" <|> part .block <|> node .other wordStatement <|> part .declaration <|>
    part .localVariables <|>
    node .other (notAhead (anyWord statementWords) ++
      (labelled <|> part (.expression true) ++ symbol ";"))

/-! ### Declarations -/

def interfaces : R := word "implements" ++ typeList

def permitted : R := word "permits" ++ typeList

def body (r : Part) : R := role .body (part r)

def classDeclaration : R :=
  node .classDecl (part .modifiers ++ word "class" ++ givenName [] ++
    maybe (part .typeParameters) ++ maybe (word "extends" ++ part .type) ++
    maybe interfaces ++ maybe permitted ++ body .classBody)

def interfaceDeclaration : R :=
  node .interfaceDecl (part .modifiers ++ word "interface" ++ givenName [] ++
    maybe (part .typeParameters) ++ maybe (word "extends" ++ typeList) ++ maybe permitted ++
    body .interfaceBody)

def recordDeclaration : R :=
  node .recordDecl (part .modifiers ++ word "record" ++ givenName [] ++
    maybe (part .typeParameters) ++ part .formalParameters ++ maybe interfaces ++
    body .classBody)

def annotationDeclaration : R :=
  node .other (part .modifiers ++ symbols [ofString "@", ofString "interface"] ++ anyName ++
    part .annotationBody)

/-- What may stand in the body of a class. -/
def classMember : R :=
  let typeAhead := notAhead (anyWord ["class", "interface", "enum"])
  let explicitly := maybe (part .typeArguments) ++ (word "this" <|> word "super") ++
      part .argumentList ++ symbol ";" <|>
    chain primaryBase (notAhead (symbol "." ++ maybe (part .typeArguments) ++ word "super" ++
      symbol "(") ++ primarySteps) ++ symbol "." ++ maybe (part .typeArguments) ++
      word "super" ++ part .argumentList ++ symbol ";"
  let throws := word "throws" ++ typeList
  let constructor_ := part .modifiers ++ maybe (part .typeParameters) ++
    named (memberTypeWords ++ primitiveWords) ++ part .formalParameters ++ maybe throws ++
    braced (maybe (node .other explicitly) ++ many (part .statement))
  let compact := part .modifiers ++ named (memberTypeWords ++ primitiveWords) ++ part .block
  let field := part .modifiers ++ typeAhead ++ part .plainType ++ part .declarators ++
    symbol ";"
  symbol ";" <|> part .block <|> node .other (word "static" ++ part .block) <|>
    part .declaration <|> part .method <|> node .other constructor_ <|>
    node .other compact <|> node .fieldDecl field

def classBody : R := node .body (braced (many classMember))

def constant : R :=
  node .constantDecl (part .modifiers ++ notAhead (anyWord ["class", "interface", "enum"]) ++
    part .plainType ++ part .declarators ++ symbol ";")

def interfaceBody : R :=
  node .body (braced (many (symbol ";" <|> part .declaration <|> part .method <|> constant)))

def annotationBody : R :=
  let element := part .modifiers ++ notAhead (anyWord ["class", "interface", "enum"]) ++
    part .plainType ++ anyName ++ symbol "(" ++ symbol ")" ++ maybe (part .dimensions) ++
    maybe (word "default" ++ part .elementValue) ++ symbol ";"
  node .body (braced (many (symbol ";" <|> part .declaration <|> node .other element <|>
    constant)))

def enumBody : R :=
  let value := node .other (part .modifiers ++ named modifierWords ++
    maybe (part .argumentList) ++ maybe (part .classBody))
  node .body (braced (listed value ++ maybe (symbol ",") ++
    maybe (node .enumMembers (symbol ";" ++ many classMember))))

def enumDeclaration : R :=
  node .enumDecl (part .modifiers ++ word "enum" ++ givenName [] ++ maybe interfaces ++
    role .body enumBody)

/-- Declarations that may also stand in a body. -/
def typeDeclaration : R :=
  classDeclaration <|> interfaceDeclaration <|> enumDeclaration <|> recordDeclaration <|>
    annotationDeclaration

/-- Declarations of a source file. -/
def fileDeclaration : R :=
  let packaged := annotations ++ word "package" ++ part .scopedName ++ symbol ";"
  let imported := word "import" ++ maybe (word "static") ++ part .scopedName ++
    maybe (symbol "." ++ symbol "*") ++ symbol ";"
  let module_ := annotations ++ maybe (word "open") ++ word "module" ++ part .scopedName ++
    braced (many (part .moduleDirective))
  node .other packaged <|> node .other imported <|> node .other module_

def moduleDirective : R :=
  let names := separated "," (part .scopedName)
  let requires := word "requires" ++ many (word "transitive" <|> word "static") ++
    part .scopedName
  let exported := (word "exports" <|> word "opens") ++ part .scopedName ++
    maybe (word "to" ++ names)
  let used := word "uses" ++ part .scopedName
  let provided := word "provides" ++ part .scopedName ++ word "with" ++ names
  (requires <|> exported <|> used <|> provided) ++ symbol ";"

def method : R :=
  let throws := word "throws" ++ typeList
  node .other (part .modifiers ++ maybe (part .typeParameters ++ annotations) ++
    notAhead (anyWord statementWords) ++ part .plainType ++ anyName ++
    part .formalParameters ++ maybe (part .dimensions) ++ maybe throws ++
    (part .block <|> symbol ";"))

def program : R := many (part .statement <|> part .method)

/-- The rule of each name. -/
def rule : Part → R
  | .program => program
  | .statement => fileDeclaration <|> statement
  | .block => block
  | .declaration => typeDeclaration
  | .localVariables => localVariables
  | .switch => switch
  | .switchLabel => switchLabel
  | .classBody => classBody
  | .interfaceBody => interfaceBody
  | .annotationBody => annotationBody
  | .method => method
  | .modifiers => modifiers
  | .annotationUse => annotationUse
  | .elementValue => elementValue
  | .type => type
  | .plainType => plainType
  | .simpleType => simpleType
  | .typeArguments => typeArguments
  | .typeParameters => typeParameters
  | .dimensions => dimensions
  | .formalParameters => formalParameters
  | .declarators => declarators
  | .initializer => initializer
  | .expression arrow => expression arrow
  | .operand arrow => operand arrow
  | .lambda => lambda
  | .primary => primary
  | .creation => creation
  | .argumentList => argumentList
  | .recordPattern => recordPattern
  | .scopedName => scopedName
  | .moduleDirective => moduleDirective

/-- More than the depth to which rules nest over some tokens. -/
def fuel (ts : List Token) : Nat := 200 * (ts.length + 1)

end Grammar

/-- The syntax tree of some tokens, if they are a program. -/
def Tree.ofTokens? (ts : List Token) : Option Tree :=
  match Rule.take Grammar.rule (Grammar.fuel ts) none (.node .other (.named .program)) ts with
  | some ([(_, tree)], []) => some tree
  | _ => none

end LogHarvest.Java
