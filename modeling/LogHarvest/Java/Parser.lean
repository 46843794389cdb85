import LogHarvest.Java.Grammar
import LogHarvest.Java.Lexer

/-!
# Parsers

What is told about a source is told about its syntax tree. Where the tree comes from is the work of
a parser, and nothing else looks into the source for its structure. The parser that is taken unless
another is at hand goes by the grammar of this library.
-/

namespace LogHarvest.Java

/-- A parser gives the syntax tree of every source that is free of syntax errors. -/
class Parser where
  parse? : Text → Option Tree

export Parser (parse?)

/-- The parser that goes by the grammar. -/
instance grammarParser : Parser where
  parse? source := (Lexer.tokens? source).bind Tree.ofTokens?

end LogHarvest.Java
