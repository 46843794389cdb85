import LogHarvest.Java.Parser
import LogHarvest.Proofs.Java.Lexer
import LogHarvest.Proofs.Java.Names
import LogHarvest.Proofs.Java.Receivers

/-!
# Lawful parsers

What is told about a source owes little to its parser: that declarations and calls have names, that
names are words of the source, and that the receiver of a call comes before its arguments. Any
parser may be taken that keeps to this, and the one that goes by the grammar does.
-/

namespace LogHarvest.Java

/-- The spans whose text is made of the codes of words. -/
def IsWordOf (source : Text) (span : Span) : Prop := ∀ c ∈ span.text source, isWordCode c = true

/-- What a parser has to keep to. -/
class LawfulParser [Parser] : Prop where
  /-- Declarations and calls have names, and names are words. -/
  namedBy : ∀ {source : Text} {tree : Tree}, parse? source = some tree →
    tree.NamedBy (IsWordOf source)
  /-- Receivers come first. -/
  receiverFirst : ∀ {source : Text} {tree : Tree}, parse? source = some tree → tree.ReceiverFirst

theorem isWordOf_of_isWordSpan {source : Text} {ts : List Token}
    (hts : Lexer.tokens? source = some ts) {span : Span} (h : IsWordSpan ts span) :
    IsWordOf source span := by
  obtain ⟨word, hword, hkind, rfl⟩ := h
  have hcut := Lexer.cutFrom_of_mem_tokens hts word hword
  rw [IsWordOf, hcut.span_text]
  exact hcut.word hkind

instance : LawfulParser where
  namedBy h := by
    obtain ⟨ts, hts, htree⟩ := Option.bind_eq_some_iff.1 h
    exact (Tree.namedBy_of_ofTokens htree).mono fun _ hspan => isWordOf_of_isWordSpan hts hspan
  receiverFirst h := by
    obtain ⟨ts, -, htree⟩ := Option.bind_eq_some_iff.1 h
    exact Tree.receiverFirst_of_ofTokens htree

end LogHarvest.Java
