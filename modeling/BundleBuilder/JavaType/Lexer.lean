import BundleBuilder.Text.CharClass

/-!
# Lexemes of type texts

A type text is a sequence of identifiers and single punctuation characters with white space between
them. Identifiers are read by longest match. Every lexeme remembers the offset at which it starts,
counted in UTF-8 bytes, so that an error can point at it.
-/

set_option autoImplicit false

namespace BundleBuilder.JavaType

/-- An identifier, or a single character that is neither white space nor part of an identifier. -/
inductive Token where
  | word (name : String)
  | mark (symbol : Char)
  deriving DecidableEq, Repr

/-- A token and the byte offset of its first character. -/
structure Lexeme where
  token : Token
  offset : Nat
  deriving DecidableEq, Repr

/-- The number of bytes in the UTF-8 form of a list of characters. -/
def utf8Length : List Char → Nat
  | [] => 0
  | c :: rest => c.utf8Size + utf8Length rest

/-- The lexemes of a text whose first character has the given byte offset. -/
def lexFrom (offset : Nat) : List Char → List Lexeme
  | [] => []
  | c :: rest =>
    if Text.isWhiteSpace c then lexFrom (offset + c.utf8Size) rest
    else if Text.isIdentifierStart c then
      let tail := rest.takeWhile Text.isIdentifierPart
      ⟨.word (String.ofList (c :: tail)), offset⟩
        :: lexFrom (offset + utf8Length (c :: tail)) (rest.dropWhile Text.isIdentifierPart)
    else ⟨.mark c, offset⟩ :: lexFrom (offset + c.utf8Size) rest
termination_by text => text.length
decreasing_by
  · exact Nat.lt_succ_self _
  · exact Nat.lt_succ_of_le (List.dropWhile_sublist _).length_le
  · exact Nat.lt_succ_self _

/-- The lexemes of a text. -/
def lex (text : String) : List Lexeme := lexFrom 0 text.toList

end BundleBuilder.JavaType
