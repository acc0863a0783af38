/-
# `FullTextSearch.Token` — the words, phrases and operators of a search string.

A search string is a flat list of tokens; grouping is left to the parentheses among them.
`describe` writes a token list as one explicit line for logs, where every token shows its kind.
-/
import FullTextSearch.Number.Numeral

namespace FullTextSearch

/-- A token of a search string.  A distance read from a search string is never negative; the type
admits every integer because token lists can also be built by hand. -/
inductive Token where
  /-- A bare word. -/
  | word (text : Text)
  /-- A quoted phrase, its words joined by single spaces; the empty text when it holds no word. -/
  | phrase (text : Text)
  /-- Conjunction, written `AND` or `&`. -/
  | and
  /-- Disjunction, written `OR` or `|`. -/
  | or
  /-- Negation, written `-` or `!`. -/
  | minus
  /-- Proximity, written `AROUND(n)` or `<n>`: the operands stand `n` words apart. -/
  | around (distance : Int)
  /-- An opening parenthesis. -/
  | openParen
  /-- A closing parenthesis. -/
  | closeParen
deriving DecidableEq, Repr

namespace Token

/-- One token, its kind written out. -/
def describe : Token → Text
  | .word t => "WORD(\"".toList ++ t ++ "\")".toList
  | .phrase t => "QUOTED(\"".toList ++ t ++ "\")".toList
  | .and => "AND".toList
  | .or => "OR".toList
  | .minus => "MINUS".toList
  | .around n => "AROUND(".toList ++ Numeral.ofInt n ++ ")".toList
  | .openParen => "OPEN".toList
  | .closeParen => "CLOSE".toList

/-- A token list on one line, the tokens separated by spaces. -/
def describeAll (tokens : List Token) : Text := List.intercalate [' '] (tokens.map describe)

/-- A token that ends an operand: what follows it directly is a second operand. -/
def endsOperand : Token → Bool
  | .word _ | .phrase _ | .closeParen => true
  | _ => false

/-- A token that joins two operands by `AND` or `OR`. -/
def isConnective : Token → Bool
  | .and | .or => true
  | _ => false

end Token

end FullTextSearch
