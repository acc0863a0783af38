/-
# `FullTextSearch.Token.Kind` — tokens given by the name of their kind.

A token list that was not read from a search string is written as pairs of a kind and a content: the
text of a word or phrase, the numeral of a distance, nothing for the other kinds.  A kind that the
query language does not have is a fault.
-/
import FullTextSearch.Token
import FullTextSearch.Fault
import FullTextSearch.Number.Reading

namespace FullTextSearch.Token

/-- The name of a token's kind. -/
def kind : Token → Text
  | .word _ => "Word".toList
  | .phrase _ => "QuotedPhrase".toList
  | .and => "And".toList
  | .or => "Or".toList
  | .minus => "Minus".toList
  | .around _ => "Around".toList
  | .openParen => "Open".toList
  | .closeParen => "Close".toList

/-- What a token carries beside its kind. -/
def content : Token → Option Text
  | .word t | .phrase t => some t
  | .around n => some (Numeral.ofInt n)
  | _ => none

/-- The distance operator of a numeral.  A content that is no numeral makes no token at all. -/
def ofNumeral (content : Text) : Except Fault Token :=
  match Numeral.read content with
  | .ok n => .ok (.around n)
  | .error (.oversized digits) => .error (.oversizedNumber digits)
  | .error .notANumber => .error (.unknownToken content)

/-- The token of a kind and a content; kinds without a content ignore it. -/
def ofKind (kind content : Text) : Except Fault Token :=
  if kind = "Word".toList then .ok (.word content)
  else if kind = "QuotedPhrase".toList then .ok (.phrase content)
  else if kind = "And".toList then .ok .and
  else if kind = "Or".toList then .ok .or
  else if kind = "Minus".toList then .ok .minus
  else if kind = "Around".toList then ofNumeral content
  else if kind = "Open".toList then .ok .openParen
  else if kind = "Close".toList then .ok .closeParen
  else .error (.unknownToken kind)

end FullTextSearch.Token
