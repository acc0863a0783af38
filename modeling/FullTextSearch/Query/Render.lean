/-
# `FullTextSearch.Query.Render` — tokens as `tsquery` text.

The text is built in one pass that remembers only the previous token: `piece` is what one token
writes after the previous one, its spacing included.  Operands that follow each other directly are
joined by `&`; precedence is left to the database, and operators without an operand are written as
they stand.  A phrase without words writes nothing and is not remembered either, while a second
`AND` or `OR` in a row writes nothing but is.
-/
import FullTextSearch.Token

namespace FullTextSearch.Query

/-- A word inside double quotes. -/
def quoted (word : Text) : Text := ['"'] ++ word ++ ['"']

/-- The words of a phrase, each to stand directly after the one before, in parentheses.  A single
word is left bare where asked. -/
def phraseText (words : List Text) (bare : Bool) : Text :=
  match words, bare with
  | [word], true => quoted word
  | _, _ => ['('] ++ List.intercalate " <-> ".toList (words.map quoted) ++ [')']

/-- Whether a token ends an operand; at the start of the text nothing does. -/
def operandEnds : Option Token → Bool
  | some t => t.endsOperand
  | none => false

/-- Whether the previous token is `AND` or `OR`. -/
def connects : Option Token → Bool
  | some t => t.isConnective
  | none => false

/-- What goes in front of a word or a phrase: nothing after an open parenthesis or a negation, else
a space, and an `&` after an operand. -/
def operandLead (previous : Option Token) : Text :=
  match previous with
  | some .openParen | some .minus => []
  | _ => ' ' :: if operandEnds previous then "& ".toList else []

/-- What one token writes after the previous one. -/
def piece (previous : Option Token) : Token → Text
  | .word t => operandLead previous ++ t
  | .phrase t =>
    let bare := match previous with
      | some .openParen | some (.around _) => true
      | _ => false
    operandLead previous ++ phraseText t.words bare
  | .or => if connects previous then [] else " |".toList
  | .and => if connects previous then [] else " &".toList
  | .minus =>
    (if operandEnds previous then " &".toList else []) ++
      (if previous = some .openParen then ['!'] else " !".toList)
  | .around n => if n = 1 then " <->".toList else " <".toList ++ Numeral.ofInt n ++ ['>']
  | .openParen =>
    match previous with
    | some .and | some .or | some (.around _) => " (".toList
    | _ => if operandEnds previous then " & (".toList else ['(']
  | .closeParen => [')']

/-- A phrase without words, which is passed over. -/
def isSilent : Token → Bool
  | .phrase t => t.words.isEmpty
  | _ => false

/-- The text of a token list after a previous token. -/
def pieces (previous : Option Token) : List Token → Text
  | [] => []
  | t :: rest =>
    if isSilent t then pieces previous rest else piece previous t ++ pieces (some t) rest

/-- The `tsquery` text of a token list. -/
def render (tokens : List Token) : Text := (pieces none tokens).trim

end FullTextSearch.Query
