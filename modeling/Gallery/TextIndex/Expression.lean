import Gallery.Query.Basic

/-!
# Match expressions

What the text index is asked: phrases that a row must have, each whole or as
the start of a longer word, and phrases that it must not have.  The written
form quotes every phrase, so no term of a query is read as an operator.
-/

namespace Gallery.TextIndex

structure Phrase where
  text : String
  /-- The last word may go on. -/
  opens : Bool
  deriving DecidableEq

structure Expression where
  required : List Phrase
  excluded : List String
  deriving DecidableEq

/-- A quote inside a phrase is written twice. -/
def doubleQuotes : List Char → List Char
  | [] => []
  | c :: text =>
    if c = '"' then '"' :: '"' :: doubleQuotes text else c :: doubleQuotes text

def quotePhrase (text : String) : String :=
  String.ofList (['"'] ++ doubleQuotes text.toList ++ ['"'])

def Phrase.render (phrase : Phrase) : String :=
  if phrase.opens then quotePhrase phrase.text ++ "*" else quotePhrase phrase.text

def Expression.render (expression : Expression) : String :=
  "(" ++ " AND ".intercalate (expression.required.map Phrase.render) ++ ")" ++
    String.join (expression.excluded.map fun term => " NOT " ++ quotePhrase term)

/-- The flags of `exact`, one for each of `terms`; a missing flag is false. -/
def withExactness (terms : List String) (exact : List Bool) : List (String × Bool) :=
  terms.zip (exact ++ List.replicate terms.length false)

/-- The general terms, each open unless it is a known tag, without the negative
terms.  There is none for a query without general terms. -/
def Expression.ofQuery? (query : Query) (exact : List Bool) : Option Expression :=
  if query.general.isEmpty then none
  else some {
    required := (withExactness query.general exact).map fun term => ⟨term.1, !term.2⟩
    excluded := query.negative }

end Gallery.TextIndex
