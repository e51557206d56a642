import Gallery.Query.Token
import Gallery.Text.Blank
import Gallery.Text.Lowercase

/-!
# Reading a query

A query is lower-cased and split into words.  A word that opens with a quote,
or with a minus and a quote, begins a phrase; the phrase ends at a word that
closes with a quote, or else at the end of the query.  A phrase is one term,
its words joined by single spaces.  Reading never fails.
-/

namespace Gallery

open Text

namespace Query

def apply (query : Query) : Token → Query
  | .general term => { query with general := query.general ++ [term] }
  | .phrase words =>
    { query with general := query.general ++ [words], freetext := true }
  | .negative term => { query with negative := query.negative ++ [term] }
  | .categorized category term =>
    { query with categorized := query.categorized ++ [(category, term)] }
  | .rating level => { query with ratings := query.ratings ++ [level] }
  | .source label => { query with sources := query.sources ++ [label] }
  | .filename fragment => { query with filename := some fragment }
  | .extensions endings => { query with extensions := query.extensions ++ endings }
  | .pool filter => { query with pool := some filter }
  | .relationship filter => { query with relationship := some filter }
  | .order key => { query with order := some key }
  | .favorite => { query with favorite := true }
  | .metadata filter => { query with metadata := some filter }
  | .upscaled .present => { query with upscaledPresent := true }
  | .upscaled .absent => { query with upscaledAbsent := true }

/-- Adds a phrase to the terms or to the excluded terms; an empty one is
dropped. -/
def applyPhrase (query : Query) (negated : Bool) (phrase : List Char) : Query :=
  if phrase = [] then query
  else if negated then query.apply (.negative (String.ofList phrase))
  else query.apply (.phrase (String.ofList phrase))

end Query

/-- A phrase that has been opened and not closed. -/
structure OpenPhrase where
  negated : Bool
  words : List (List Char)

/-- Adds a word without the quotes at its ends, unless nothing is left. -/
def OpenPhrase.push (phrase : OpenPhrase) (word : List Char) : OpenPhrase :=
  let bare := trimChar '"' word
  if bare = [] then phrase else { phrase with words := phrase.words ++ [bare] }

def OpenPhrase.text (phrase : OpenPhrase) : List Char :=
  [' '].intercalate phrase.words

/-- What has been read of a query: its finished part and the open phrase. -/
structure QueryReading where
  query : Query := {}
  phrase? : Option OpenPhrase := none

namespace QueryReading

/-- The rest of a word that opens a phrase, and whether it is negated. -/
def opening? (word : List Char) : Option (Bool × List Char) :=
  match word with
  | '-' :: '"' :: rest => some (true, rest)
  | '"' :: rest => some (false, rest)
  | _ => none

def continuePhrase (query : Query) (phrase : OpenPhrase) (word : List Char) :
    QueryReading :=
  match beforeEnd? ['"'] word with
  | some last => ⟨query.applyPhrase phrase.negated (phrase.push last).text, none⟩
  | none => ⟨query, some (phrase.push word)⟩

def openPhrase (query : Query) (negated : Bool) (rest : List Char) : QueryReading :=
  match beforeEnd? ['"'] rest with
  | some inner => ⟨query.applyPhrase negated (trimChar '"' inner), none⟩
  | none => ⟨query, some (OpenPhrase.push ⟨negated, []⟩ rest)⟩

def read (reading : QueryReading) (word : List Char) : QueryReading :=
  match reading.phrase? with
  | some phrase => continuePhrase reading.query phrase word
  | none =>
    match opening? word with
    | some (negated, rest) =>
      openPhrase { reading.query with freetext := true } negated rest
    | none => ⟨reading.query.apply (Token.classify word), none⟩

/-- An open phrase ends with the query. -/
def finish (reading : QueryReading) : Query :=
  match reading.phrase? with
  | some phrase => reading.query.applyPhrase phrase.negated phrase.text
  | none => reading.query

end QueryReading

def Query.ofWords (words : List (List Char)) : Query :=
  (words.foldl QueryReading.read {}).finish

def Query.parse (text : String) : Query :=
  Query.ofWords (wordsOf (lowerOf text.toList))

end Gallery
