import Gallery.TextIndex.Expression
import Mathlib.Data.List.Basic

/-!
# Reading match expressions

The text index reads what it is asked from a text.  Strings in quotes, in which two
quotes stand for one, and bare words are phrases; a star after one opens it; the words
`AND`, `OR` and `NOT` are operators, of which `NOT` binds tightest and `OR` loosest, all
to the left; and there are parentheses.  This is that reader, from characters to lexemes,
from there to symbols and conditions.  It refuses all else that the index would read:
columns, phrases next to one another and distances between them.

A written expression is read as the condition that it was written for, whatever its
phrases consist of (`read_render`).
-/

namespace Gallery.TextIndex

/-! ## Lexemes -/

inductive Operator
  | or
  | and
  | not
  deriving DecidableEq

namespace Operator

def name : Operator → String
  | or => "OR"
  | and => "AND"
  | not => "NOT"

def ofName? (text : String) : Option Operator :=
  [or, and, not].find? (·.name = text)

end Operator

inductive Lexeme
  | opening
  | closing
  | star
  | operator (operator : Operator)
  | string (text : String)
  deriving DecidableEq

def isBare (c : Char) : Bool :=
  c.isAlphanum || c = '_' || c.toNat = 26 || 127 < c.toNat

def Lexeme.ofWord (word : List Char) : Lexeme :=
  match Operator.ofName? (String.ofList word) with
  | some found => .operator found
  | none => .string (String.ofList word)

/-- What a text that is read up to some character is in the middle of. -/
inductive Place
  | between
  | word (read : List Char)
  | quoted (read : List Char)
  /-- Behind a quote within quotes, which another quote makes a part of the string. -/
  | quote (read : List Char)

/-- The lexemes that a character between lexemes completes, and where it leads. -/
def afresh (c : Char) : Option (List Lexeme × Place) :=
  if c = '(' then some ([.opening], .between)
  else if c = ')' then some ([.closing], .between)
  else if c = '*' then some ([.star], .between)
  else if c = '"' then some ([], .quoted [])
  else if [' ', '\t', '\n', '\r'].contains c then some ([], .between)
  else if isBare c then some ([], .word [c])
  else none

namespace Place

/-- The lexeme that ends here unless the text goes on with it. -/
def finish : Place → Option (List Lexeme)
  | between => some []
  | word read => some [.ofWord read]
  | quoted _ => none
  | quote read => some [.string (String.ofList read)]

def step : Place → Char → Option (List Lexeme × Place)
  | between, c => afresh c
  | word read, c =>
    if isBare c then some ([], word (read ++ [c]))
    else (afresh c).map fun next => (.ofWord read :: next.1, next.2)
  | quoted read, c => some ([], if c = '"' then quote read else quoted (read ++ [c]))
  | quote read, c =>
    if c = '"' then some ([], quoted (read ++ [c]))
    else (afresh c).map fun next => (.string (String.ofList read) :: next.1, next.2)

end Place

def lexemesFrom : Place → List Char → Option (List Lexeme)
  | place, [] => place.finish
  | place, c :: text => do
    let (done, next) ← place.step c
    return done ++ (← lexemesFrom next text)

/-! ## Symbols -/

inductive Symbol
  | opening
  | closing
  | operator (operator : Operator)
  | phrase (phrase : Phrase)
  deriving DecidableEq

/-- A star belongs to the string in front of it. -/
def symbols : List Lexeme → Option (List Symbol)
  | [] => some []
  | .string text :: .star :: rest => (symbols rest).map (.phrase ⟨text, true⟩ :: ·)
  | .string text :: rest => (symbols rest).map (.phrase ⟨text, false⟩ :: ·)
  | .opening :: rest => (symbols rest).map (.opening :: ·)
  | .closing :: rest => (symbols rest).map (.closing :: ·)
  | .operator operator :: rest => (symbols rest).map (.operator operator :: ·)
  | .star :: _ => none

/-! ## Conditions -/

/-- What a row is asked for. -/
inductive Condition
  | phrase (phrase : Phrase)
  | either (first second : Condition)
  | both (first second : Condition)
  | except (first second : Condition)
  deriving DecidableEq

namespace Operator

def join : Operator → Condition → Condition → Condition
  | or => .either
  | and => .both
  | not => .except

def binding : Operator → ℕ
  | or => 0
  | and => 1
  | not => 2

end Operator

/-- First operands whose second one is still being read, the innermost first. -/
abbrev Waiting := List (Condition × Operator)

/-- An operand goes to the operators in front of it that bind at least so tightly. -/
def settle (binding : ℕ) (operand : Condition) : Waiting → Condition × Waiting
  | [] => (operand, [])
  | (first, operator) :: waiting =>
    if binding ≤ operator.binding then settle binding (operator.join first operand) waiting
    else (operand, (first, operator) :: waiting)

/-- A condition that is read up to some symbol: the operand that ends there, if one
does, and what waits, within the innermost parentheses and outside of them. -/
structure Progress where
  operand? : Option Condition
  waiting : Waiting
  outer : List Waiting

def Progress.step : Progress → Symbol → Option Progress
  | ⟨none, waiting, outer⟩, .phrase phrase => some ⟨some (.phrase phrase), waiting, outer⟩
  | ⟨none, waiting, outer⟩, .opening => some ⟨none, [], waiting :: outer⟩
  | ⟨some operand, waiting, outer⟩, .operator operator =>
    let (settled, rest) := settle operator.binding operand waiting
    some ⟨none, (settled, operator) :: rest, outer⟩
  | ⟨some operand, waiting, next :: outer⟩, .closing =>
    some ⟨some (settle 0 operand waiting).1, next, outer⟩
  | _, _ => none

def Progress.finish : Progress → Option Condition
  | ⟨some operand, waiting, []⟩ => some (settle 0 operand waiting).1
  | _ => none

/-- The condition that a text asks for.  A zero character, at which the index stops reading and
for which a search is refused before (`Expression.isAdmissible`), is a character like any other
here. -/
def read (text : String) : Option Condition := do
  let symbols ← (lexemesFrom .between text.toList).bind symbols
  let progress ← symbols.foldlM Progress.step ⟨none, [], []⟩
  progress.finish

/-! ## From characters to lexemes -/

def Phrase.lexemes (phrase : Phrase) : List Lexeme :=
  .string phrase.text :: if phrase.opens then [.star] else []

/-- A text goes on with a character that is part of no string before it. -/
def Breaks (text : List Char) : Prop :=
  ∀ c ∈ text.head?, c ≠ '"' ∧ isBare c = false

theorem breaks_cons {c : Char} (hc : c ≠ '"' ∧ isBare c = false) (text : List Char) :
    Breaks (c :: text) := by
  intro d hd
  cases hd
  exact hc

section Lexemes

variable {rest : List Char} {following : List Lexeme}

theorem lexemesFrom_quoted (read text rest : List Char) :
    lexemesFrom (.quoted read) (doubleQuotes text ++ '"' :: rest) =
      lexemesFrom (.quote (read ++ text)) rest := by
  induction text generalizing read with
  | nil => simp [doubleQuotes, lexemesFrom, Place.step]
  | cons c text ih =>
      by_cases hquote : c = '"'
      · simp [doubleQuotes, lexemesFrom, Place.step, hquote, ih]
      · simp [doubleQuotes, lexemesFrom, Place.step, hquote, ih]

theorem lexemesFrom_quote (read : List Char) (hbreaks : Breaks rest)
    (hrest : lexemesFrom .between rest = some following) :
    lexemesFrom (.quote read) rest = some (.string (String.ofList read) :: following) := by
  cases rest with
  | nil =>
      cases hrest
      rfl
  | cons c rest =>
      have hquote : c ≠ '"' := (hbreaks c rfl).1
      simp only [lexemesFrom, Option.bind_eq_bind, Option.bind_eq_some_iff] at hrest ⊢
      obtain ⟨next, hnext, later, hlater, hall⟩ := hrest
      have hafresh : afresh c = some next := hnext
      cases hall
      refine ⟨(.string (String.ofList read) :: next.1, next.2), ?_, later, hlater, rfl⟩
      simp [Place.step, hquote, hafresh]

theorem lexemesFrom_cons {c : Char} {done : List Lexeme}
    (hafresh : afresh c = some (done, .between))
    (hrest : lexemesFrom .between rest = some following) :
    lexemesFrom .between (c :: rest) = some (done ++ following) := by
  have hstep : Place.between.step c = some (done, .between) := hafresh
  simp [lexemesFrom, hstep, hrest]

theorem lexemesFrom_word (read : List Char) {word : List Char}
    (hword : ∀ c ∈ word, isBare c = true) :
    lexemesFrom (.word read) (word ++ rest) = lexemesFrom (.word (read ++ word)) rest := by
  induction word generalizing read with
  | nil => simp
  | cons c word ih =>
      obtain ⟨hc, hword⟩ := List.forall_mem_cons.1 hword
      simp [lexemesFrom, Place.step, hc, ih _ hword]

theorem afresh_of_isBare {c : Char} (hc : isBare c = true) : afresh c = some ([], .word [c]) := by
  have hother : ∀ d ∈ ['(', ')', '*', '"', ' ', '\t', '\n', '\r'], c ≠ d := by
    have hspecial : ['(', ')', '*', '"', ' ', '\t', '\n', '\r'].any isBare = false := rfl
    rintro d hd rfl
    exact List.any_eq_false.1 hspecial c hd hc
  simp only [List.forall_mem_cons] at hother
  simp [afresh, hother, hc]

theorem lexemesFrom_operator (operator : Operator)
    (hrest : lexemesFrom .between rest = some following) :
    lexemesFrom .between (' ' :: operator.name.toList ++ ' ' :: rest) =
      some (.operator operator :: following) := by
  have hspace : afresh ' ' = some ([], .between) := rfl
  have hend : lexemesFrom (.word operator.name.toList) (' ' :: rest) =
      some (.operator operator :: following) := by
    have hbare : isBare ' ' = false := by decide
    have hname : Lexeme.ofWord operator.name.toList = .operator operator := by
      cases operator <;> rfl
    simp [lexemesFrom, Place.step, hbare, hspace, hname, hrest]
  have hletters : ∀ c ∈ operator.name.toList, isBare c = true :=
    List.all_eq_true.1 (by cases operator <;> rfl)
  refine lexemesFrom_cons hspace ?_
  rw [← hend]
  cases hword : operator.name.toList with
  | nil => cases operator <;> simp [Operator.name] at hword
  | cons c word =>
      rw [hword] at hletters
      obtain ⟨hc, hword⟩ := List.forall_mem_cons.1 hletters
      have hfirst : lexemesFrom .between (c :: (word ++ ' ' :: rest)) =
          lexemesFrom (.word [c]) (word ++ ' ' :: rest) := by
        simp [lexemesFrom, Place.step, afresh_of_isBare hc]
      exact hfirst.trans (lexemesFrom_word [c] hword)

theorem lexemesFrom_phrase (phrase : Phrase) (hbreaks : Breaks rest)
    (hrest : lexemesFrom .between rest = some following) :
    lexemesFrom .between (phrase.render.toList ++ rest) = some (phrase.lexemes ++ following) := by
  have hquoted (later : List Char) :
      lexemesFrom .between ((quotePhrase phrase.text).toList ++ later) =
        lexemesFrom (.quote phrase.text.toList) later := by
    have hinner := lexemesFrom_quoted [] phrase.text.toList later
    simpa [quotePhrase, lexemesFrom, Place.step, afresh] using hinner
  cases hopens : phrase.opens with
  | false =>
      simp [Phrase.render, Phrase.lexemes, hopens, hquoted, lexemesFrom_quote _ hbreaks hrest]
  | true =>
      have hstar : afresh '*' = some ([.star], .between) := rfl
      have hbroken : Breaks ('*' :: rest) := breaks_cons (by decide) rest
      have hstarred := lexemesFrom_quote phrase.text.toList hbroken (lexemesFrom_cons hstar hrest)
      simp [Phrase.render, Phrase.lexemes, hopens, hquoted, hstarred]

/-! ### Chains of phrases -/

/-- Phrases with an operator in front of each, as they are written. -/
def Operator.written (operator : Operator) (phrases : List Phrase) : List Char :=
  phrases.flatMap fun phrase => ' ' :: operator.name.toList ++ ' ' :: phrase.render.toList

def Operator.lexemes (operator : Operator) (phrases : List Phrase) : List Lexeme :=
  phrases.flatMap fun phrase => .operator operator :: phrase.lexemes

theorem breaks_written (operator : Operator) (phrases : List Phrase) (hbreaks : Breaks rest) :
    Breaks (operator.written phrases ++ rest) := by
  cases phrases with
  | nil => exact hbreaks
  | cons phrase phrases => exact breaks_cons (by decide) _

theorem lexemesFrom_written (operator : Operator) (phrases : List Phrase)
    (hbreaks : Breaks rest) (hrest : lexemesFrom .between rest = some following) :
    lexemesFrom .between (operator.written phrases ++ rest) =
      some (operator.lexemes phrases ++ following) := by
  induction phrases with
  | nil => exact hrest
  | cons phrase phrases ih =>
      have hphrase := lexemesFrom_phrase phrase (breaks_written operator phrases hbreaks) ih
      have hall := lexemesFrom_operator operator hphrase
      simpa [Operator.written, Operator.lexemes] using hall

theorem intercalate_cons_eq_flatMap {α : Type} (between first : List α) (rest : List (List α)) :
    between.intercalate (first :: rest) = first ++ rest.flatMap (between ++ ·) := by
  induction rest generalizing first with
  | nil => simp
  | cons next rest ih => simp [List.intercalate_cons_cons, ih]

end Lexemes

namespace Expression

variable (first : Phrase) (more : List Phrase) (excluded : List String)

def closedPhrases : List Phrase :=
  excluded.map (⟨·, false⟩)

theorem toList_render :
    (render ⟨first :: more, excluded⟩).toList =
      '(' :: (first.render.toList ++ (Operator.and.written more ++
        ')' :: Operator.not.written (closedPhrases excluded))) := by
  have hrequired :
      (" AND ".intercalate ((first :: more).map Phrase.render)).toList =
        first.render.toList ++ Operator.and.written more := by
    rw [String.toList_intercalate, List.map_map, List.map_cons, intercalate_cons_eq_flatMap,
      List.flatMap_map]
    rfl
  have hexcluded :
      (String.join (excluded.map fun term => " NOT " ++ quotePhrase term)).toList =
        Operator.not.written (closedPhrases excluded) := by
    rw [String.toList_join, List.flatMap_map, closedPhrases, Operator.written, List.flatMap_map]
    simp [Phrase.render, Operator.name]
  rw [render, String.toList_append, String.toList_append, String.toList_append, hrequired,
    hexcluded]
  simp

theorem lexemesFrom_render :
    lexemesFrom .between (render ⟨first :: more, excluded⟩).toList =
      some (.opening :: (first.lexemes ++ (Operator.and.lexemes more ++
        .closing :: Operator.not.lexemes (closedPhrases excluded)))) := by
  have hend : lexemesFrom .between (Operator.not.written (closedPhrases excluded)) =
      some (Operator.not.lexemes (closedPhrases excluded)) := by
    have hnothing : lexemesFrom .between [] = some [] := rfl
    have hall := lexemesFrom_written .not (closedPhrases excluded) (by simp [Breaks]) hnothing
    simpa using hall
  have hclosing : afresh ')' = some ([.closing], .between) := rfl
  have hopening : afresh '(' = some ([.opening], .between) := rfl
  have hclosed : Breaks (')' :: Operator.not.written (closedPhrases excluded)) :=
    breaks_cons (by decide) _
  have hmore := lexemesFrom_written .and more hclosed (lexemesFrom_cons hclosing hend)
  have hfirst := lexemesFrom_phrase first (breaks_written .and more hclosed) hmore
  rw [toList_render]
  exact lexemesFrom_cons hopening hfirst

end Expression

/-! ## From lexemes to symbols -/

def Operator.symbols (operator : Operator) (phrases : List Phrase) : List Symbol :=
  phrases.flatMap fun phrase => [.operator operator, .phrase phrase]

section Symbols

variable {rest : List Lexeme} {following : List Symbol}

theorem symbols_phrase (phrase : Phrase) (hstar : rest.head? ≠ some .star)
    (hrest : symbols rest = some following) :
    symbols (phrase.lexemes ++ rest) = some (.phrase phrase :: following) := by
  obtain ⟨text, opens⟩ := phrase
  cases opens with
  | true => simp [Phrase.lexemes, symbols, hrest]
  | false =>
      have hclosed : ∀ later, rest = .star :: later → False := by
        rintro later rfl
        exact hstar rfl
      simp [Phrase.lexemes, symbols, hrest]

theorem symbols_lexemes (operator : Operator) (phrases : List Phrase)
    (hstar : rest.head? ≠ some .star) (hrest : symbols rest = some following) :
    symbols (operator.lexemes phrases ++ rest) = some (operator.symbols phrases ++ following) ∧
      (operator.lexemes phrases ++ rest).head? ≠ some .star := by
  induction phrases with
  | nil => exact ⟨hrest, hstar⟩
  | cons phrase phrases ih =>
      have hphrase := symbols_phrase phrase ih.2 ih.1
      constructor
      · simpa [Operator.lexemes, Operator.symbols, symbols] using hphrase
      · simp [Operator.lexemes]

end Symbols

/-! ## From symbols to conditions -/

/-- A condition joined with one phrase after another. -/
def Operator.chain (operator : Operator) (condition : Condition) (phrases : List Phrase) :
    Condition :=
  phrases.foldl (fun condition phrase => operator.join condition (.phrase phrase)) condition

section Conditions

variable {binding : ℕ} {operand condition : Condition} {waiting : Waiting}

theorem settle_of_le {looser : ℕ} (hlooser : looser ≤ binding)
    (hsettled : settle binding operand waiting = (condition, [])) :
    settle looser operand waiting = (condition, []) := by
  induction waiting generalizing operand with
  | nil => exact hsettled
  | cons last waiting ih =>
      simp only [settle] at hsettled ⊢
      split at hsettled
      · rename_i hbinds
        rw [if_pos (Nat.le_trans hlooser hbinds)]
        exact ih hsettled
      · cases hsettled

/-- Phrases behind one operator join the condition that was read before them. -/
theorem foldlM_step_symbols (operator : Operator) (phrases : List Phrase) (outer : List Waiting)
    (hsettled : settle operator.binding operand waiting = (condition, [])) :
    ∃ last later,
      (operator.symbols phrases).foldlM Progress.step ⟨some operand, waiting, outer⟩ =
          some ⟨some last, later, outer⟩ ∧
        settle operator.binding last later = (operator.chain condition phrases, []) := by
  induction phrases generalizing operand waiting condition with
  | nil => exact ⟨operand, waiting, rfl, hsettled⟩
  | cons phrase phrases ih =>
      have hjoined : settle operator.binding (.phrase phrase) [(condition, operator)] =
          (operator.join condition (.phrase phrase), []) := by
        simp [settle]
      obtain ⟨last, later, hread, hlast⟩ := ih hjoined
      refine ⟨last, later, ?_, hlast⟩
      simpa [Operator.symbols, Progress.step, hsettled] using hread

end Conditions

namespace Condition

/-- The phrases that a condition asks for together. -/
def conjuncts : Condition → List Phrase
  | phrase asked => [asked]
  | either _ _ => []
  | both first second => first.conjuncts ++ second.conjuncts
  | except first _ => first.conjuncts

/-- The phrases that it excludes. -/
def exclusions : Condition → List Phrase
  | except first second => first.exclusions ++ second.conjuncts
  | _ => []

theorem conjuncts_chain_and (condition : Condition) (phrases : List Phrase) :
    (Operator.and.chain condition phrases).conjuncts = condition.conjuncts ++ phrases := by
  induction phrases generalizing condition with
  | nil => simp [Operator.chain]
  | cons phrase phrases ih =>
      have hjoined := ih (.both condition (.phrase phrase))
      rw [conjuncts, conjuncts, List.append_assoc] at hjoined
      exact hjoined

theorem conjuncts_chain_not (condition : Condition) (phrases : List Phrase) :
    (Operator.not.chain condition phrases).conjuncts = condition.conjuncts := by
  induction phrases generalizing condition with
  | nil => rfl
  | cons phrase phrases ih => exact ih (.except condition (.phrase phrase))

theorem exclusions_chain_not (condition : Condition) (phrases : List Phrase) :
    (Operator.not.chain condition phrases).exclusions = condition.exclusions ++ phrases := by
  induction phrases generalizing condition with
  | nil => simp [Operator.chain]
  | cons phrase phrases ih =>
      have hjoined := ih (.except condition (.phrase phrase))
      rw [exclusions, conjuncts, List.append_assoc] at hjoined
      exact hjoined

theorem exclusions_chain_and {condition : Condition} (hnone : condition.exclusions = [])
    (phrases : List Phrase) : (Operator.and.chain condition phrases).exclusions = [] := by
  induction phrases generalizing condition with
  | nil => exact hnone
  | cons phrase phrases ih =>
      have hjoined : (Condition.both condition (.phrase phrase)).exclusions = [] := rfl
      exact ih hjoined

end Condition

namespace Expression

variable (first : Phrase) (more : List Phrase) (excluded : List String)

/-- All phrases that are required, less the rows of each that is excluded. -/
def condition : Condition :=
  Operator.not.chain (Operator.and.chain (.phrase first) more) (closedPhrases excluded)

theorem symbols_render :
    (lexemesFrom .between (render ⟨first :: more, excluded⟩).toList).bind symbols =
      some (.opening :: .phrase first :: (Operator.and.symbols more ++
        .closing :: Operator.not.symbols (closedPhrases excluded))) := by
  have hend : symbols (Operator.not.lexemes (closedPhrases excluded)) =
      some (Operator.not.symbols (closedPhrases excluded)) := by
    have hnothing : symbols [] = some [] := rfl
    have hall := symbols_lexemes .not (closedPhrases excluded) (by simp) hnothing
    simpa using hall.1
  have hclosed : symbols (.closing :: Operator.not.lexemes (closedPhrases excluded)) =
      some (.closing :: Operator.not.symbols (closedPhrases excluded)) := by
    simp [symbols, hend]
  have hmore := symbols_lexemes .and more (by simp) hclosed
  rw [lexemesFrom_render, Option.bind_some, symbols, symbols_phrase first hmore.2 hmore.1]
  rfl

/-- A written expression is read as it was meant: what the parentheses hold is the first operand
of the exclusions. -/
theorem read_render :
    read (render ⟨first :: more, excluded⟩) = some (condition first more excluded) := by
  have hfirst : settle Operator.and.binding (.phrase first) [] = (.phrase first, []) := rfl
  obtain ⟨last, waiting, hinner, hlast⟩ := foldlM_step_symbols .and more [[]] hfirst
  have hclosed : Progress.step ⟨some last, waiting, [[]]⟩ .closing =
      some ⟨some (Operator.and.chain (.phrase first) more), [], []⟩ := by
    simp [Progress.step, settle_of_le (Nat.zero_le _) hlast]
  have hwhole : settle Operator.not.binding (Operator.and.chain (.phrase first) more) [] =
      (Operator.and.chain (.phrase first) more, []) := rfl
  obtain ⟨final, later, houter, hfinal⟩ :=
    foldlM_step_symbols .not (closedPhrases excluded) [] hwhole
  have hfinish :
      Progress.finish ⟨some final, later, []⟩ = some (condition first more excluded) := by
    simp [Progress.finish, settle_of_le (Nat.zero_le _) hfinal, condition]
  have hread :
      (Symbol.opening :: .phrase first :: (Operator.and.symbols more ++
          .closing :: Operator.not.symbols (closedPhrases excluded))).foldlM Progress.step
        ⟨none, [], []⟩ = some ⟨some final, later, []⟩ := by
    have hexclusions :
        (Symbol.closing :: Operator.not.symbols (closedPhrases excluded)).foldlM Progress.step
          ⟨some last, waiting, [[]]⟩ = some ⟨some final, later, []⟩ := by
      rw [List.foldlM_cons, hclosed]
      exact houter
    change (Operator.and.symbols more ++ _ :: _).foldlM Progress.step
      ⟨some (.phrase first), [], [[]]⟩ = _
    rw [List.foldlM_append, hinner]
    exact hexclusions
  rw [read, symbols_render]
  change (List.foldlM Progress.step _ _ >>= Progress.finish) = _
  rw [hread]
  exact hfinish

-- Without quotes the words of a term are operators.
example : read "a OR b AND \"c\"\"(\" * NOT (d OR e)" =
    some (.either (.phrase ⟨"a", false⟩) (.both (.phrase ⟨"b", false⟩)
      (.except (.phrase ⟨"c\"(", true⟩)
        (.either (.phrase ⟨"d", false⟩) (.phrase ⟨"e", false⟩))))) := by
  decide

/-! ## Expressions of queries -/

/-- The terms as phrases, each whole if its flag is there and set, and open if not. -/
def marked (terms : List String) (exact : List Bool) : List Phrase :=
  terms.mapIdx fun i term => ⟨term, exact[i]? ≠ some true⟩

theorem map_withExactness (terms : List String) (exact : List Bool) :
    (withExactness terms exact).map (fun term => (⟨term.1, !term.2⟩ : Phrase)) =
      marked terms exact := by
  apply List.ext_getElem
  · simp [withExactness, marked]
  · intro i hi hlast
    have hterm : i < terms.length := by simpa [marked] using hlast
    by_cases hflag : i < exact.length
    · simp [withExactness, marked, hflag]
    · have hpadded (hbound : i < (exact ++ List.replicate terms.length false).length) :
          (exact ++ List.replicate terms.length false)[i] = false := by
        rw [List.getElem_append_right (Nat.le_of_not_lt hflag), List.getElem_replicate]
      simp [withExactness, marked, hflag, hpadded]

theorem marked_inj {terms others : List String} {exact flags : List Bool} :
    marked terms exact = marked others flags ↔
      terms = others ∧
        ∀ i < terms.length, (exact[i]? = some true ↔ flags[i]? = some true) := by
  have htexts (terms : List String) (exact : List Bool) :
      (marked terms exact).map Phrase.text = terms := by
    apply List.ext_getElem <;> simp [marked]
  constructor
  · intro hsame
    have hterms : terms = others := by
      rw [← htexts terms exact, hsame, htexts]
    subst hterms
    refine ⟨rfl, fun i hi => ?_⟩
    have hphrase := congrArg (·[i]?) hsame
    simpa [marked, hi] using hphrase
  · rintro ⟨rfl, hflags⟩
    apply List.ext_getElem
    · simp [marked]
    · intro i hi hlast
      have hterm : i < terms.length := by simpa [marked] using hi
      simp [marked, hflags i hterm]

theorem ofQuery?_eq (query : Query) (exact : List Bool) :
    ofQuery? query exact =
      if query.general = [] then none
      else some ⟨marked query.general exact, query.negative⟩ := by
  simp only [ofQuery?, List.isEmpty_iff, map_withExactness]

theorem render_inj {second : Phrase} {others : List Phrase} {forbidden : List String}
    (hsame : render ⟨first :: more, excluded⟩ = render ⟨second :: others, forbidden⟩) :
    first :: more = second :: others ∧ excluded = forbidden := by
  have hread : condition first more excluded = condition second others forbidden := by
    apply Option.some.inj
    rw [← read_render, hsame, read_render]
  have hconjuncts := congrArg Condition.conjuncts hread
  have hexclusions := congrArg Condition.exclusions hread
  simp only [condition, Condition.conjuncts_chain_not, Condition.conjuncts_chain_and] at hconjuncts
  simp only [condition, Condition.exclusions_chain_not] at hexclusions
  rw [Condition.exclusions_chain_and rfl, Condition.exclusions_chain_and rfl] at hexclusions
  refine ⟨hconjuncts, ?_⟩
  exact List.map_injective_iff.2 (fun _ _ hphrase => congrArg Phrase.text hphrase) hexclusions

/-- No term of a query is read as an operator.  A query without general terms has no
written form.  That of any other is read as a chain of its general terms, each open if
its flag is missing or not set, less a chain of its negative terms; so two queries have
the same written form just if they agree in the terms, in the flags that a term has, and
in the negative terms. -/
theorem written_form_reads_back (query other : Query) (exact flags : List Bool) :
    ((ofQuery? query exact).map render = none ↔ query.general = []) ∧
      (query.general ≠ [] →
        ∃ text first more, (ofQuery? query exact).map render = some text ∧
          first :: more = marked query.general exact ∧
          read text = some (Operator.not.chain (Operator.and.chain (.phrase first) more)
            (closedPhrases query.negative)) ∧
          ((ofQuery? other flags).map render = some text ↔
            query.general = other.general ∧ query.negative = other.negative ∧
              ∀ i < query.general.length, (exact[i]? = some true ↔ flags[i]? = some true))) := by
  have hwritten {query : Query} (exact : List Bool) (hgeneral : query.general ≠ []) :
      ∃ first more, first :: more = marked query.general exact ∧
        (ofQuery? query exact).map render = some (render ⟨first :: more, query.negative⟩) := by
    obtain ⟨first, more, hmarked⟩ : ∃ first more, marked query.general exact = first :: more := by
      refine List.exists_cons_of_ne_nil fun hnone => hgeneral ?_
      simpa [marked] using hnone
    exact ⟨first, more, hmarked.symm, by simp [ofQuery?_eq, hgeneral, hmarked]⟩
  refine ⟨by simp [ofQuery?_eq], fun hgeneral => ?_⟩
  obtain ⟨first, more, hmarked, htext⟩ := hwritten exact hgeneral
  refine ⟨_, first, more, htext, hmarked, read_render first more query.negative, ?_, ?_⟩
  · intro hsame
    have hother : other.general ≠ [] := by
      intro hnone
      simp [ofQuery?_eq, hnone] at hsame
    obtain ⟨second, others, hothers, hform⟩ := hwritten flags hother
    rw [hform, Option.some.injEq] at hsame
    obtain ⟨hphrases, hnegative⟩ := render_inj _ _ _ hsame.symm
    rw [hmarked, hothers, marked_inj] at hphrases
    exact ⟨hphrases.1, hnegative, hphrases.2⟩
  · rintro ⟨hterms, hnegative, hflags⟩
    have hother : other.general ≠ [] := hterms ▸ hgeneral
    have hphrases : marked query.general exact = marked other.general flags :=
      marked_inj.2 ⟨hterms, hflags⟩
    rw [← htext]
    simp only [ofQuery?_eq, hgeneral, hother, if_false, hphrases, hnegative]

/-- Terms with quotes, parentheses, a star and the words of operators. -/
theorem written_form_reads_back_of_four_terms :
    let query : Query :=
      { general := ["say\"hi", ") NOT (", "AND"], negative := ["\" OR \"*"] }
    let written := "(\"say\"\"hi\" AND \") NOT (\"* AND \"AND\"*) NOT \"\"\" OR \"\"*\""
    query.general ≠ [] ∧ (ofQuery? query [true]).map render = some written ∧
      read written = some (.except
        (.both (.both (.phrase ⟨"say\"hi", false⟩) (.phrase ⟨") NOT (", true⟩))
          (.phrase ⟨"AND", true⟩))
        (.phrase ⟨"\" OR \"*", false⟩)) ∧
      ∃ text first more, (ofQuery? query [true]).map render = some text ∧
        first :: more = marked query.general [true] ∧
        read text = some (Operator.not.chain (Operator.and.chain (.phrase first) more)
          (closedPhrases query.negative)) ∧
        ((ofQuery? query [true, false, false, true]).map render = some text ↔
          query.general = query.general ∧ query.negative = query.negative ∧
            ∀ i < query.general.length,
              ([true][i]? = some true ↔ [true, false, false, true][i]? = some true)) := by
  intro query written
  have hgeneral : query.general ≠ [] := by decide
  exact ⟨hgeneral, by decide, by decide,
    (written_form_reads_back query query [true] [true, false, false, true]).2 hgeneral⟩

end Expression

end Gallery.TextIndex
