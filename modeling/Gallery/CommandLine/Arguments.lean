import Gallery.Config.Load
import Gallery.Item.Basic

/-!
# Arguments of the command line

Options of the program stand before the command, options of a command after it.
In a search every argument from the first word of the query on belongs to the
query.  Arguments that cannot be read are a usage error; a request for help or
for the version ends the program well.  Arguments are judged from left to right,
so that the first of these decides.
-/

namespace Gallery.CommandLine

inductive Command
  | search (words : List String) (shuffle : Bool) (page perPage : Nat)
  | related (item : ItemId) (limit : Nat)
  | tag (name : String)
  | stats
  | importFile (path : String)
  deriving DecidableEq

structure Invocation where
  databasePath : Option String
  command : Command
  deriving DecidableEq

/-- Why arguments name nothing to do. -/
inductive Refusal
  | help
  | usage
  deriving DecidableEq

abbrev Reading := Except Refusal

/-! ## Shapes -/

/-- What an argument looks like: two dashes alone, an option with a name and
perhaps a value behind an equals sign, an option with a letter and what is
attached to it, or anything else. -/
inductive Shape
  | separator
  | long (name : String) (value : Option String)
  | short (letter : Char) (attached : List Char)
  | plain
  deriving DecidableEq

def shape (argument : String) : Shape :=
  match argument.toList with
  | ['-', '-'] => .separator
  | '-' :: '-' :: text =>
    match Text.cutAt? '=' text with
    | some (name, value) => .long (String.ofList name) (some (String.ofList value))
    | none => .long (String.ofList text) none
  | '-' :: letter :: attached => .short letter attached
  | _ => .plain

/-- The value attached to a letter, with or without an equals sign.  Where nothing
is attached the value is the next argument. -/
def attachedValue? : List Char → Option String
  | [] => none
  | '=' :: value => some (String.ofList value)
  | value => some (String.ofList value)

/-- Sets an option that may be given once. -/
def setOnce {β : Type} (current : Option β) (value : Option β) : Reading (Option β) :=
  match current, value with
  | none, some value => .ok (some value)
  | _, _ => .error .usage

def wordOrUsage (text : String) : Reading Nat :=
  match Config.word? text with
  | some n => .ok n
  | none => .error .usage

/-- A whole number of 64 bits with its sign. -/
def signedWord? (text : String) : Option Int :=
  match text.toList with
  | '-' :: digits => (Config.unsignedDigits? digits).bind fun n =>
      if n ≤ signedWordBound then some (-(n : Int)) else none
  | '+' :: digits => (Config.unsignedDigits? digits).bind fun n =>
      if n < signedWordBound then some (n : Int) else none
  | digits => (Config.unsignedDigits? digits).bind fun n =>
      if n < signedWordBound then some (n : Int) else none

/-! ## Commands -/

/-- The two numbers that say which part of the results is shown. -/
inductive PageOption
  | page
  | perPage
  deriving DecidableEq

def PageOption.ofName? : String → Option PageOption
  | "page" => some .page
  | "per-page" => some .perPage
  | _ => none

structure SearchOptions where
  shuffle : Bool := false
  page : Option Nat := none
  perPage : Option Nat := none

namespace SearchOptions

def command (options : SearchOptions) (words : List String) : Reading Command :=
  if words = [] then .error .usage
  else .ok (.search words options.shuffle (options.page.getD 1) (options.perPage.getD 50))

def set (options : SearchOptions) (option : PageOption) (text : String) :
    Reading SearchOptions := do
  let n ← wordOrUsage text
  match option with
  | .page => return { options with page := ← setOnce options.page (some n) }
  | .perPage => return { options with perPage := ← setOnce options.perPage (some n) }

def setShuffle (options : SearchOptions) : Reading SearchOptions :=
  if options.shuffle then .error .usage else .ok { options with shuffle := true }

end SearchOptions

/-- Reads what follows `search`.  An option that is not known begins the query.
`awaited` is an option whose value comes next. -/
def readSearch (options : SearchOptions) (awaited : Option PageOption) :
    List String → Reading Command
  | [] => .error .usage
  | argument :: rest =>
    match awaited, shape argument with
    | some option, _ => do readSearch (← options.set option argument) none rest
    | none, .separator => options.command rest
    | none, .long "help" value => .error (if value.isNone then .help else .usage)
    | none, .long "shuffle" none => do readSearch (← options.setShuffle) none rest
    | none, .long "shuffle" (some _) => .error .usage
    | none, .long name value =>
      match PageOption.ofName? name, value with
      | some option, some value => do readSearch (← options.set option value) none rest
      | some option, none => readSearch options (some option) rest
      | none, _ => options.command (argument :: rest)
    | none, .short 'h' attached =>
      if attached.all (· = 'h') then .error .help else options.command (argument :: rest)
    | none, _ => options.command (argument :: rest)

/-- The one argument of a command and its limit, if it takes one. -/
structure Operands (β : Type) where
  operand : Option β := none
  limit : Option Nat := none

namespace Operands

variable {β : Type}

def add (accept : String → Reading β) (operands : Operands β) (argument : String) :
    Reading (Operands β) := do
  let value ← accept argument
  return { operands with operand := ← setOnce operands.operand (some value) }

def setLimit (operands : Operands β) (text : String) : Reading (Operands β) := do
  let n ← wordOrUsage text
  return { operands with limit := ← setOnce operands.limit (some n) }

def needed (operands : Operands β) : Reading β :=
  match operands.operand with
  | some value => .ok value
  | none => .error .usage

end Operands

/-- Whether an argument names the limit, and the value attached to it. -/
def limitOption? : Shape → Option (Option String)
  | .long "limit" value => some value
  | .short 'l' attached => some (attachedValue? attached)
  | _ => none

/-- Reads what follows a command with at most one argument, which `accept` judges.
`limited` says whether a limit may be given, and `awaited` whether its value comes
next. -/
def readOperands {β : Type} (accept : String → Reading β) (limited : Bool)
    (operands : Operands β) (awaited : Bool) : List String → Reading (Operands β)
  | [] => if awaited then .error .usage else .ok operands
  | argument :: rest =>
    if awaited then do
      readOperands accept limited (← operands.setLimit argument) false rest
    else
      match shape argument with
      | .plain => do
        readOperands accept limited (← operands.add accept argument) false rest
      | .separator => rest.foldlM (Operands.add accept) operands
      | .long "help" none | .short 'h' _ => .error .help
      | other =>
        match limited, limitOption? other with
        | true, some (some value) => do
          readOperands accept limited (← operands.setLimit value) false rest
        | true, some none => readOperands accept limited operands true rest
        | _, _ => .error .usage

def acceptItem (argument : String) : Reading ItemId :=
  match signedWord? argument with
  | some item => .ok item
  | none => .error .usage

def acceptPath (argument : String) : Reading String :=
  if argument = "" then .error .usage else .ok argument

def readRelated (arguments : List String) : Reading Command := do
  let operands ← readOperands acceptItem true {} false arguments
  return .related (← operands.needed) (operands.limit.getD 20)

def readTag (arguments : List String) : Reading Command := do
  return .tag (← (← readOperands pure false {} false arguments).needed)

def readStats (arguments : List String) : Reading Command := do
  let refuse : String → Reading Unit := fun _ => .error .usage
  discard <| readOperands refuse false {} false arguments
  return .stats

def readImport (arguments : List String) : Reading Command := do
  return .importFile (← (← readOperands acceptPath false {} false arguments).needed)

/-- Help on the program or on one command. -/
def readHelp : List String → Reading Command
  | [] => .error .help
  | [name] =>
    if ["search", "related", "tag", "stats", "import", "help"].contains name then .error .help
    else .error .usage
  | _ => .error .usage

def readCommand (name : String) (arguments : List String) : Reading Command :=
  match name with
  | "search" => readSearch {} none arguments
  | "related" => readRelated arguments
  | "tag" => readTag arguments
  | "stats" => readStats arguments
  | "import" => readImport arguments
  | "help" => readHelp arguments
  | _ => .error .usage

/-! ## The program -/

/-- Whether an argument names the path of the store, and the value attached to
it. -/
def pathOption? : Shape → Option (Option String)
  | .long "db-path" value => some value
  | .short 'd' attached => some (attachedValue? attached)
  | _ => none

def asksForHelp : Shape → Bool
  | .long "help" none | .long "version" none | .short 'h' _ | .short 'V' _ => true
  | _ => false

def setPath (current : Option String) (path : String) : Reading (Option String) := do
  setOnce current (some (← acceptPath path))

/-- Reads the options of the program and then its command.  A path that is an
argument of its own is judged no sooner than at the next option, or once the
command was read; until then `path` keeps how it will be judged.  `awaited` says
whether the path comes next. -/
def readFrom (path : Reading (Option String)) (awaited : Bool) :
    List String → Reading Invocation
  | [] => .error .usage
  | argument :: rest =>
    match awaited, shape argument with
    | true, .plain => readFrom (path.bind fun path => setPath path argument) false rest
    | true, _ => .error .usage
    | false, .plain => do
      let command ← readCommand argument rest
      return ⟨← path, command⟩
    | false, other => do
      let path ← path
      if asksForHelp other then throw .help
      match pathOption? other with
      | some (some value) => readFrom (.ok (← setPath path value)) false rest
      | some none => readFrom (.ok path) true rest
      | none => throw .usage

def read (arguments : List String) : Reading Invocation :=
  readFrom (.ok none) false arguments

end Gallery.CommandLine
