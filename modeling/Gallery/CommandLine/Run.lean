import Gallery.CommandLine.Arguments
import Gallery.CommandLine.Report
import Gallery.Json.Parser
import Gallery.Record.Decode
import Gallery.Session
import Gallery.Workspace.Basic

/-!
# Running the command line

A run reads its arguments and the settings, opens the store, and carries out one
command with a catalog that has read nothing yet.  What the command changed is
kept where the store was opened.
-/

namespace Gallery.CommandLine

/-- How a run ends. -/
inductive Ending (α : Type)
  | reported (report : Report α)
  | help
  | misused
  | failed

namespace Ending

variable {α : Type}

/-- The exit status of the program. -/
def status : Ending α → Nat
  | reported _ | help => 0
  | failed => 1
  | misused => 2

def report? : Ending α → Option (Report α)
  | reported report => some report
  | _ => none

/-- A command without a report has failed. -/
def ofReport : Option (Report α) → Ending α
  | some report => reported report
  | none => failed

end Ending

structure Outcome (α : Type) where
  ending : Ending α
  workspace : Workspace

def settingsPath : String := ".env"

def records? (text : String) : Option (List ItemRecord) :=
  (Json.parse? text).bind (Json.listOf? ItemRecord.ofJson?)

variable {α : Type} [Scalar α]

/-- Adds records until one is refused. -/
def addAll (peer : Peer α) (store : Store) : List ItemRecord → Bool × Peer α × Store
  | [] => (true, peer, store)
  | record :: records =>
    let step := peer.step store (.add record)
    match step.answer with
    | .done => addAll step.peer step.store records
    | _ => (false, step.peer, step.store)

def statsOf (peer : Peer α) (store : Store) : Option (Report α) :=
  match (peer.step store .stats).answer with
  | .stats stats => some (.stats stats)
  | _ => none

/-- Stores the records of a file.  What was stored before a failure stays.  A
store that is only read takes no record. -/
def importRecords (peer : Peer α) (opened : Workspace.OpenStore) (text : String) :
    Option (Report α) × Store :=
  let store := opened.store
  match records? text with
  | none => (none, store)
  | some records =>
    if opened.isReadOnly && !records.isEmpty then (none, store)
    else
      match addAll peer store records with
      | (false, _, store) => (none, store)
      | (true, peer, store) =>
        let step := peer.step store .flush
        match step.answer with
        | .done => (statsOf step.peer step.store, step.store)
        | _ => (none, step.store)

/-- Carries out a command, and reports on it unless it fails. -/
def perform (workspace : Workspace) (peer : Peer α) (opened : Workspace.OpenStore) :
    Command → Option (Report α) × Store
  | .search words shuffle page perPage =>
    let (results, _) := peer.catalog.search opened.store (" ".intercalate words)
    (some (.search results page (shuffle && results.shuffleEligible)
      (results.page page perPage)), opened.store)
  | .related item limit =>
    (some (.related (peer.catalog.related opened.store item limit).1), opened.store)
  | .tag name =>
    let (names, catalog) := peer.catalog.names opened.store
    (some (.tag name (names.id? name) (catalog.weightFor opened.store name).1),
      opened.store)
  | .stats => (statsOf peer opened.store, opened.store)
  | .importFile path =>
    match workspace.text? path with
    | some text => importRecords peer opened text
    | none => (none, opened.store)

def runInvocation (workspace : Workspace) (config : Config) (command : Command) :
    Outcome α :=
  match workspace.openStore? config.databasePath with
  | none => ⟨.failed, workspace⟩
  | some opened =>
    let workspace := workspace.keep opened
    let (report, store) := perform workspace (Peer.fresh config 1000) opened command
    ⟨.ofReport report, workspace.keep { opened with store }⟩

/-- The settings of the workspace and of the process.  A store is no file of
settings. -/
def loadSettings (workspace : Workspace) (environment : List (String × String)) :
    Except ConfigError Config :=
  match workspace.file? (workspace.placeOf settingsPath) with
  | some (.store _) => .error .malformedLine
  | some (.text text) => Config.load (some text) environment
  | none => Config.load none environment

/-- The settings of a run, with the path of the store from the arguments if they
give one. -/
def settings (workspace : Workspace) (environment : List (String × String))
    (invocation : Invocation) : Except ConfigError Config := do
  let config ← loadSettings workspace environment
  match invocation.databasePath with
  | some databasePath => return { config with databasePath }
  | none => return config

/-- The places that a path comes by. -/
def placesOf (workspace : Workspace) (path : List UInt8) : List Place :=
  workspace.location.trail path

/-- The places that an invocation looks at: those on the way to its store and to
the text that it imports. -/
def visited (workspace : Workspace) (config : Config) (command : Command) : List Place :=
  let imported :=
    match command with
    | .importFile path => placesOf workspace (Path.ofString path)
    | _ => []
  match StoreAddress.ofString? config.databasePath with
  | some address => placesOf workspace address.path ++ imported
  | none => imported

/-- The places that a run looks at once it has read its settings. -/
def places (workspace : Workspace) (environment : List (String × String))
    (arguments : List String) : List Place :=
  match read arguments with
  | .error _ => []
  | .ok invocation =>
    match settings workspace environment invocation with
    | .error _ => []
    | .ok config => visited workspace config invocation.command

def run (workspace : Workspace) (environment : List (String × String))
    (arguments : List String) : Outcome α :=
  match read arguments with
  | .error .help => ⟨.help, workspace⟩
  | .error .usage => ⟨.misused, workspace⟩
  | .ok invocation =>
    match settings workspace environment invocation with
    | .error _ => ⟨.failed, workspace⟩
    | .ok config => runInvocation workspace config invocation.command

end Gallery.CommandLine
