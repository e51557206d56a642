import Gallery.CommandLine.Run
import Gallery.Decimal.Shortest
import Gallery.Json.Printer
import Gallery.Store.Snapshot

/-!
# The command line

The program gathers its workspace from the directory that it runs in, carries
out its arguments, prints the report as JSON and keeps the store.  A store is
kept as a text file at its path.
-/

namespace Gallery.CommandLine

def usage : String :=
  "\n".intercalate [
    "usage: gallery [--db-path PATH] COMMAND",
    "",
    "commands:",
    "  search [--shuffle] [--page N] [--per-page N] QUERY...",
    "  related ITEM [--limit N]",
    "  tag NAME",
    "  stats",
    "  import PATH"]

/-- A score with the fewest digits that read back. -/
def scoreJson (x : Float) : Json :=
  match Double.ofFloat x with
  | .finite value => .number value.shortest
  | _ => .null

def readText? (path : String) : IO (Option String) := do
  try
    return some (← IO.FS.readFile path)
  catch _ => return none

/-- Every directory, and nothing else, has an entry for itself. -/
def isDirectory (path : String) : IO Bool := do
  try
    discard <| IO.FS.Handle.mk (path ++ "/.") .read
    return true
  catch _ => return false

/-- The variables of the process that bear on the settings. -/
def settingVariables : IO (List (String × String)) :=
  Config.keys.filterMapM fun key => do
    return (← IO.getEnv key).map (key, ·)

/-- What a file holds; one that holds no store holds a text. -/
def content (text : String) : Content :=
  match (Json.parse? text).bind Store.ofJson? with
  | some store => .store store
  | none => .text text

/-- The workspace with what stands at a place. -/
def look (workspace : Workspace) (place : Place) : IO Workspace := do
  if workspace.hasDirectory place then return workspace
  match place.toString? with
  | none => return workspace
  | some path =>
    if ← isDirectory path then
      return { workspace with directories := place :: workspace.directories }
    match ← readText? path with
    | some text => return workspace.put place (content text)
    | none => return workspace

def gather (environment : List (String × String)) (arguments : List String) :
    IO Workspace := do
  let path := (← IO.currentDir).toString
  let start : Workspace := { location := Place.resolve [] (Path.ofString path) }
  let workspace ← look start (start.placeOf settingsPath)
  (places workspace environment arguments).foldlM look workspace

def keepStores (workspace : Workspace) : IO Unit :=
  workspace.files.forM fun (place, content) =>
    match content, place.toString? with
    | .store store, some path => IO.FS.writeFile path store.toJson.render
    | _, _ => return

def carryOut (arguments : List String) : IO UInt32 := do
  let environment ← settingVariables
  let outcome : Outcome Float := run (← gather environment arguments) environment arguments
  match outcome.ending with
  | .reported report => IO.println (report.json scoreJson).pretty
  | .help => IO.println usage
  | .misused => IO.eprintln usage
  | .failed => IO.eprintln "gallery: the command failed"
  keepStores outcome.workspace
  return UInt32.ofNat outcome.ending.status

end Gallery.CommandLine

def main (arguments : List String) : IO UInt32 :=
  Gallery.CommandLine.carryOut arguments
