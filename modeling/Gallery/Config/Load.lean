import Gallery.Config.Basic
import Gallery.Config.Dotenv
import Gallery.Text.Lowercase
import Gallery.Word

/-!
# Loading and saving settings

Settings start from defaults.  A file of settings is applied entry by entry, and
then the variables of the process.  A key that is not known, or a value that is
of no use, changes nothing.
-/

namespace Gallery

open Text

inductive ConfigError
  | cannotOpen
  | malformedLine
  deriving DecidableEq

def ConfigError.message : ConfigError → String
  | .cannotOpen => "Failed to open"
  | .malformedLine => "Malformed line in"

namespace Config

def databasePathKey : String := "CATALOG_DB_PATH"

def similarityKey : String := "CATALOG_SIMILARITY"

def rarityKey : String := "CATALOG_IDF"

def subcategoriesKey : String := "CATALOG_EXTENDED_CATEGORIES"

def relatedCapacityKey : String := "CATALOG_RELATED_CACHE"

/-- The keys in the order in which the variables of the process are applied. -/
def keys : List String :=
  [databasePathKey, similarityKey, rarityKey, subcategoriesKey, relatedCapacityKey]

def switch? (value : String) : Option Bool :=
  match lower value with
  | "1" | "true" | "yes" | "on" => some true
  | "0" | "false" | "no" | "off" => some false
  | _ => none

def unsignedDigits? (text : List Char) : Option Nat :=
  if text ≠ [] ∧ text.all Char.isDigit then
    some (text.foldl (fun value c => 10 * value + (c.toNat - '0'.toNat)) 0)
  else none

/-- A whole number that fits a word of the machine; a plus sign may lead it. -/
def word? (text : String) : Option Nat :=
  let digits :=
    match text.toList with
    | '+' :: digits => digits
    | digits => digits
  (unsignedDigits? digits).bind fun n => if n < wordBound then some n else none

def positiveWord? (text : String) : Option Nat :=
  (word? text).bind fun n => if n = 0 then none else some n

/-- The settings with one changed; none if the value is of no use. -/
def update? (config : Config) (key value : String) : Option Config :=
  let value := trim value
  if key = databasePathKey then
    if value = "" then none else some { config with databasePath := value }
  else if key = similarityKey then
    (Policy.ofName? value).map fun similarity => { config with similarity }
  else if key = rarityKey then
    (Rarity.ofName? value).map fun rarity => { config with rarity }
  else if key = subcategoriesKey then
    (switch? value).map fun useSubcategories => { config with useSubcategories }
  else if key = relatedCapacityKey then
    (positiveWord? value).map fun relatedCapacity => { config with relatedCapacity }
  else none

def update (config : Config) (entry : String × String) : Config :=
  (config.update? entry.1 entry.2).getD config

def updateAll (config : Config) (entries : List (String × String)) : Config :=
  entries.foldl update config

/-- The settings of a file on top of the defaults, where a reader gives the entries of
its text. -/
def ofFileBy (read : String → Option (List (String × String))) (text : Option String) :
    Except ConfigError Config :=
  match text with
  | none => .error .cannotOpen
  | some text =>
    match read text with
    | some entries => .ok (updateAll {} entries)
    | none => .error .malformedLine

def ofFile (text : Option String) : Except ConfigError Config :=
  ofFileBy Dotenv.entries? text

def processVariable? (environment : List (String × String)) (key : String) :
    Option (String × String) :=
  environment.find? (·.1 = key)

/-- Defaults, then a file of settings if there is one, then the environment of the
process. -/
def loadBy (read : String → Option (List (String × String))) (file : Option String)
    (environment : List (String × String)) : Except ConfigError Config := do
  let config ← if file.isSome then ofFileBy read file else pure {}
  return config.updateAll (keys.filterMap (processVariable? environment))

def load (file : Option String) (environment : List (String × String)) :
    Except ConfigError Config :=
  loadBy Dotenv.entries? file environment

/-- A written switch. -/
def switchText (value : Bool) : String :=
  if value then "true" else "false"

def settingLine (key value : String) : String :=
  key ++ "=" ++ value ++ "\n"

/-- The settings as a file of settings. -/
def save (config : Config) : String :=
  settingLine databasePathKey config.databasePath ++
    settingLine similarityKey config.similarity.name ++
    settingLine rarityKey config.rarity.name ++
    settingLine subcategoriesKey (switchText config.useSubcategories) ++
    settingLine relatedCapacityKey (toString config.relatedCapacity)

/-- Whether the saved settings are read back as they were. -/
def readsBack (config : Config) : Bool :=
  match ofFile (some config.save) with
  | .ok loaded => loaded = config
  | .error _ => false

end Config

end Gallery
