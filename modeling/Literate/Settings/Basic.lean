import Literate.Files.FileTree
import Literate.Settings.Error
import Literate.Settings.Toml
import Literate.Text.Case
import Literate.Text.Utf8

/-!
# Settings

Settings come from three layers, later ones winning: defaults, the configuration file, and the
environment.

* `parseTimeout` turns a value into seconds; nothing, the empty text and zero mean no timeout.
* `Settings.load` reads all layers.
-/

namespace Literate

open Text

/-- The configuration of one language, as written. -/
structure LanguageEntry where
  name : Text
  table : Table

/-- The settings in effect.  Model of `config.Settings`. -/
structure Settings where
  configDir : FilePath
  tempDir : FilePath
  timeout : Option Double
  theme : Text
  codeTheme : Text
  languages : List LanguageEntry

/-- Why there are no settings. -/
inductive SettingsError
  | configuration (e : ConfigurationError)
  /-- An integer that is no double. -/
  | numberTooLarge
  | numeral (e : NumeralError)
  | encoding (e : Utf8Error)
  | file (e : OsError)
  | path (e : PathError)
  deriving DecidableEq, Repr

/-- What an operation finds around it: the working directory, the environment, home directories. -/
structure Surroundings where
  cwd : Location
  environment : List (Text × Text)
  homes : Homes

namespace Surroundings

/-- The value of an environment variable. -/
def env? (s : Surroundings) (name : String) : Option Text := s.environment.lookup name.toList

/-- The value of an environment variable that is set and not empty. -/
def nonEmpty? (s : Surroundings) (name : String) : Option Text :=
  match s.env? name with
  | some [] => none
  | v => v

end Surroundings

/-! ## Timeouts -/

/-- The number a value stands for; texts are read, truth values count as one and zero. -/
def secondsOf (source : Text) (v : Value) : Except SettingsError Double :=
  let notNumber : SettingsError :=
    if v.isWritable then .configuration (.timeoutNotNumber source v.shown) else .numeral .writing
  match v with
  | .bool b => .ok (Double.ofInt (if b then 1 else 0))
  | .int n => if (Double.ofInt n).isInfinite then .error .numberTooLarge else .ok (Double.ofInt n)
  | .float x => .ok x
  | .text t =>
    match Double.ofText? t with
    | some x => .ok x
    | none => .error notNumber
  | _ => .error notNumber

/-- The seconds of a timeout setting; `none` is no timeout.  Model of `config.parse_timeout`. -/
def parseTimeout (source : Text) (v : Value) : Except SettingsError (Option Double) :=
  match v with
  | .missing => .ok none
  | .text [] => .ok none
  | _ =>
    match secondsOf source v with
    | .error e => .error e
    | .ok x =>
      if x.isNegative then .error (.configuration (.timeoutNegative source v.shown))
      else .ok (if x.isZero then none else some x)

namespace Settings

/-! ## Locations -/

/-- The path in a variable with its home directory, or the path given. -/
def pathFrom (s : Surroundings) (name : String) (default : Except PathError FilePath) :
    Except PathError FilePath :=
  match s.nonEmpty? name with
  | some value => (FilePath.ofText value).expandUser s.homes
  | none => default

/-- The configuration directory.  Model of `config.default_config_dir`. -/
def configDirOf (s : Surroundings) : Except PathError FilePath :=
  pathFrom s "LITDOC_CONFIG_DIR" ((FilePath.ofText "~/.config/litdoc".toList).expandUser s.homes)

/-- The directory of scratch files.  Model of `config.default_temp_dir`. -/
def tempDirOf (s : Surroundings) : Except PathError FilePath :=
  pathFrom s "LITDOC_TEMP_DIR" (.ok (FilePath.ofText "/tmp/litdoc".toList))

/-- The configuration file.  Model of `config.Settings.config_file`. -/
def configFile (s : Settings) : FilePath := s.configDir.append (FilePath.ofText "config.toml".toList)

/-! ## The configuration file -/

/-- The table under a key; a missing one is empty.  Model of `config._table`. -/
def tableAt (source : Text) (data : Table) (key : String) : Except ConfigurationError Table :=
  match data.lookup key.toList with
  | none => .ok []
  | some (.table t) => .ok t
  | some _ => .error (.notTable source key.toList)

/-- A text under a key of the rendering table, or the default. -/
def renderText (source : Text) (render : Table) (key : String) (default : Text) :
    Except ConfigurationError Text :=
  match render.lookup key.toList with
  | none => .ok default
  | some (.text t) => .ok t
  | some _ => .error (.renderNotText source key.toList)

/-- The keys a language may have.  Model of `config.LANGUAGE_KEYS`. -/
def languageKeys : List String := ["command", "extension", "template"]

/-- Whether a value can be a command: a text or an array of texts. -/
def isCommand (v : Value) : Bool := v.text?.isSome || v.texts?.isSome

/-- Checks the table of one language.  Model of the loop body of `config._check_languages`. -/
def checkLanguage (source : Text) (name : Text) (v : Value) : Except ConfigurationError Table :=
  match v with
  | .table table =>
    let unknown := (table.map Prod.fst).filter fun k => !languageKeys.any (·.toList == k)
    if !unknown.isEmpty then .error (.unknownKeys source name (unknown.mergeSort precedes))
    else if ((table.lookup "command".toList).map isCommand).getD true then .ok table
    else .error (.badCommand source name)
  | _ => .error (.notTable source ("languages.".toList ++ name))

/-- Sets the entry of a language, in place when it is there already. -/
def setLanguage (entry : LanguageEntry) : List LanguageEntry → List LanguageEntry
  | [] => [entry]
  | e :: rest => if e.name = entry.name then entry :: rest else e :: setLanguage entry rest

/-- Checks the tables of all languages; names are in lower case.  Model of
`config._check_languages`. -/
def checkLanguages (source : Text) (found : List LanguageEntry) :
    Table → Except ConfigurationError (List LanguageEntry)
  | [] => .ok found
  | (name, v) :: rest =>
    match checkLanguage source name v with
    | .error e => .error e
    | .ok table => checkLanguages source (setLanguage ⟨lower name, table⟩ found) rest

/-- The timeout of the execution table, or the default. -/
def timeoutAt (source : Text) (execution : Table) (default : Option Double) :
    Except SettingsError (Option Double) :=
  match execution.lookup "timeout".toList with
  | none => .ok default
  | some v => parseTimeout source v

/-- The languages of a configuration file, or the default. -/
def languagesAt (source : Text) (data : Table) (default : List LanguageEntry) :
    Except ConfigurationError (List LanguageEntry) :=
  match data.lookup "languages".toList with
  | none => .ok default
  | some (.table t) => checkLanguages source [] t
  | some _ => .error (.notTable source "languages".toList)

/-- The settings changed by a configuration file. -/
def withFile (s : Settings) (source : Text) (data : Table) : Except SettingsError Settings := do
  let configured {α : Type} (x : Except ConfigurationError α) : Except SettingsError α :=
    x.mapError .configuration
  let execution ← configured (tableAt source data "execution")
  let timeout ← timeoutAt source execution s.timeout
  let render ← configured (tableAt source data "render")
  let theme ← configured (renderText source render "theme" s.theme)
  let codeTheme ← configured (renderText source render "code_theme" s.codeTheme)
  let languages ← configured (languagesAt source data s.languages)
  pure { s with timeout, theme, codeTheme, languages }

/-- The settings changed by the text of a configuration file.  Model of `config._read_toml` and of
what `config.load_settings` does with its answer. -/
def withText (s : Settings) (source text : Text) : Except SettingsError Settings :=
  match Toml.parse text with
  | .error (.malformed e) => .error (.configuration (.unreadable source e))
  | .error (.numeral e) => .error (.numeral e)
  | .ok data => s.withFile source data

/-- Reads and applies the configuration file, if there is one. -/
def readFile (s : Settings) (around : Surroundings) (tree : FileTree) :
    Except SettingsError Settings := do
  if ← (tree.isFile around.cwd s.configFile).mapError .file then
    let bytes ← (tree.read around.cwd s.configFile).mapError .file
    let text ← (Utf8.decode bytes).mapError .encoding
    s.withText s.configFile.toText text
  else pure s

/-! ## All layers -/

/-- The settings when nothing is configured. -/
def defaults (configDir tempDir : FilePath) : Settings :=
  { configDir, tempDir, timeout := none, theme := "default".toList, codeTheme := "default".toList
    languages := [] }

/-- The settings changed by the environment. -/
def withEnvironment (s : Settings) (around : Surroundings) : Except SettingsError Settings :=
  match around.env? "LITDOC_TIMEOUT" with
  | none => .ok s
  | some value => do
    let timeout ← parseTimeout "LITDOC_TIMEOUT".toList (.text value)
    pure { s with timeout }

/-- The settings in effect.  Model of `config.load_settings`. -/
def load (around : Surroundings) (tree : FileTree) : Except SettingsError Settings := do
  let configDir ← (configDirOf around).mapError .path
  let tempDir ← (tempDirOf around).mapError .path
  let s ← (defaults configDir tempDir).readFile around tree
  s.withEnvironment around

end Settings

end Literate
