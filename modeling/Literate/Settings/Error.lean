import Literate.Files.Path
import Literate.Settings.Toml.Error
import Literate.Settings.Value

/-!
# Configuration errors

What can be wrong with a configuration, and how it is said.
-/

namespace Literate

open Text

/-- Why a wrapper template cannot be read. -/
inductive TemplateSyntaxError
  /-- An expression has no end. -/
  | unfinished
  /-- An expression is missing where something else stands. -/
  | noExpression (found : Text)
  /-- Something stands where an expression should end. -/
  | notEnded (found : Text)
  /-- Something that belongs nowhere. -/
  | unexpected (found : Text)
  /-- A comment has no end. -/
  | openComment
  | unknownFilter (name : Text)
  deriving DecidableEq, Repr

/-- The error as shown. -/
def TemplateSyntaxError.message : TemplateSyntaxError → String
  | unfinished => "unexpected end of template, expected 'end of print statement'."
  | noExpression found => "Expected an expression, got " ++ (quoted found).toStr
  | notEnded found => "expected token 'end of print statement', got " ++ (quoted found).toStr
  | unexpected found => "unexpected " ++ (quoted found).toStr
  | openComment => "Missing end of comment tag"
  | unknownFilter name => "No filter named " ++ (quoted name).toStr ++ "."

/-- What is wrong with a wrapper template. -/
inductive TemplateFault
  /-- The template cannot be read. -/
  | unreadable (e : TemplateSyntaxError)
  /-- A name without a value. -/
  | undefinedName (name : Text)
  /-- A value without an attribute; `kind` says what the value is. -/
  | noAttribute (kind name : Text)
  /-- A value without an element at a position. -/
  | noElement (kind : Text) (index : Int)
  deriving DecidableEq, Repr

/-- The fault as shown. -/
def TemplateFault.message : TemplateFault → String
  | unreadable e => e.message
  | undefinedName name => (quoted name).toStr ++ " is undefined"
  | noAttribute kind name => (quoted kind).toStr ++ " has no attribute " ++ (quoted name).toStr
  | noElement kind index => kind.toStr ++ " has no element " ++ (signedNumeral index).toStr

/-- What is wrong with a configuration.  A `source` is the file or variable at fault.  Model of
`errors.ConfigurationError`, by the places that raise it. -/
inductive ConfigurationError
  | unreadable (source : Text) (e : Toml.SyntaxError)
  | notTable (source : Text) (key : Text)
  | renderNotText (source : Text) (key : Text)
  | unknownKeys (source : Text) (language : Text) (keys : List Text)
  | badCommand (source : Text) (language : Text)
  | missingCommand (language : Text)
  | timeoutNotNumber (source : Text) (value : Text)
  | timeoutNegative (source : Text) (value : Text)
  | template (language : Text) (fault : TemplateFault)
  | invalidTheme (name : Text)
  | unknownTheme (name : Text)
  | unknownCodeTheme (name : Text)
  deriving DecidableEq, Repr

namespace ConfigurationError

/-- The names of the page themes.  Model of `theme_loader.list_available_themes`. -/
def pageThemes : List String := ["dark", "default", "paper"]

/-- The names of the code themes.  Model of `theme_loader.list_code_themes`. -/
def codeThemes : List String :=
  ["abap", "algol", "algol_nu", "arduino", "autumn", "borland", "bw", "coffee", "colorful", "default",
   "dracula", "emacs", "friendly", "friendly_grayscale", "fruity", "github-dark", "gruvbox-dark",
   "gruvbox-light", "igor", "inkpot", "lightbulb", "lilypond", "lovelace", "manni", "material",
   "monokai", "murphy", "native", "night-owl", "nord", "nord-darker", "one-dark", "paraiso-dark",
   "paraiso-light", "pastie", "perldoc", "rainbow_dash", "rrt", "sas", "solarized-dark",
   "solarized-light", "staroffice", "stata-dark", "stata-light", "tango", "trac", "vim", "vs",
   "xcode", "zenburn"]

/-- Names between brackets, each quoted. -/
def listed (names : List String) : String :=
  "[" ++ ", ".intercalate (names.map fun n => (quoted n.toList).toStr) ++ "]"

/-- The error as shown. -/
def message : ConfigurationError → String
  | unreadable source e => source.toStr ++ ": " ++ e.message
  | notTable source key => source.toStr ++ ": [" ++ key.toStr ++ "] must be a table"
  | renderNotText source key => source.toStr ++ ": render." ++ key.toStr ++ " must be a string"
  | unknownKeys source language keys =>
    source.toStr ++ ": unknown keys in [languages." ++ language.toStr ++ "]: "
      ++ (join ", ".toList keys).toStr
  | badCommand source language =>
    source.toStr ++ ": languages." ++ language.toStr
      ++ ".command must be a string or a list of strings"
  | missingCommand language =>
    "languages." ++ language.toStr ++ ": a new language needs a command"
  | timeoutNotNumber source value =>
    source.toStr ++ ": timeout must be a number of seconds, got " ++ value.toStr
  | timeoutNegative source value =>
    source.toStr ++ ": timeout must not be negative, got " ++ value.toStr
  | template language fault =>
    "Wrapper template for '" ++ language.toStr ++ "' failed: " ++ fault.message
  | invalidTheme name => "Invalid theme name: " ++ name.toStr
  | unknownTheme name =>
    "Theme '" ++ name.toStr ++ "' not found. Available themes: " ++ listed pageThemes
  | unknownCodeTheme name =>
    "Code theme '" ++ name.toStr ++ "' not found. Available code themes: " ++ listed codeThemes

end ConfigurationError

end Literate
