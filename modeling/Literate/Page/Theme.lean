import Literate.Page.Sheets
import Literate.Settings.Error
import Literate.Text.Alnum

/-!
# Themes

The themes of pages and of code: which names there are, and the style sheet of a page theme.
-/

namespace Literate.Theme

open Text

/-- Whether a name is made of letters, digits, hyphens and underscores, with a letter or digit among
them.  Model of `theme_loader.validate_theme`. -/
def isValidName (name : Text) : Bool :=
  let core := name.filter fun c => !(c == '_' || c == '-')
  !core.isEmpty && core.all isAlnum

/-- The style sheet of a page theme.  Model of `theme_loader.get_css`. -/
def css (name : Text) : Except ConfigurationError Text :=
  if !isValidName name then .error (.invalidTheme name)
  else
    match sheets.find? (·.1.toList == name) with
    | none => .error (.unknownTheme name)
    | some (_, sheet) => .ok sheet.text.toList

/-- The name of a code theme, if there is such a theme.  Model of
`theme_loader.check_code_theme`. -/
def checkCode (name : Text) : Except ConfigurationError Text :=
  if ConfigurationError.codeThemes.any (·.toList == name) then .ok name
  else .error (.unknownCodeTheme name)

end Literate.Theme
