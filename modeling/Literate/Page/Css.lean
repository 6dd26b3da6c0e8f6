/-!
# Style sheets

Rules of style sheets and their text.  A block rule has a line for each declaration, an inline rule
has all on one line, a media rule holds inline rules.
-/

namespace Literate.Css

/-- A property with its value. -/
abbrev Declaration := String × String

/-- A rule of a style sheet. -/
inductive Rule
  | block (selector : String) (declarations : List Declaration)
  | inline (selector : String) (declarations : List Declaration)
  | media (query : String) (rules : List (String × List Declaration))

/-- One declaration. -/
def declarationText (d : Declaration) : String := d.1 ++ ": " ++ d.2 ++ ";"

/-- A rule on one line. -/
def inlineText (selector : String) (ds : List Declaration) : String :=
  selector ++ " \x7b " ++ " ".intercalate (ds.map declarationText) ++ " \x7d\n"

/-- The text of a rule. -/
def Rule.text : Rule → String
  | block selector ds =>
    selector ++ " \x7b\n" ++ String.join (ds.map fun d => "    " ++ declarationText d ++ "\n")
      ++ "\x7d\n"
  | inline selector ds => inlineText selector ds
  | media query rules =>
    "@media " ++ query ++ " \x7b\n"
      ++ String.join (rules.map fun (selector, ds) => "    " ++ inlineText selector ds) ++ "\x7d\n"

/-- The text of rules one below the other. -/
def rulesText (rules : List Rule) : String := String.join (rules.map Rule.text)

/-- A style sheet: a comment, and groups of rules with a blank line between groups. -/
structure Sheet where
  comment : String
  groups : List (List Rule)

/-- The text of a style sheet. -/
def Sheet.text (s : Sheet) : String :=
  "/* " ++ s.comment ++ " */\n" ++ "\n".intercalate (s.groups.map rulesText)

end Literate.Css
