import Literate.Files.Path
import Literate.Info
import Literate.Language.Template
import Literate.Language.Words
import Literate.Settings.Basic

/-!
# Languages

How the source of a block is run: a command in which `{file}` stands for the file with the source,
the extension of that file, and a wrapper template.

* `Language.buildCommand` puts the file into the command.
* `Language.assemble` is the source that is run.
* `Registry` holds the languages by name; names do not depend on case.
-/

namespace Literate

open Text

/-- How to run the blocks of one language.  Model of `languages.Language`. -/
structure Language where
  name : Text
  command : List Text
  extension : Text
  template : Option Text
  deriving DecidableEq, Repr

/-- What stands for the file in a command.  Model of `languages.FILE_PLACEHOLDER`. -/
def filePlaceholder : Text := "\x7bfile\x7d".toList

namespace Language

/-- The command that runs a file; without a placeholder the file is the last argument.  Model of
`languages.Language.build_command`. -/
def buildCommand (l : Language) (file : Text) : List Text :=
  let parts := l.command.map (replace filePlaceholder file)
  if l.command.any (occursIn filePlaceholder) then parts else parts ++ [file]

/-- The source that is run.  Without a template the imports come before the body.  Model of
`languages.render_source`. -/
def assemble (l : Language) (body imports : Text) (args : List (Text × Text)) :
    Except ConfigurationError Text :=
  match l.template with
  | some (c :: t) =>
    let values : List (Text × TemplateValue) :=
      [("imports".toList, .text imports), ("body".toList, .text body),
       ("args".toList, .map (argMap args))]
    match Template.render (c :: t) values with
    | .error fault => .error (.template l.name fault)
    | .ok source => .ok source
  | _ =>
    if imports.isEmpty then .ok (body ++ ['\n']) else .ok (imports ++ ['\n'] ++ body ++ ['\n'])

/-- The wrapper of the language C.  Model of `languages.C_TEMPLATE`. -/
def cTemplate : Text :=
  ("#include <stdio.h>\n#include <stdlib.h>\n#include <string.h>\n\n\x7b\x7b imports \x7d\x7d\n\n" ++
    "int main(void) \x7b\n\x7b\x7b body | indent(4, true) \x7d\x7d\n    return 0;\n\x7d\n").toList

/-- The wrapper of the language Rust.  Model of `languages.RUST_TEMPLATE`. -/
def rustTemplate : Text :=
  ("\x7b\x7b imports \x7d\x7d\n\nfn main() \x7b\n\x7b\x7b body | indent(4, true) \x7d\x7d\n\x7d\n").toList

/-- A script that compiles its first argument and goes on as the program.  Model of
`languages.COMPILE_AND_RUN_C` and `languages.COMPILE_AND_RUN_RUST`. -/
def compileAndRun (compiler : String) : Text :=
  (compiler ++ " -o \"$0.bin\" \"$0\" && exec \"$0.bin\"").toList

/-- A language whose command is a program and the file. -/
def simple (name program extension : String) : Language :=
  ⟨name.toList, [program.toList, filePlaceholder], extension.toList, none⟩

/-- A language that is compiled first. -/
def compiled (name compiler extension : String) (template : Text) : Language :=
  ⟨name.toList, ["sh".toList, "-c".toList, compileAndRun compiler, filePlaceholder],
    extension.toList, some template⟩

/-- The languages known from the start; `python` is the interpreter's path.  Model of
`languages._builtin_languages`. -/
def builtin (python : String) : List Language :=
  [simple "python" python "py", simple "python3" python "py", simple "py" python "py",
   simple "sh" "sh" "sh", simple "shell" "sh" "sh", simple "bash" "bash" "sh",
   compiled "c" "cc" "c" cTemplate, compiled "rust" "rustc" "rs" rustTemplate,
   simple "javascript" "node" "js", simple "js" "node" "js", simple "node" "node" "js"]

end Language

/-- Languages by lower-case name.  Model of `languages.LanguageRegistry`. -/
structure Registry where
  languages : List (Text × Language)
  deriving DecidableEq, Repr

/-- Why a registry cannot be built. -/
inductive RegistryError
  | configuration (e : ConfigurationError)
  | words (e : WordsError)
  deriving DecidableEq, Repr

namespace Registry

/-- Sets a language, in place when its name is there already. -/
def setIn (key : Text) (l : Language) : List (Text × Language) → List (Text × Language)
  | [] => [(key, l)]
  | (k, m) :: rest => if k = key then (key, l) :: rest else (k, m) :: setIn key l rest

/-- Adds a language under its name.  Model of `languages.LanguageRegistry.register`. -/
def register (r : Registry) (l : Language) : Registry := ⟨setIn (lower l.name) l r.languages⟩

/-- The registry of some languages. -/
def ofList (ls : List Language) : Registry := ls.foldl register ⟨[]⟩

/-- The language of a name.  Model of `languages.LanguageRegistry.get`. -/
def get? (r : Registry) (name : Text) : Option Language := r.languages.lookup (lower name)

/-- The names in order.  Model of `languages.LanguageRegistry.names`. -/
def names (r : Registry) : List Text := (r.languages.map Prod.fst).mergeSort precedes

/-- The language that runs blocks with a language word: a registered one, or else the program of that
name, if `findProgram` finds one.  Model of `languages.LanguageRegistry.resolve`. -/
def resolve (r : Registry) (findProgram : Text → Option Text) (name : Text) : Option Language :=
  if name.isEmpty then none
  else
    match r.get? name with
    | some l => some l
    | none => (findProgram name).map fun path => ⟨name, [path, filePlaceholder], [], none⟩

/-- The command a configured value stands for. -/
def commandOf (name : Text) (base? : Option Language) : Option Value → Except RegistryError (List Text)
  | some (.text t) => (commandWords t).mapError .words
  | some v => .ok (v.texts?.getD [])
  | none =>
    match base? with
    | some base => .ok base.command
    | none => .error (.configuration (.missingCommand name))

/-- A text of a language's table, or the default. -/
def entryText (table : Table) (key : String) : Option Text := (table.lookup key.toList).bind Value.text?

/-- Changes a language, or adds one, by its configuration.  Model of the loop body of
`languages.LanguageRegistry.update_from_settings`. -/
def configure (r : Registry) (entry : LanguageEntry) : Except RegistryError Registry :=
  let base? := r.get? entry.name
  match commandOf entry.name base? (entry.table.lookup "command".toList) with
  | .error e => .error e
  | .ok command =>
    .ok (r.register
      { name := entry.name
        command
        extension := (entryText entry.table "extension").getD ((base?.map Language.extension).getD [])
        template := (entryText entry.table "template").or (base?.bind Language.template) })

/-- The registry changed by configurations, in order.  Model of
`languages.LanguageRegistry.update_from_settings`. -/
def configureAll (r : Registry) (entries : List LanguageEntry) : Except RegistryError Registry :=
  entries.foldlM configure r

end Registry

end Literate
