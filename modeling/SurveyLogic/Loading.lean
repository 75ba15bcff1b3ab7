import SurveyLogic.Codec.Form
import SurveyLogic.Codec.Settings
import SurveyLogic.Yaml.Record

set_option autoImplicit false

namespace SurveyLogic

inductive FormError where
  | json (problem : Json.Problem)
  | yaml
  | defect (defect : Form.Defect)
deriving DecidableEq

def FormError.message? : FormError → Option Text
  | defect d => some d.message
  | _ => none

namespace Form

def checked (form : Form) : Except FormError Form := form.check.mapError .defect

def ofJsonText (t : Text) : Except FormError Form := do
  checked (← (Json.decodeText Form.decode t).mapError .json)

def ofYamlText (t : Text) : Except FormError Form :=
  match Form.ofYaml? t with
  | some form => checked form
  | none => .error .yaml

def ofText (t : Text) : Except FormError Form :=
  if t.trimStart.head? = some '{' then ofJsonText t else ofYamlText t

end Form

structure File where
  name : Text
  bytes : Option ByteArray

inductive SettingsError where
  | missingFile
  | notText
  | extension (name : Text)
  | content
deriving DecidableEq

def SettingsError.message? : SettingsError → Option Text
  | missingFile => some "I/O error: No such file or directory (os error 2)".toList
  | notText => some "I/O error: stream did not contain valid UTF-8".toList
  | extension name =>
    some ("Configuration error: Unsupported config file extension: ".toList ++ name)
  | content => none

namespace File

-- What follows the last point of the name, unless the point starts the name.
def extension? (file : File) : Option Text :=
  let back := file.name.reverse
  match back.dropWhile (· ≠ '.') with
  | _ :: _ :: _ =>
    if file.name = ['.', '.'] then none else some (back.takeWhile (· ≠ '.')).reverse
  | _ => none

def text (file : File) : Except SettingsError Text :=
  match file.bytes with
  | none => .error .missingFile
  | some bytes =>
    match String.fromUTF8? bytes with
    | some text => .ok text.toList
    | none => .error .notText

end File

namespace Settings

def ofJsonText (t : Text) : Except SettingsError Settings :=
  (Json.decodeText Settings.decode t).mapError fun _ => .content

def ofYamlText (t : Text) : Except SettingsError Settings :=
  match Settings.ofYaml? t with
  | some settings => .ok settings
  | none => .error .content

def ofFile (file : File) : Except SettingsError Settings := do
  let t ← file.text
  match file.extension? with
  | none => throw (.extension file.name)
  | some extension =>
    if extension = "json".toList then ofJsonText t
    else if extension = "yaml".toList ∨ extension = "yml".toList then ofYamlText t
    else throw (.extension file.name)

end Settings

end SurveyLogic
