import Subscription.Catalog.Yaml
import Subscription.Expr.Json
import Subscription.Expr.Yaml
import Subscription.Filter
import Subscription.Json.Reader
import Subscription.Settings.Yaml

/-! Loading settings, catalogs and filters from files. -/

namespace Subscription

/-- The octets of every file that can be read, by its path. -/
abbrev Files := String → Option ByteArray

/-- Why a file gives nothing. -/
inductive LoadError where
  /-- There is no such file, or it holds no text. -/
  | unreadable
  /-- The text is not of the file's format. -/
  | malformed
  /-- The text is well-formed but asks for the impossible. -/
  | invalid (cause : SettingsError)
deriving DecidableEq

/-- The text of a file, in UTF-8. -/
def Files.text (files : Files) (path : String) : Except LoadError String :=
  match (files path).bind String.fromUTF8? with
  | some text => .ok text
  | none => .error .unreadable

/-- Settings of a text, which have to be of use. -/
def Settings.ofText (text : String) : Except LoadError Settings :=
  match ofYaml? text with
  | none => .error .malformed
  | some settings =>
    match settings.validate with
    | .ok () => .ok settings
    | .error cause => .error (.invalid cause)

def Settings.load (files : Files) (path : String) : Except LoadError Settings := do
  ofText (← files.text path)

def Catalog.load (files : Files) (path : String) : Except LoadError Catalog := do
  match ofYaml? (← files.text path) with
  | some catalog => return catalog
  | none => throw .malformed

/-- The extension of a path's last part, which a dot that only opens the part does not set off. -/
def extension? (path : String) : Option String :=
  let last := (path.toList.reverse.dropWhile (· = '/')).takeWhile (· ≠ '/')
  match last.dropWhile (· ≠ '.') with
  | '.' :: _ :: _ => some (String.ofList (last.takeWhile (· ≠ '.')).reverse)
  | _ => none

/-- The expression of a JSON text with at most 127 containers open, or `none` within for null. -/
def Expr.ofJsonText? (text : String) : Option (Option Expr) := do
  match ← Json.read? text with
  | .null => return none
  | j => some <$> ofJsonWithin? 127 j

/-- The expression of a text, in YAML where the path's extension says so and in JSON otherwise. -/
def Expr.ofText? (path text : String) : Option (Option Expr) :=
  if extension? path = some "yaml" ∨ extension? path = some "yml" then ofYaml? text
  else ofJsonText? text

/-- The filter of a file, lifted; a null expression is the empty filter. -/
def Filter.load (files : Files) (path : String) : Except LoadError Filter := do
  match Expr.ofText? path (← files.text path) with
  | none => throw .malformed
  | some none => return .empty
  | some (some e) => return .ofExpr e

end Subscription
