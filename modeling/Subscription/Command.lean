import Subscription.Command.Arguments
import Subscription.Load
import Subscription.Predicate.Json

/-! The command line: a filter is compiled against a catalog and printed.

On the error stream only the notices of the program itself are modelled. What it logs there besides
is left out, and so are the reasons that a reader gives for refusing a file. -/

namespace Subscription.Command

/-- What a run leaves behind. -/
structure Outcome where
  code : Nat
  stdout : String
  /-- The notice of the program, without the lines of its log. -/
  stderr : String
deriving DecidableEq

/-- A run that failed with a message. -/
def failed (message : String) : Outcome :=
  { code := 1, stdout := "", stderr := "error: " ++ message }

/-- A file that did not load. Only useless settings are explained; any other notice is cut where the
reader of the file would say what it met. -/
def loadFailed (what path : String) : LoadError → Outcome
  | .invalid cause =>
    failed ("failed to load " ++ what ++ " " ++ path ++ ": " ++ cause.message ++ "\n")
  | _ => failed ("failed to load " ++ what ++ " " ++ path)

/-- A filter that did not compile; the cause of a missing token is printed once more. -/
def compileFailed (e : CompileError) : Outcome :=
  match e with
  | .unresolvableLeaf _ _ cause => failed (e.message ++ ": " ++ cause.message ++ "\n")
  | _ => failed (e.message ++ "\n")

/-- A run that printed a line. -/
def printed (line : String) : Outcome :=
  { code := 0, stdout := line ++ "\n", stderr := "" }

/-- A filter in one of the two forms; the empty filter has no wire form to print, which a notice
says. -/
def report (form : OutputForm) (resolver : Resolver) (settings : Settings) (f : Filter) : Outcome :=
  match form with
  | .xml =>
    match f.toXml resolver settings with
    | .ok (some xml) => printed xml
    | .ok none => { code := 0, stdout := "", stderr := "<empty>\n" }
    | .error e => compileFailed e
  | .json =>
    match f.compile resolver settings with
    | .ok p => printed (p.toJson.write .indented)
    | .error e => compileFailed e

/-- The settings of a job, which are the standard ones unless it names a file. -/
def Job.loadSettings (job : Job) (files : Files) : Except Outcome Settings :=
  match job.settings with
  | none => .ok {}
  | some path => (Settings.load files path).mapError (loadFailed "config" path)

/-- A job's files are loaded in the order of settings, catalog and filter. -/
def Job.run (job : Job) (files : Files) : Outcome :=
  let attempt : Except Outcome Outcome := do
    let settings ← job.loadSettings files
    let catalog ← (Catalog.load files job.catalog).mapError (loadFailed "catalog" job.catalog)
    let f ← (Filter.load files job.filter).mapError (loadFailed "filter" job.filter)
    return report job.output catalog.resolver settings f
  match attempt with
  | .ok outcome | .error outcome => outcome

/-- The lines of the help, which show what the environment holds. -/
def helpLines (env : String → Option String) : List String :=
  let inherited (varName : String) : String :=
    " [env: " ++ varName ++ "=" ++ (env varName).getD "" ++ "]"
  ["Compile a subscription filter into an OR-of-AND predicate",
    "",
    "Usage: sift-compile [OPTIONS] --catalog <CATALOG> <FILTER>",
    "",
    "Arguments:",
    "  <FILTER>  Filter expression file (JSON, or YAML with a .yaml/.yml extension)",
    "",
    "Options:",
    "  -c, --catalog <CATALOG>  Attribute, schema and endpoint catalog (YAML)" ++
      inherited "SIFT_CATALOG",
    "      --config <CONFIG>    Compiler configuration (YAML)" ++ inherited "SIFT_CONFIG",
    "  -o, --output <OUTPUT>    Output format [default: xml] [possible values: xml, json]",
    "  -v, --verbose            Verbose output",
    "  -h, --help               Print help",
    "  -V, --version            Print version"]

/-- What arguments without a job leave behind; the notice about a fault in them is cut to a word. -/
def Stop.outcome (env : String → Option String) : Stop → Outcome
  | .usage => { code := 2, stdout := "", stderr := "usage" }
  | .help => { code := 0, stdout := String.join ((helpLines env).map (· ++ "\n")), stderr := "" }
  | .version => { code := 0, stdout := "sift-compile 0.1.0\n", stderr := "" }

/-- A whole run, from arguments, environment and files. To be verbose is to log more, which is no part
of the outcome. -/
def run (files : Files) (env : String → Option String) (args : List String) : Outcome :=
  match parse env args with
  | .ok job => job.run files
  | .error stop => stop.outcome env

end Subscription.Command
