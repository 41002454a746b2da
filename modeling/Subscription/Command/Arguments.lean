/-! Arguments of the command line, read from left to right up to the first fault. -/

namespace Subscription.Command

/-- The form in which a compiled filter is printed. -/
inductive OutputForm where
  | xml
  | json
deriving DecidableEq

def OutputForm.ofWord? : String → Option OutputForm
  | "xml" => some .xml
  | "json" => some .json
  | _ => none

/-- What there is to do: a filter to compile against a catalog. -/
structure Job where
  filter : String
  catalog : String
  settings : Option String
  output : OutputForm
deriving DecidableEq

/-- Why arguments give no job. -/
inductive Stop where
  | usage
  | help
  | version
deriving DecidableEq

/-- An option that takes a value. -/
inductive ValueOption where
  | catalog
  | settings
  | output
deriving DecidableEq

/-- The arguments read so far. -/
structure Given where
  filter : Option String := none
  catalog : Option String := none
  settings : Option String := none
  output : Option OutputForm := none
  verbose : Bool := false

namespace Given

/-- A value put where none has been. -/
def fill {α : Type} (old : Option α) (new : Option α) : Except Stop (Option α) :=
  match old, new with
  | none, some x => .ok (some x)
  | _, _ => .error .usage

/-- A path, which is not empty. -/
def path? (s : String) : Option String :=
  if s.isEmpty then none else some s

/-- An argument outside of options, of which there is one. -/
def setFilter (g : Given) (arg : String) : Except Stop Given := do
  return { g with filter := ← fill g.filter (path? arg) }

/-- The value of an option, which is given once. -/
def setOption (g : Given) (o : ValueOption) (arg : String) : Except Stop Given := do
  match o with
  | .catalog => return { g with catalog := ← fill g.catalog (path? arg) }
  | .settings => return { g with settings := ← fill g.settings (path? arg) }
  | .output => return { g with output := ← fill g.output (OutputForm.ofWord? arg) }

def setVerbose (g : Given) : Except Stop Given :=
  if g.verbose then .error .usage else .ok { g with verbose := true }

/-- The job of all arguments, in which the environment stands in for options that are missing. -/
def job (g : Given) (env : String → Option String) : Except Stop Job := do
  let inherited (given : Option String) (varName : String) : Except Stop (Option String) :=
    match given, env varName with
    | some path, _ => .ok (some path)
    | none, none => .ok none
    | none, some path => fill none (path? path)
  let catalog ← inherited g.catalog "SIFT_CATALOG"
  let settings ← inherited g.settings "SIFT_CONFIG"
  match g.filter, catalog with
  | some filter, some catalog => return { filter, catalog, settings, output := g.output.getD .xml }
  | _, _ => throw .usage

end Given

/-- Arguments up to an option that still waits for its value, if one does. -/
abbrev Waiting := Given × Option ValueOption

/-- An option with the value attached to it, or the wait for its value in the next argument. -/
def Given.awaitOption (g : Given) (o : ValueOption) : Option String → Except Stop Waiting
  | some value => do return (← g.setOption o value, none)
  | none => .ok (g, some o)

/-- The value attached to a letter, without the sign that may set it off. -/
def attached? : List Char → Option String
  | [] => none
  | '=' :: rest => some (String.ofList rest)
  | cs => some (String.ofList cs)

/-- Options of one letter behind a single dash; one that takes a value takes what is left, and one
that asks for the help or the version ends the reading. -/
def letters (g : Given) : List Char → Except Stop Waiting
  | [] => .ok (g, none)
  | 'h' :: _ => .error .help
  | 'V' :: _ => .error .version
  | 'v' :: rest => do letters (← g.setVerbose) rest
  | 'c' :: rest => g.awaitOption .catalog (attached? rest)
  | 'o' :: rest => g.awaitOption .output (attached? rest)
  | _ => .error .usage

/-- An option by its whole name, with the value attached to it, if any. -/
def word (g : Given) (name : String) (value : Option String) : Except Stop Waiting :=
  match name, value with
  | "help", none => .error .help
  | "version", none => .error .version
  | "verbose", none => do return (← g.setVerbose, none)
  | "catalog", value => g.awaitOption .catalog value
  | "config", value => g.awaitOption .settings value
  | "output", value => g.awaitOption .output value
  | _, _ => .error .usage

/-- Whether an argument is taken as it is; a lone dash is. -/
def isPlain (arg : String) : Bool :=
  arg = "-" || arg.toList.head? ≠ some '-'

/-- Arguments in order; behind a double dash all are plain. -/
def read : Waiting → List String → Except Stop Given
  | (g, none), [] => .ok g
  | (_, some _), [] => .error .usage
  | (g, some o), arg :: rest => do
    if isPlain arg then read (← g.setOption o arg, none) rest else throw .usage
  | (g, none), arg :: rest =>
    if isPlain arg then do read (← g.setFilter arg, none) rest
    else match arg.toList with
      | ['-', '-'] => rest.foldlM Given.setFilter g
      | '-' :: '-' :: cs => do
        let name := cs.takeWhile (· ≠ '=')
        let value := match cs.drop name.length with
          | '=' :: value => some (String.ofList value)
          | _ => none
        read (← word g (String.ofList name) value) rest
      | cs => do read (← letters g (cs.drop 1)) rest

/-- The job of a list of arguments and an environment. -/
def parse (env : String → Option String) (args : List String) : Except Stop Job := do
  (← read ({}, none) args).job env

end Subscription.Command
