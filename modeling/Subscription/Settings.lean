/-! Settings of the compiler: its two limits and the form of its output. -/

namespace Subscription

/-- Limits on a filter, and whether the wire form opens with a declaration. -/
structure Settings where
  /-- The most groups that a filter may expand to. -/
  maxGroups : Nat := 256
  /-- The most levels that an expression may have. -/
  maxDepth : Nat := 256
  /-- Whether the wire form says which version of XML it is. -/
  declaration : Bool := true
deriving DecidableEq

/-- Why settings are of no use. -/
inductive SettingsError where
  | noGroups
  | noDepth
deriving DecidableEq

def SettingsError.message : SettingsError → String
  | .noGroups => "max_groups must be at least 1"
  | .noDepth => "max_depth must be at least 1"

/-- A limit of zero would refuse every filter, so it is refused itself, groups before depth. -/
def Settings.validate (s : Settings) : Except SettingsError Unit :=
  if s.maxGroups = 0 then .error .noGroups
  else if s.maxDepth = 0 then .error .noDepth
  else .ok ()

end Subscription
