/-!
The settings of the program, and which of them are valid.
-/

set_option autoImplicit false

namespace TypeAtlas

/-- How models are extracted. -/
structure ExtractConfig where
  /-- Whether models list the members that they inherit. -/
  inheritedFields : Bool := false
  /-- Whether classes become models. -/
  includeClasses : Bool := true
  /-- How often a type is replaced by what it stands for. -/
  aliasDepthLimit : Nat := 32
deriving DecidableEq, Repr, Inhabited

/-- How files are watched. -/
structure WatchConfig where
  /-- The milliseconds within which changes belong together. -/
  debounceMs : Nat := 16
  /-- Whether directories in a watched directory are watched too. -/
  recursive : Bool := false
deriving DecidableEq, Repr, Inhabited

/-- How output is written. -/
structure OutputConfig where
  /-- Whether output is indented. -/
  pretty : Bool := true
deriving DecidableEq, Repr, Inhabited

/-- All settings. -/
structure Config where
  extract : ExtractConfig := {}
  watch : WatchConfig := {}
  output : OutputConfig := {}
deriving DecidableEq, Repr, Inhabited

/-- A setting with a value that it cannot have, and why. -/
structure InvalidOption where
  option : String
  reason : String
deriving DecidableEq, Repr

namespace Config

/-- The first setting that is not valid: both numbers have to be at least one. -/
def invalid? (config : Config) : Option InvalidOption :=
  if config.extract.aliasDepthLimit = 0 then
    some ⟨"extract.alias_depth_limit", "must be at least 1"⟩
  else if config.watch.debounceMs = 0 then some ⟨"watch.debounce_ms", "must be at least 1"⟩
  else none

end Config

end TypeAtlas
