import TypeAtlas.Config.Basic
import TypeAtlas.Files.Fault
import TypeAtlas.Json.Reader

/-!
Settings as JSON, and settings read from it.

Each part of the settings and each setting may be left out, and then is as by default. Other members
are passed over.
-/

set_option autoImplicit false

namespace TypeAtlas

open Json (Reader)
open Json.Reader (bool colon ignore members natural nextItem once record)

/-- Passes over the value of a member, after its key. -/
def ignored {σ : Type} (state : σ) : Reader σ := do
  colon
  ignore
  return state

namespace ExtractConfig

def toJson (config : ExtractConfig) : Json :=
  .object [("inherited_fields", .bool config.inheritedFields),
    ("include_classes", .bool config.includeClasses),
    ("alias_depth_limit", .number config.aliasDepthLimit)]

/-- The settings that are given. -/
structure Given where
  inheritedFields : Option Bool := none
  includeClasses : Option Bool := none
  aliasDepthLimit : Option Nat := none

/-- The given settings, the others as by default. -/
def ofGiven (given : Given) : ExtractConfig :=
  let standard : ExtractConfig := {}
  ⟨given.inheritedFields.getD standard.inheritedFields,
    given.includeClasses.getD standard.includeClasses,
    given.aliasDepthLimit.getD standard.aliasDepthLimit⟩

/-- Reads the value of a member, after its key. -/
def readMember (key : String) (given : Given) : Reader Given := do
  if key = "inherited_fields" then
    return { given with inheritedFields := some (← once key given.inheritedFields bool) }
  else if key = "include_classes" then
    return { given with includeClasses := some (← once key given.includeClasses bool) }
  else if key = "alias_depth_limit" then
    return { given with
      aliasDepthLimit := some (← once key given.aliasDepthLimit (natural "usize")) }
  else ignored given

def read (depth : Nat) : Reader ExtractConfig :=
  record "struct ExtractConfig" depth
    (fun _ => ofGiven <$> members readMember {})
    (fun _ => do
      let inheritedFields ← nextItem true bool
      let includeClasses ← nextItem inheritedFields.isNone bool
      let aliasDepthLimit ← nextItem includeClasses.isNone (natural "usize")
      return ofGiven { inheritedFields, includeClasses, aliasDepthLimit })

end ExtractConfig

namespace WatchConfig

def toJson (config : WatchConfig) : Json :=
  .object [("debounce_ms", .number config.debounceMs), ("recursive", .bool config.recursive)]

/-- The settings that are given. -/
structure Given where
  debounceMs : Option Nat := none
  recursive : Option Bool := none

/-- The given settings, the others as by default. -/
def ofGiven (given : Given) : WatchConfig :=
  let standard : WatchConfig := {}
  ⟨given.debounceMs.getD standard.debounceMs, given.recursive.getD standard.recursive⟩

/-- Reads the value of a member, after its key. -/
def readMember (key : String) (given : Given) : Reader Given := do
  if key = "debounce_ms" then
    return { given with debounceMs := some (← once key given.debounceMs (natural "u64")) }
  else if key = "recursive" then
    return { given with recursive := some (← once key given.recursive bool) }
  else ignored given

def read (depth : Nat) : Reader WatchConfig :=
  record "struct WatchConfig" depth
    (fun _ => ofGiven <$> members readMember {})
    (fun _ => do
      let debounceMs ← nextItem true (natural "u64")
      let recursive ← nextItem debounceMs.isNone bool
      return ofGiven { debounceMs, recursive })

end WatchConfig

namespace OutputConfig

def toJson (config : OutputConfig) : Json := .object [("pretty", .bool config.pretty)]

/-- The given setting, or else the one by default. -/
def ofGiven (pretty : Option Bool) : OutputConfig :=
  let standard : OutputConfig := {}
  ⟨pretty.getD standard.pretty⟩

/-- Reads the value of a member, after its key. -/
def readMember (key : String) (pretty : Option Bool) : Reader (Option Bool) := do
  if key = "pretty" then return some (← once key pretty bool) else ignored pretty

def read (depth : Nat) : Reader OutputConfig :=
  record "struct OutputConfig" depth
    (fun _ => ofGiven <$> members readMember none)
    (fun _ => do return ofGiven (← nextItem true bool))

end OutputConfig

namespace Config

def toJson (config : Config) : Json :=
  .object [("extract", config.extract.toJson), ("watch", config.watch.toJson),
    ("output", config.output.toJson)]

/-- The parts of the settings that are given. -/
structure Given where
  extract : Option ExtractConfig := none
  watch : Option WatchConfig := none
  output : Option OutputConfig := none

/-- The given parts, the others as by default. -/
def ofGiven (given : Given) : Config :=
  ⟨given.extract.getD {}, given.watch.getD {}, given.output.getD {}⟩

/-- Reads the value of a member, after its key. -/
def readMember (depth : Nat) (key : String) (given : Given) : Reader Given := do
  if key = "extract" then
    return { given with extract := some (← once key given.extract (ExtractConfig.read depth)) }
  else if key = "watch" then
    return { given with watch := some (← once key given.watch (WatchConfig.read depth)) }
  else if key = "output" then
    return { given with output := some (← once key given.output (OutputConfig.read depth)) }
  else ignored given

def read (depth : Nat) : Reader Config :=
  record "struct Config" depth
    (fun depth => ofGiven <$> members (readMember depth) {})
    (fun depth => do
      let extract ← nextItem true (ExtractConfig.read depth)
      let watch ← nextItem extract.isNone (WatchConfig.read depth)
      let output ← nextItem watch.isNone (OutputConfig.read depth)
      return ofGiven { extract, watch, output })

end Config

/-- Why there are no settings. -/
inductive ConfigError where
  /-- There is no file of this name. -/
  | missingFile (path : String)
  | invalidOption (invalid : InvalidOption)
  /-- The file cannot be read. -/
  | io (fault : Files.Fault)
  | parse (error : Json.ReadError)

/-- The wording of an error. -/
def ConfigError.message : ConfigError → String
  | .missingFile path => "configuration file not found: " ++ path
  | .invalidOption invalid =>
    "invalid configuration option '" ++ invalid.option ++ "': " ++ invalid.reason
  | .io fault => "failed to read configuration: " ++ fault.message
  | .parse error => "failed to parse configuration: " ++ error.message

/-- The wording of what an error comes from. -/
def ConfigError.cause? : ConfigError → Option String
  | .missingFile _ | .invalidOption _ => none
  | .io fault => some fault.message
  | .parse error => some error.message

/-- Reads the text of settings and checks them. -/
def Config.ofText (text : String) : Except ConfigError Config :=
  match (Config.read Json.Reader.depthLimit).run text with
  | .error error => .error (.parse error)
  | .ok config =>
    match config.invalid? with
    | some invalid => .error (.invalidOption invalid)
    | none => .ok config

/-- Reads the settings in a file, given what reading it yields. -/
def Config.ofFile (path : String) : Except Files.Fault String → Except ConfigError Config
  | .ok text => Config.ofText text
  | .error .notFound | .error .notDirectory | .error .tooLong => .error (.missingFile path)
  | .error fault => .error (.io fault)

end TypeAtlas
