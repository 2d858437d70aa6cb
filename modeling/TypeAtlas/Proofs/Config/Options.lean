import TypeAtlas.Config.Json
import TypeAtlas.Proofs.Json.Ignoring
import TypeAtlas.Proofs.Json.Values

/-!
# Settings that a text gives

The text of settings is an object with an object for each part of the settings. `Config.Options.In`
says which settings such a text gives, whatever order its members stand in and whatever other
members it has. The result of reading it should be these settings and the others as by default, once
both numbers are checked (`Config.Options.onto`, `Config.checked`).

The members of an object are read one after another. `Comes` is what holds of a setting on the way:
either it does not come any more, or it is still to come, once, and was not read yet. Every member
keeps this for every setting, so what was read in the end is what the text gives.
-/

set_option autoImplicit false

namespace TypeAtlas

open Json (IsBool IsNatural IsObject IsValue)
open Json.Reader (AcceptsEnded Blank)

/-! ### What a text gives -/

namespace Json

/-- What an object gives for a key: nothing if no member has this key, else the value whose text the
one member with this key has. -/
inductive Gives {α : Type} (writes : α → List Char → Prop) (key : String)
    (members : List (String × List Char)) : Option α → Prop
  | absent (h : ∀ member ∈ members, member.1 ≠ key) : Gives writes key members none
  | present {value : α} {text : List Char}
      (h : members.filter (fun member => member.1 = key) = [(key, text)]) (hw : writes value text) :
      Gives writes key members (some value)

/-- Nothing is given without a member. -/
theorem Gives.eq_none {α : Type} {writes : α → List Char → Prop} {key : String} {given : Option α}
    (h : Gives writes key [] given) : given = none := by
  cases h with
  | absent => rfl
  | present one => cases one

/-- The members with other keys have values of any kind. -/
def OthersAny (keys : List String) (members : List (String × List Char)) : Prop :=
  ∀ member ∈ members, member.1 ∉ keys → IsValue member.2

/-- With all keys among the expected ones, nothing is asked of other members. -/
theorem othersAny_keys (members : List (String × List Char)) :
    OthersAny (members.map Prod.fst) members :=
  fun _ mem other => absurd (List.mem_map_of_mem mem) other

/-- The first member has a value of some kind if its key is not expected. -/
theorem OthersAny.head {keys : List String} {key : String} {text : List Char}
    {members : List (String × List Char)} (h : OthersAny keys ((key, text) :: members))
    (other : key ∉ keys) : IsValue text :=
  h _ List.mem_cons_self other

/-- What is asked of the members with other keys is asked of those behind the first one. -/
theorem OthersAny.tail {keys : List String} {member : String × List Char}
    {members : List (String × List Char)} (h : OthersAny keys (member :: members)) :
    OthersAny keys members :=
  fun other mem => h other (List.mem_cons_of_mem _ mem)

end Json

open Json (Gives OthersAny)

namespace Config

/-- The settings that are given. -/
structure Options where
  inheritedFields : Option Bool := none
  includeClasses : Option Bool := none
  aliasDepthLimit : Option Nat := none
  debounceMs : Option Nat := none
  recursive : Option Bool := none
  pretty : Option Bool := none

namespace Options

variable (options : Options)

/-- Settings with the given ones in place of their own. -/
def onto (config : Config) : Config where
  extract.inheritedFields := options.inheritedFields.getD config.extract.inheritedFields
  extract.includeClasses := options.includeClasses.getD config.extract.includeClasses
  extract.aliasDepthLimit := options.aliasDepthLimit.getD config.extract.aliasDepthLimit
  watch.debounceMs := options.debounceMs.getD config.watch.debounceMs
  watch.recursive := options.recursive.getD config.watch.recursive
  output.pretty := options.pretty.getD config.output.pretty

/-- What is given for extraction. -/
structure InExtract (members : List (String × List Char)) : Prop where
  inheritedFields : Gives IsBool "inherited_fields" members options.inheritedFields
  includeClasses : Gives IsBool "include_classes" members options.includeClasses
  aliasDepthLimit : Gives IsNatural "alias_depth_limit" members options.aliasDepthLimit
  others : OthersAny ["inherited_fields", "include_classes", "alias_depth_limit"] members

/-- What is given for watching. -/
structure InWatch (members : List (String × List Char)) : Prop where
  debounceMs : Gives IsNatural "debounce_ms" members options.debounceMs
  recursive : Gives IsBool "recursive" members options.recursive
  others : OthersAny ["debounce_ms", "recursive"] members

/-- What is given for output. -/
structure InOutput (members : List (String × List Char)) : Prop where
  pretty : Gives IsBool "pretty" members options.pretty
  others : OthersAny ["pretty"] members

/-- What is given by all parts. A part that is not there is as good as one without members. -/
structure InParts (members : List (String × List Char)) : Prop where
  extract : ∃ parts, Gives IsObject "extract" members parts ∧ options.InExtract (parts.getD [])
  watch : ∃ parts, Gives IsObject "watch" members parts ∧ options.InWatch (parts.getD [])
  output : ∃ parts, Gives IsObject "output" members parts ∧ options.InOutput (parts.getD [])
  others : OthersAny ["extract", "watch", "output"] members

/-- The text is an object that gives these settings. -/
inductive In (text : String) : Prop
  | mk {before object after : List Char} {members : List (String × List Char)}
      (whole : text.toList = before ++ (object ++ after)) (hb : Blank before) (ha : Blank after)
      (isObject : IsObject members object) (parts : options.InParts members)

end Options

/-- Settings as they are if both numbers are at least one. -/
def checked (config : Config) : Except ConfigError Config :=
  if 1 ≤ config.extract.aliasDepthLimit ∧ 1 ≤ config.watch.debounceMs then .ok config
  else
    .error <| .invalidOption
      ⟨if config.extract.aliasDepthLimit = 0 then "extract.alias_depth_limit"
        else "watch.debounce_ms", "must be at least 1"⟩

end Config

/-! ### On the way through the members -/

namespace Json

/-- With the members still to come, what was read for a key becomes what is given in the end. -/
inductive Comes {α : Type} (reader : Reader α) (key : String)
    (members : List (String × List Char)) : Option α → Option α → Prop
  | done {value : Option α} (h : ∀ member ∈ members, member.1 ≠ key) :
      Comes reader key members value value
  | later {value : α} {text : List Char}
      (h : members.filter (fun member => member.1 = key) = [(key, text)])
      (reads : AcceptsEnded reader text value) : Comes reader key members none (some value)

/-- What the members give for a key is what will have been read for it, if the reader accepts each
text of its values. -/
theorem Gives.comes {α : Type} {writes : α → List Char → Prop} {key : String}
    {members : List (String × List Char)} {given : Option α} (h : Gives writes key members given)
    {reader : Reader α}
    (reads : ∀ value text, writes value text → AcceptsEnded reader text value) :
    Comes reader key members none given := by
  cases h with
  | absent never => exact .done never
  | present one written => exact .later one (reads _ _ written)

namespace Comes

variable {α : Type} {reader : Reader α} {key : String} {text : List Char}
  {members : List (String × List Char)} {now final : Option α}

/-- With no members to come, what was read is what is given. -/
theorem eq_of_nil (h : Comes reader key [] now final) : now = final := by
  cases h with
  | done => rfl
  | later one => cases one

/-- A member with another key changes nothing. -/
theorem skip {other : String} (h : Comes reader key ((other, text) :: members) now final)
    (differs : other ≠ key) : Comes reader key members now final := by
  cases h with
  | done never => exact .done (List.forall_mem_cons.mp never).2
  | later one reads =>
    rw [List.filter_cons_of_neg (by simpa using differs)] at one
    exact .later one reads

/-- The member with the key is read, and there is no other. -/
theorem once (h : Comes reader key ((key, text) :: members) now final) :
    ∃ value, (∀ gap, Blank gap →
        AcceptsEnded (Reader.once key now reader) (':' :: (gap ++ text)) value) ∧
      Comes reader key members (some value) final := by
  cases h with
  | done never => exact absurd rfl (never _ List.mem_cons_self)
  | @later value _ one reads =>
    rw [List.filter_cons_of_pos (by simp)] at one
    obtain ⟨⟨-, rfl⟩, never⟩ := List.cons.inj one
    refine ⟨value, fun gap blank => reads.once blank key, .done ?_⟩
    simpa using never

end Comes

end Json

end TypeAtlas
