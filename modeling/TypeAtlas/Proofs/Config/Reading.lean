import TypeAtlas.Proofs.Config.Options

/-!
# Settings are read as they are given

For each part of the settings, `Awaits` relates what was read of it to the members still to come,
and `Awaits.step` says that each member keeps this: a setting is read, leaving the others alone, and
any other member is passed over. So a part is read as the settings it gives, the others as by
default (`accepts_read`), and the same argument once more, with parts in place of settings, gives
the whole. The text of settings is one that gives all of them.

Main statement: `Config.ofText_eq_checked`.
-/

set_option autoImplicit false

namespace TypeAtlas

open Json (Comes Gives IsBool IsNatural IsObject IsValue OthersAny Spacing othersAny_keys)
open Json.Reader (AcceptsEnded Blank Reads)

/-! ### Values -/

/-- The reader of truth values accepts both texts of one. -/
theorem Json.IsBool.accepts {value : Bool} {text : List Char} (h : IsBool value text) :
    AcceptsEnded Json.Reader.bool text value := by
  subst h
  exact (Json.accepts_bool .compact 0 value).ended

/-- The reader of numbers accepts each text of a number in range, whatever it calls the wanted
type. -/
theorem Json.IsNatural.accepts {n : Nat} {text : List Char} (h : IsNatural n text)
    (wanted : String) : AcceptsEnded (Json.Reader.natural wanted) text n := by
  obtain ⟨fits, rfl⟩ := h
  rw [Nat.toString_eq_repr, Nat.toList_repr]
  exact Json.Reader.acceptsEnded_natural wanted fits

/-- Where an unknown member comes, what was read before stays. -/
theorem accepts_ignored {σ : Type} {text gap : List Char} (h : IsValue text) (blank : Blank gap)
    (state : σ) : AcceptsEnded (ignored state) (':' :: (gap ++ text)) state :=
  ((Json.Reader.acceptsEnded_ignore h).map fun _ => state).afterColon blank

/-- An object is read as the state that its members lead to. -/
theorem accepts_members {σ α : Type} {wanted : String} {member : Nat → String → σ → Json.Reader σ}
    {items : Nat → Json.Reader α} {result : σ → α} {depth : Nat}
    {invariant : σ → List (String × List Char) → Prop}
    (step : ∀ state key value others, invariant state ((key, value) :: others) →
      ∃ next, (∀ gap, Blank gap →
          AcceptsEnded (member (depth + 1) key state) (':' :: (gap ++ value)) next) ∧
        invariant next others)
    {start final : σ} (done : ∀ last, invariant last [] → last = final)
    {members : List (String × List Char)} (holds : invariant start members) {text : List Char}
    (isObject : IsObject members text) :
    AcceptsEnded (Json.Reader.record wanted (depth + 2)
      (fun depth => result <$> Json.Reader.members (member depth) start) items)
      text (result final) := by
  obtain ⟨separated, written⟩ := isObject
  obtain ⟨last, follows, ends⟩ := Json.Reader.follows_of_invariant step written holds
  obtain rfl := done last ends
  exact (Json.Reader.accepts_record depth fun text =>
    (Reads.members separated follows text).map result).ended

/-! ### Extraction -/

namespace ExtractConfig

/-- What was read becomes what is given. -/
structure Awaits (final given : Given) (members : List (String × List Char)) : Prop where
  inheritedFields : Comes Json.Reader.bool "inherited_fields" members given.inheritedFields
    final.inheritedFields
  includeClasses : Comes Json.Reader.bool "include_classes" members given.includeClasses
    final.includeClasses
  aliasDepthLimit : Comes (Json.Reader.natural "usize") "alias_depth_limit" members
    given.aliasDepthLimit final.aliasDepthLimit
  others : OthersAny ["inherited_fields", "include_classes", "alias_depth_limit"] members

variable {final given : Given} {key : String} {value : List Char}
  {members : List (String × List Char)}

/-- One member of the part for extraction is read, and what is given is still awaited from the
others. -/
theorem Awaits.step (h : Awaits final given ((key, value) :: members)) :
    ∃ next, (∀ gap, Blank gap →
        AcceptsEnded (readMember key given) (':' :: (gap ++ value)) next) ∧
      Awaits final next members := by
  unfold readMember
  split_ifs with inherited classes limit
  · subst inherited
    obtain ⟨value, reads, done⟩ := h.inheritedFields.once
    exact ⟨{ given with inheritedFields := some value }, fun gap blank => (reads gap blank).map _,
      done, h.includeClasses.skip (by decide), h.aliasDepthLimit.skip (by decide), h.others.tail⟩
  · subst classes
    obtain ⟨value, reads, done⟩ := h.includeClasses.once
    exact ⟨{ given with includeClasses := some value }, fun gap blank => (reads gap blank).map _,
      h.inheritedFields.skip (by decide), done, h.aliasDepthLimit.skip (by decide), h.others.tail⟩
  · subst limit
    obtain ⟨value, reads, done⟩ := h.aliasDepthLimit.once
    exact ⟨{ given with aliasDepthLimit := some value }, fun gap blank => (reads gap blank).map _,
      h.inheritedFields.skip (by decide), h.includeClasses.skip (by decide), done, h.others.tail⟩
  · have isValue := h.others.head (by simp [inherited, classes, limit])
    exact ⟨given, fun gap blank => accepts_ignored isValue blank given,
      h.inheritedFields.skip inherited, h.includeClasses.skip classes,
      h.aliasDepthLimit.skip limit, h.others.tail⟩

/-- With no members to come, all that is given for extraction was read. -/
theorem Awaits.eq (h : Awaits final given []) : given = final := by
  obtain ⟨inheritedFields, includeClasses, aliasDepthLimit⟩ := given
  obtain rfl := h.inheritedFields.eq_of_nil
  obtain rfl := h.includeClasses.eq_of_nil
  obtain rfl := h.aliasDepthLimit.eq_of_nil
  rfl

/-- An object that gives some of the settings of extraction is read as the defaults with these in
their place. -/
theorem accepts_read {options : Config.Options} {members : List (String × List Char)}
    {text : List Char} (isObject : IsObject members text) (h : options.InExtract members)
    (depth : Nat) : AcceptsEnded (read (depth + 2)) text (options.onto {}).extract := by
  have start : Awaits
      ⟨options.inheritedFields, options.includeClasses, options.aliasDepthLimit⟩ {} members :=
    ⟨h.inheritedFields.comes fun _ _ => IsBool.accepts,
      h.includeClasses.comes fun _ _ => IsBool.accepts,
      h.aliasDepthLimit.comes fun _ _ written => written.accepts "usize", h.others⟩
  exact accepts_members (fun _ _ _ _ => Awaits.step) (fun _ => Awaits.eq) start isObject

end ExtractConfig

/-! ### Watching -/

namespace WatchConfig

/-- What was read becomes what is given. -/
structure Awaits (final given : Given) (members : List (String × List Char)) : Prop where
  debounceMs : Comes (Json.Reader.natural "u64") "debounce_ms" members given.debounceMs
    final.debounceMs
  recursive : Comes Json.Reader.bool "recursive" members given.recursive final.recursive
  others : OthersAny ["debounce_ms", "recursive"] members

variable {final given : Given} {key : String} {value : List Char}
  {members : List (String × List Char)}

/-- One member of the part for watching is read, and what is given is still awaited from the
others. -/
theorem Awaits.step (h : Awaits final given ((key, value) :: members)) :
    ∃ next, (∀ gap, Blank gap →
        AcceptsEnded (readMember key given) (':' :: (gap ++ value)) next) ∧
      Awaits final next members := by
  unfold readMember
  split_ifs with debounce recursive
  · subst debounce
    obtain ⟨value, reads, done⟩ := h.debounceMs.once
    exact ⟨{ given with debounceMs := some value }, fun gap blank => (reads gap blank).map _,
      done, h.recursive.skip (by decide), h.others.tail⟩
  · subst recursive
    obtain ⟨value, reads, done⟩ := h.recursive.once
    exact ⟨{ given with recursive := some value }, fun gap blank => (reads gap blank).map _,
      h.debounceMs.skip (by decide), done, h.others.tail⟩
  · have isValue := h.others.head (by simp [debounce, recursive])
    exact ⟨given, fun gap blank => accepts_ignored isValue blank given,
      h.debounceMs.skip debounce, h.recursive.skip recursive, h.others.tail⟩

/-- With no members to come, all that is given for watching was read. -/
theorem Awaits.eq (h : Awaits final given []) : given = final := by
  obtain ⟨debounceMs, recursive⟩ := given
  obtain rfl := h.debounceMs.eq_of_nil
  obtain rfl := h.recursive.eq_of_nil
  rfl

/-- An object that gives some of the settings of watching is read as the defaults with these in
their place. -/
theorem accepts_read {options : Config.Options} {members : List (String × List Char)}
    {text : List Char} (isObject : IsObject members text) (h : options.InWatch members)
    (depth : Nat) : AcceptsEnded (read (depth + 2)) text (options.onto {}).watch := by
  have start : Awaits ⟨options.debounceMs, options.recursive⟩ {} members :=
    ⟨h.debounceMs.comes fun _ _ written => written.accepts "u64",
      h.recursive.comes fun _ _ => IsBool.accepts, h.others⟩
  exact accepts_members (fun _ _ _ _ => Awaits.step) (fun _ => Awaits.eq) start isObject

end WatchConfig

/-! ### Output -/

namespace OutputConfig

/-- What was read becomes what is given. -/
structure Awaits (final given : Option Bool) (members : List (String × List Char)) : Prop where
  pretty : Comes Json.Reader.bool "pretty" members given final
  others : OthersAny ["pretty"] members

/-- One member of the part for output is read, and what is given is still awaited from the
others. -/
theorem Awaits.step {final given : Option Bool} {key : String} {value : List Char}
    {members : List (String × List Char)} (h : Awaits final given ((key, value) :: members)) :
    ∃ next, (∀ gap, Blank gap →
        AcceptsEnded (readMember key given) (':' :: (gap ++ value)) next) ∧
      Awaits final next members := by
  unfold readMember
  split_ifs with pretty
  · subst pretty
    obtain ⟨value, reads, done⟩ := h.pretty.once
    exact ⟨some value, fun gap blank => (reads gap blank).map _, done, h.others.tail⟩
  · have isValue := h.others.head (by simp [pretty])
    exact ⟨given, fun gap blank => accepts_ignored isValue blank given, h.pretty.skip pretty,
      h.others.tail⟩

/-- An object that gives the setting of output, or nothing, is read as the default with this in its
place. -/
theorem accepts_read {options : Config.Options} {members : List (String × List Char)}
    {text : List Char} (isObject : IsObject members text) (h : options.InOutput members)
    (depth : Nat) : AcceptsEnded (read (depth + 2)) text (options.onto {}).output := by
  have start : Awaits options.pretty none members :=
    ⟨h.pretty.comes fun _ _ => IsBool.accepts, h.others⟩
  exact accepts_members (fun _ _ _ _ => Awaits.step) (fun _ h => h.pretty.eq_of_nil) start isObject

end OutputConfig

/-! ### All settings -/

namespace Config

/-- What was read becomes what is given. -/
structure Awaits (depth : Nat) (final given : Given) (members : List (String × List Char)) :
    Prop where
  extract : Comes (ExtractConfig.read depth) "extract" members given.extract final.extract
  watch : Comes (WatchConfig.read depth) "watch" members given.watch final.watch
  output : Comes (OutputConfig.read depth) "output" members given.output final.output
  others : OthersAny ["extract", "watch", "output"] members

variable {depth : Nat} {final given : Given} {key : String} {value : List Char}
  {members : List (String × List Char)}

/-- One part of the configuration is read, and what is given is still awaited from the others. -/
theorem Awaits.step (h : Awaits depth final given ((key, value) :: members)) :
    ∃ next, (∀ gap, Blank gap →
        AcceptsEnded (readMember depth key given) (':' :: (gap ++ value)) next) ∧
      Awaits depth final next members := by
  unfold readMember
  split_ifs with extract watch output
  · subst extract
    obtain ⟨part, reads, done⟩ := h.extract.once
    exact ⟨{ given with extract := some part }, fun gap blank => (reads gap blank).map _,
      done, h.watch.skip (by decide), h.output.skip (by decide), h.others.tail⟩
  · subst watch
    obtain ⟨part, reads, done⟩ := h.watch.once
    exact ⟨{ given with watch := some part }, fun gap blank => (reads gap blank).map _,
      h.extract.skip (by decide), done, h.output.skip (by decide), h.others.tail⟩
  · subst output
    obtain ⟨part, reads, done⟩ := h.output.once
    exact ⟨{ given with output := some part }, fun gap blank => (reads gap blank).map _,
      h.extract.skip (by decide), h.watch.skip (by decide), done, h.others.tail⟩
  · have isValue := h.others.head (by simp [extract, watch, output])
    exact ⟨given, fun gap blank => accepts_ignored isValue blank given, h.extract.skip extract,
      h.watch.skip watch, h.output.skip output, h.others.tail⟩

/-- With no parts to come, all that is given was read. -/
theorem Awaits.eq (h : Awaits depth final given []) : given = final := by
  obtain ⟨extract, watch, output⟩ := given
  obtain rfl := h.extract.eq_of_nil
  obtain rfl := h.watch.eq_of_nil
  obtain rfl := h.output.eq_of_nil
  rfl

section absent

variable {options : Options}

/-- Without a part, its settings are as by default. -/
theorem Options.InExtract.onto_nil (h : options.InExtract []) : (options.onto {}).extract = {} := by
  simp only [onto, h.inheritedFields.eq_none, h.includeClasses.eq_none, h.aliasDepthLimit.eq_none,
    Option.getD_none]

/-- No members give nothing for watching, so all defaults stay. -/
theorem Options.InWatch.onto_nil (h : options.InWatch []) : (options.onto {}).watch = {} := by
  simp only [onto, h.debounceMs.eq_none, h.recursive.eq_none, Option.getD_none]

/-- No members give nothing for output, so the default stays. -/
theorem Options.InOutput.onto_nil (h : options.InOutput []) : (options.onto {}).output = {} := by
  simp only [onto, h.pretty.eq_none, Option.getD_none]

end absent

/-- A part that is there is read as its settings, and one that is not there as those by default. -/
theorem comes_part {α : Type} {reader : Json.Reader α} {key : String}
    {InPart : List (String × List Char) → Prop} {part default : α}
    (h : ∃ parts, Gives IsObject key members parts ∧ InPart (parts.getD []))
    (accepts : ∀ {parts text}, IsObject parts text → InPart parts → AcceptsEnded reader text part)
    (absent : InPart [] → part = default) :
    ∃ given, Comes reader key members none given ∧ given.getD default = part := by
  obtain ⟨parts, gives, inPart⟩ := h
  cases gives with
  | absent never => exact ⟨none, .done never, (absent inPart).symm⟩
  | present one isObject => exact ⟨some part, .later one (accepts isObject inPart), rfl⟩

/-- An object whose parts give some of the settings is read as the defaults with these in their
place, whatever else it has. -/
theorem accepts_read {options : Options} {text : List Char} (isObject : IsObject members text)
    (h : options.InParts members) (depth : Nat) :
    AcceptsEnded (read (depth + 4)) text (options.onto {}) := by
  obtain ⟨extract, comesExtract, isExtract⟩ := comes_part h.extract
    (fun isObject inExtract => ExtractConfig.accepts_read isObject inExtract (depth + 1))
    Options.InExtract.onto_nil
  obtain ⟨watch, comesWatch, isWatch⟩ := comes_part h.watch
    (fun isObject inWatch => WatchConfig.accepts_read isObject inWatch (depth + 1))
    Options.InWatch.onto_nil
  obtain ⟨output, comesOutput, isOutput⟩ := comes_part h.output
    (fun isObject inOutput => OutputConfig.accepts_read isObject inOutput (depth + 1))
    Options.InOutput.onto_nil
  have start : Awaits (depth + 3) ⟨extract, watch, output⟩ {} members :=
    ⟨comesExtract, comesWatch, comesOutput, h.others⟩
  have whole : ofGiven ⟨extract, watch, output⟩ = options.onto {} := by
    rw [ofGiven, isExtract, isWatch, isOutput]
  rw [← whole]
  exact accepts_members (fun _ _ _ _ => Awaits.step) (fun _ => Awaits.eq) start isObject

/-- Settings are invalid if one of the numbers is zero. -/
theorem checked_eq (config : Config) :
    (match config.invalid? with
      | some invalid => .error (.invalidOption invalid)
      | none => .ok config) = config.checked := by
  unfold invalid? checked
  by_cases limit : config.extract.aliasDepthLimit = 0
  · rw [if_pos limit, if_neg (by omega), if_pos limit]
  · by_cases debounce : config.watch.debounceMs = 0
    · rw [if_neg limit, if_pos debounce, if_neg (by omega), if_neg limit]
    · rw [if_neg limit, if_neg debounce, if_pos (by omega)]

/-! ### Written settings -/

/-- All settings are given. -/
def Options.all (config : Config) : Options where
  inheritedFields := config.extract.inheritedFields
  includeClasses := config.extract.includeClasses
  aliasDepthLimit := config.extract.aliasDepthLimit
  debounceMs := config.watch.debounceMs
  recursive := config.watch.recursive
  pretty := config.output.pretty

/-- The text of settings gives all of them. -/
theorem in_print (pretty : Bool) (config : Config)
    (limit : config.extract.aliasDepthLimit < UInt64.size)
    (debounce : config.watch.debounceMs < UInt64.size) :
    (Options.all config).In (config.toJson.print pretty) := by
  let spacing : Spacing := if pretty then .indented else .compact
  have part := Json.isObject_spelled spacing 1
  have whole := (Json.toList_print pretty config.toJson).trans (List.append_nil _).symm
  refine .mk whole Json.Reader.blank_nil Json.Reader.blank_nil
    (Json.isObject_spelled spacing 0 _) ?_
  exact {
    extract := ⟨some _, .present rfl (part _), {
      inheritedFields := .present rfl rfl
      includeClasses := .present rfl rfl
      aliasDepthLimit := .present rfl ⟨limit, rfl⟩
      others := othersAny_keys _ }⟩
    watch := ⟨some _, .present rfl (part _), {
      debounceMs := .present rfl ⟨debounce, rfl⟩
      recursive := .present rfl rfl
      others := othersAny_keys _ }⟩
    output := ⟨some _, .present rfl (part _), {
      pretty := .present rfl rfl
      others := othersAny_keys _ }⟩
    others := othersAny_keys _ }

/-- Settings are read back from their own text, and from the text of any object that gives some of
them, in any order and among other members, come these and the others as by default, unless a number
is zero. -/
theorem ofText_eq_checked :
    (∀ (pretty : Bool) (config : Config), config.extract.aliasDepthLimit < UInt64.size →
      config.watch.debounceMs < UInt64.size →
        ofText (config.toJson.print pretty) = config.checked) ∧
    ∀ (options : Options) (text : String), options.In text →
      ofText text = (options.onto {}).checked := by
  have given (options : Options) (text : String) (h : options.In text) :
      ofText text = (options.onto {}).checked := by
    obtain ⟨whole, hb, ha, isObject, parts⟩ := h
    have run : (read Json.Reader.depthLimit).run text = .ok (options.onto {}) :=
      Json.Reader.run_of_acceptsEnded whole hb ha (accepts_read isObject parts 124)
    rw [ofText, run]
    exact checked_eq _
  exact ⟨fun pretty config limit debounce => given _ _ (in_print pretty config limit debounce), given⟩

/-- One setting is given, after a member that means nothing. -/
theorem ofText_eq_checked_recursive :
    ofText ((toJson { watch.debounceMs := 0 }).print true) =
        .error (.invalidOption ⟨"watch.debounce_ms", "must be at least 1"⟩) ∧
      ofText "\x7b\"note\":null,\"watch\":\x7b\"recursive\":true\x7d\x7d" =
        .ok { watch.recursive := true } := by
  have parts := Json.isObject_spelled .compact 1 [("recursive", .bool true)]
  have given : Options.In { recursive := some true }
      "\x7b\"note\":null,\"watch\":\x7b\"recursive\":true\x7d\x7d" := by
    refine .mk (List.append_nil _).symm Json.Reader.blank_nil Json.Reader.blank_nil
      (Json.isObject_spelled .compact 0
        [("note", .null), ("watch", .object [("recursive", .bool true)])]) ?_
    exact {
      extract := ⟨none, .absent (by decide), .absent (by decide), .absent (by decide),
        .absent (by decide), List.forall_mem_nil _⟩
      watch := ⟨some _, .present rfl parts, .absent (by decide), .present rfl rfl,
        List.forall_mem_singleton.mpr fun other => absurd (by decide) other⟩
      output := ⟨none, .absent (by decide), .absent (by decide), List.forall_mem_nil _⟩
      others := List.forall_mem_cons.mpr
        ⟨fun _ => .null, List.forall_mem_singleton.mpr fun other => absurd (by decide) other⟩ }
  exact ⟨ofText_eq_checked.1 true _ (by decide) (by decide), ofText_eq_checked.2 _ _ given⟩

end Config

end TypeAtlas
