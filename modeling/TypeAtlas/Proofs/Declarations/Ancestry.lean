import Mathlib.Data.List.Basic
import TypeAtlas.Declarations.Inheritance

/-!
# Who the ancestors of a declaration are

The walk over supertypes keeps one list of names that it has seen, which all branches share. What it
meets is told here without that list. `Declarations.lineage` follows every chain of supertypes that
does not return to a name of its own path; a name is in it exactly if it is
`Declarations.Reachable`. The walk meets the first occurrences of the lineage, in its order
(`Declarations.map_name_ancestors`).

The invariant of the walk is `Declarations.Covered`: the supertypes of a name that has been seen
have been seen too, unless the name is on the path that the walk has not left yet. So whatever a
branch passes over because it has been seen has nothing new above it.
-/

set_option autoImplicit false

namespace TypeAtlas

/-! ### Names under substitution -/

/-- A type has a name to refer to exactly if it is a reference, with this name. -/
theorem TypeExpr.referenceName?_eq_some {type : TypeExpr} {name : String} :
    type.referenceName? = some name ↔ ∃ arguments, type.shape = .reference name arguments := by
  unfold referenceName?
  cases type.shape <;> simp

/-- A type has no name to refer to exactly if it is no reference. -/
theorem TypeExpr.referenceName?_eq_none {type : TypeExpr} :
    type.referenceName? = none ↔ ∀ name arguments, type.shape ≠ .reference name arguments := by
  unfold referenceName?
  cases type.shape <;> simp

/-- Only names of type parameters are bound. -/
theorem Bindings.find?_ofArguments {name : String} :
    {parameters : List TypeParameter} → (∀ parameter ∈ parameters, parameter.name ≠ name) →
      ∀ arguments, (ofArguments parameters arguments).find? name = none
  | [], _, _ => rfl
  | parameter :: rest, other, arguments => by
      have others : ∀ parameter ∈ rest, parameter.name ≠ name := fun parameter mem =>
        other parameter (List.mem_cons_of_mem _ mem)
      have tail := find?_ofArguments others arguments.tail
      have differs : (name == parameter.name) = false := by
        simpa using Ne.symm (other parameter List.mem_cons_self)
      unfold ofArguments
      simp only
      split_ifs
      · exact tail
      · rw [find?, List.lookup_cons, differs]
        exact tail

/-- A type that is not replaced itself refers to the name that it refers to. -/
theorem TypeExpr.referenceName?_substitute {bindings : Bindings} {type : TypeExpr}
    (free : ∀ name, type.shape = .reference name [] → bindings.find? name = none) :
    (type.substitute bindings).referenceName? = type.referenceName? := by
  obtain ⟨shape, text⟩ := type
  unfold substitute
  cases replaced : replaced? bindings ⟨shape, text⟩ with
  | none => rfl
  | some new =>
    cases shape
    case reference name arguments =>
      cases arguments with
      | nil =>
        rw [replaced?, free name rfl] at replaced
        cases replaced
      | cons first rest =>
        rw [replaced?] at replaced
        obtain ⟨types, _, rfl⟩ := Option.map_eq_some_iff.mp replaced
        rfl
    case object members signatures =>
      rw [replaced?] at replaced
      split at replaced <;> cases replaced
      rfl
    case indexedAccess object index =>
      rw [replaced?] at replaced
      split at replaced <;> cases replaced
      rfl
    case keyword | literal | this | unsupported => cases replaced
    all_goals
      rw [replaced?] at replaced
      obtain ⟨types, _, rfl⟩ := Option.map_eq_some_iff.mp replaced
      rfl

namespace Declarations

/-! ### Chains of supertypes -/

/-- The names of the supertypes of a name. -/
def supers (decls : Declarations) (name : String) : List String :=
  (decls.bequest name).bases.filterMap (·.referenceName?)

/-- A name that inherits nothing has no supertypes. -/
theorem supers_of_not_mem_heirs {decls : Declarations} {name : String} (h : name ∉ decls.heirs) :
    decls.supers name = [] := by
  rw [supers, bequest_bases_of_not_mem_heirs h, List.filterMap_nil]

/-- A name is reached from others through supertypes without passing through the name that is
avoided. -/
inductive Reachable (decls : Declarations) (avoided : String) (names : List String) : String → Prop
  | base {name : String} (mem : name ∈ names) (other : name ≠ avoided) :
      Reachable decls avoided names name
  | step {via name : String} (reached : Reachable decls avoided names via)
      (mem : name ∈ decls.supers via) (other : name ≠ avoided) : Reachable decls avoided names name

/-- All chains of supertypes that start with one of the names and never come to a name of their own
path, written one after the other: each name before its own supertypes, and these before the next
name at hand. -/
def lineage (decls : Declarations) : (path : List String) → List String → List String
  | _, [] => []
  | path, name :: rest =>
    if _known : name ∈ path then decls.lineage path rest
    else name :: decls.lineage (name :: path) (decls.supers name) ++ decls.lineage path rest
termination_by path names => (decls.unseen path, names.length)
decreasing_by
  · exact Prod.Lex.right _ (Nat.lt_succ_self _)
  · by_cases heir : name ∈ decls.heirs
    · exact Prod.Lex.left _ _ (unseen_cons_lt heir (by simpa using _known))
    · rw [supers_of_not_mem_heirs heir]
      rcases Nat.lt_or_eq_of_le (unseen_append_le decls [name] path) with less | same
      · exact Prod.Lex.left _ _ less
      · simp only [List.singleton_append] at same
        rw [same]
        exact Prod.Lex.right _ (Nat.succ_pos _)
  · exact Prod.Lex.right _ (Nat.lt_succ_self _)

variable {decls : Declarations}

/-- No names have no chains of supertypes. -/
@[simp]
theorem lineage_nil (path : List String) : decls.lineage path [] = [] := by
  rw [lineage]

/-- A name of the path is left out of the chains. -/
theorem lineage_cons_of_mem {path rest : List String} {name : String} (h : name ∈ path) :
    decls.lineage path (name :: rest) = decls.lineage path rest := by
  rw [lineage, dif_pos h]

/-- A name off the path comes first, then its own supertypes, then the names behind it. -/
theorem lineage_cons_of_not_mem {path rest : List String} {name : String} (h : name ∉ path) :
    decls.lineage path (name :: rest) =
      name :: decls.lineage (name :: path) (decls.supers name) ++ decls.lineage path rest := by
  rw [lineage, dif_neg h]

/-! ### What is in a lineage -/

/-- No name of the path is in the lineage. -/
theorem not_mem_of_mem_lineage {path names : List String} {name : String}
    (h : name ∈ decls.lineage path names) : name ∉ path := by
  fun_induction lineage decls path names with
  | case1 path => cases h
  | case2 path first rest known ih => exact ih h
  | case3 path first rest new ihAbove ihRest =>
    rcases List.mem_cons.mp h with rfl | later
    · exact new
    · rcases List.mem_append.mp later with above | beside
      · exact fun mem => ihAbove above (List.mem_cons_of_mem _ mem)
      · exact ihRest beside

/-- Each of the names is in the lineage unless it is on the path. -/
theorem mem_lineage_of_mem {path names : List String} {name : String} (h : name ∈ names)
    (new : name ∉ path) : name ∈ decls.lineage path names := by
  induction names with
  | nil => cases h
  | cons first rest ih =>
    by_cases known : first ∈ path
    · rw [lineage_cons_of_mem known]
      rcases List.mem_cons.mp h with rfl | later
      · exact absurd known new
      · exact ih later
    · rw [lineage_cons_of_not_mem known]
      rcases List.mem_cons.mp h with rfl | later
      · exact List.mem_append_left _ List.mem_cons_self
      · exact List.mem_append_right _ (ih later)

/-- The supertypes of a name in the lineage are in it, unless they are on the path. -/
theorem mem_lineage_of_mem_supers {path names : List String} {name above : String}
    (h : name ∈ decls.lineage path names) (super : above ∈ decls.supers name)
    (new : above ∉ path) : above ∈ decls.lineage path names := by
  fun_induction lineage decls path names with
  | case1 path => cases h
  | case2 path first rest known ih => exact ih h new
  | case3 path first rest fresh ihAbove ihRest =>
    by_cases same : above = first
    · exact same ▸ List.mem_append_left _ List.mem_cons_self
    · have off : above ∉ first :: path := by simp [same, new]
      rcases List.mem_append.mp h with inside | beside
      · refine List.mem_append_left _ (List.mem_cons_of_mem _ ?_)
        rcases List.mem_cons.mp inside with rfl | higher
        · exact mem_lineage_of_mem super off
        · exact ihAbove higher off
      · exact List.mem_append_right _ (ihRest beside new)

/-- On a path over the avoided name only what can be reached is in the lineage. -/
theorem reachable_of_mem_lineage {avoided : String} {start path names : List String}
    {name : String} (h : name ∈ decls.lineage path names) (onPath : avoided ∈ path)
    (from_start : ∀ first ∈ names, first ≠ avoided → decls.Reachable avoided start first) :
    decls.Reachable avoided start name := by
  fun_induction lineage decls path names with
  | case1 path => cases h
  | case2 path first rest known ih =>
    exact ih h onPath fun other mem => from_start other (List.mem_cons_of_mem _ mem)
  | case3 path first rest fresh ihAbove ihRest =>
    have reached : decls.Reachable avoided start first :=
      from_start first List.mem_cons_self fun same => fresh (same ▸ onPath)
    rcases List.mem_append.mp h with inside | beside
    · rcases List.mem_cons.mp inside with rfl | higher
      · exact reached
      · exact ihAbove higher (List.mem_cons_of_mem _ onPath) fun other mem => .step reached mem
    · exact ihRest beside onPath fun other mem => from_start other (List.mem_cons_of_mem _ mem)

/-- The lineage consists of the names that can be reached. -/
theorem mem_lineage_iff {avoided : String} {names : List String} {name : String} :
    name ∈ decls.lineage [avoided] names ↔ decls.Reachable avoided names name := by
  constructor
  · exact fun mem => reachable_of_mem_lineage mem (List.mem_singleton_self _) fun _ => .base
  · intro reached
    induction reached with
    | base mem other => exact mem_lineage_of_mem mem (by simpa using other)
    | step _ mem other ih => exact mem_lineage_of_mem_supers ih mem (by simpa using other)

/-! ### Names that have been seen -/

/-- The supertypes of each name that has been seen have been seen too, unless the name is on the
path. -/
def Covered (decls : Declarations) (path seen : List String) : Prop :=
  ∀ name ∈ seen, name ∉ path → decls.supers name ⊆ seen

/-- A name that comes to the path and to the names seen at once leaves these covered. -/
theorem Covered.cons {path seen : List String} (h : decls.Covered path seen) (name : String) :
    decls.Covered (name :: path) (name :: seen) := by
  intro other mem off above super
  rw [List.mem_cons, not_or] at off
  rcases List.mem_cons.mp mem with same | inside
  · exact absurd same off.1
  · exact List.mem_cons_of_mem _ (h other inside off.2 super)

/-- Above a name that has been seen and left there is nothing that has not been seen. -/
theorem lineage_subset_of_covered {path names seen : List String} (h : decls.Covered path seen)
    (inside : ∀ name ∈ names, name ∈ seen) : decls.lineage path names ⊆ seen := by
  fun_induction lineage decls path names with
  | case1 path => exact List.nil_subset _
  | case2 path first rest known ih =>
    exact ih h fun name mem => inside name (List.mem_cons_of_mem _ mem)
  | case3 path first rest fresh ihAbove ihRest =>
    have here : first ∈ seen := inside first List.mem_cons_self
    have narrower : decls.Covered (first :: path) seen := fun name mem off =>
      h name mem fun on => off (List.mem_cons_of_mem _ on)
    exact List.append_subset.mpr
      ⟨List.cons_subset.mpr ⟨here, ihAbove narrower fun name mem => h first here fresh mem⟩,
        ihRest h fun name mem => inside name (List.mem_cons_of_mem _ mem)⟩

/-- Once everything has been seen that is above a name, the name can be left. -/
theorem Covered.leave {path seen above : List String} {name : String}
    (h : decls.Covered path seen)
    (all : ∀ other, other ∈ above ↔
      other ∈ decls.lineage (name :: path) (decls.supers name) ∧ other ∉ name :: seen)
    (walked : path ⊆ seen) : decls.Covered path (above ++ name :: seen) := by
  have onward : ∀ other, other ∈ decls.lineage (name :: path) (decls.supers name) ∨
      other ∈ name :: path → other ∈ above ++ name :: seen := by
    intro other found
    by_cases old : other ∈ name :: seen
    · exact List.mem_append_right _ old
    · refine List.mem_append_left _ ((all other).mpr ⟨?_, old⟩)
      refine found.resolve_right fun on => old ?_
      rcases List.mem_cons.mp on with rfl | on
      · exact List.mem_cons_self
      · exact List.mem_cons_of_mem _ (walked on)
  -- a name that has been seen was met above the one that is left, is that one, or is older
  intro other mem off super isSuper
  rcases List.mem_append.mp mem with higher | mem
  · obtain ⟨met, _⟩ := (all other).mp higher
    by_cases on : super ∈ name :: path
    · exact onward super (.inr on)
    · exact onward super (.inl (mem_lineage_of_mem_supers met isSuper on))
  · rcases List.mem_cons.mp mem with rfl | old
    · by_cases on : super ∈ other :: path
      · exact onward super (.inr on)
      · exact onward super (.inl (mem_lineage_of_mem isSuper on))
    · exact List.mem_append_right _ (List.mem_cons_of_mem _ (h other old off isSuper))

/-! ### The walk -/

/-- No supertype of an interface or class is nothing but one of its own type parameters. -/
structure NoBareParameter (decls : Declarations) : Prop where
  interfaces : ∀ decl ∈ decls.interfaces, ∀ base ∈ decl.bases, ∀ parameter ∈ decl.typeParameters,
    base.shape ≠ .reference parameter.name []
  classes : ∀ decl ∈ decls.classes, ∀ base ∈ decl.base, ∀ parameter ∈ decl.typeParameters,
    base.shape ≠ .reference parameter.name []

/-- What a name passes on has no supertype that is nothing but one of its type parameters. -/
theorem NoBareParameter.bequest (h : decls.NoBareParameter) (name : String) {base : TypeExpr}
    (mem : base ∈ (decls.bequest name).bases) {parameter : TypeParameter}
    (own : parameter ∈ (decls.bequest name).typeParameters) :
    base.shape ≠ .reference parameter.name [] := by
  unfold Declarations.bequest bequest? at mem own
  cases isInterface : decls.interface? name with
  | some decl =>
    simp only [isInterface, Option.getD_some] at mem own
    exact h.interfaces decl (Declarations.mem_of_interface? isInterface).1 base mem parameter own
  | none =>
    cases isClass : decls.class? name with
    | some decl =>
      simp only [isInterface, isClass, Option.getD_some] at mem own
      exact h.classes decl (Declarations.mem_of_class? isClass).1 base (by simpa using mem)
        parameter own
    | none =>
      simp only [isInterface, isClass] at mem
      split at mem
      · split at mem <;> cases mem
      · cases mem

/-- With the arguments for its type parameters, a declaration has supertypes of the same names. -/
theorem NoBareParameter.map_substitute (h : decls.NoBareParameter) (name : String)
    (arguments : List TypeExpr) :
    ((decls.bequest name).bases.map (·.substitute
      (.ofArguments (decls.bequest name).typeParameters arguments))).filterMap (·.referenceName?) =
        decls.supers name := by
  rw [List.filterMap_map, supers]
  refine List.filterMap_congr fun base mem => ?_
  refine TypeExpr.referenceName?_substitute fun other shape => ?_
  refine Bindings.find?_ofArguments (fun parameter own same => ?_) arguments
  exact h.bequest name mem own (same ▸ shape)

/-- First occurrences of what has not been seen: those after a new name, and those beside it that
have not been seen by then. -/
theorem eraseDups_removeAll_cons {name : String} {seen : List String} (new : name ∉ seen)
    (above beside : List String) :
    ((name :: above ++ beside).removeAll seen).eraseDups =
      name :: (above.removeAll (name :: seen)).eraseDups ++
        (beside.removeAll
          ((above.removeAll (name :: seen)).eraseDups ++ name :: seen)).eraseDups := by
  have narrow (list : List String) :
      (list.removeAll seen).filter (fun other => !other == name) =
        list.removeAll (name :: seen) := by
    simp only [List.removeAll, List.filter_filter]
    refine List.filter_congr fun other _ => ?_
    by_cases same : other = name <;> simp [same]
  have later : (beside.removeAll (name :: seen)).removeAll (above.removeAll (name :: seen)) =
      beside.removeAll ((above.removeAll (name :: seen)).eraseDups ++ name :: seen) := by
    simp only [List.removeAll, List.filter_filter]
    refine List.filter_congr fun other _ => ?_
    rw [Bool.eq_iff_iff]
    simp [List.mem_eraseDups]
  have split : (name :: above ++ beside).removeAll seen =
      name :: (above.removeAll seen ++ beside.removeAll seen) := by
    simp [List.removeAll, new]
  rw [split, List.eraseDups_cons, List.filter_append, narrow, narrow, List.eraseDups_append, later,
    List.cons_append]

/-- The walk meets the first occurrences of the lineage that it has not seen. -/
theorem map_name_ancestors (h : decls.NoBareParameter) {bases : List TypeExpr}
    {path seen : List String} (covered : decls.Covered path seen) (walked : path ⊆ seen) :
    (decls.ancestors bases seen).map (·.name) =
      ((decls.lineage path (bases.filterMap (·.referenceName?))).removeAll seen).eraseDups := by
  fun_induction ancestors decls bases seen generalizing path with
  | case1 seen => simp [List.removeAll]
  | case2 base rest seen name arguments shape old ih =>
    have met : name ∈ seen := by simpa using old
    have named : base.referenceName? = some name := by simp [TypeExpr.referenceName?, shape]
    rw [List.filterMap_cons_some named, ih covered walked]
    by_cases on : name ∈ path
    · rw [lineage_cons_of_mem on]
    · -- the name has been left, so nothing above it is new
      have seenAbove : decls.lineage (name :: path) (decls.supers name) ⊆ seen :=
        lineage_subset_of_covered
          (fun other mem off => covered other mem fun h => off (List.mem_cons_of_mem _ h))
          fun above super => covered name met on super
      have left :
          (name :: decls.lineage (name :: path) (decls.supers name)).removeAll seen = [] := by
        rw [List.removeAll, List.filter_eq_nil_iff]
        intro other mem
        simpa using (List.cons_subset.mpr ⟨met, seenAbove⟩) mem
      have all : decls.lineage path (name :: rest.filterMap (·.referenceName?)) =
          (name :: decls.lineage (name :: path) (decls.supers name)) ++
            decls.lineage path (rest.filterMap (·.referenceName?)) := lineage_cons_of_not_mem on
      have parted (first later : List String) :
          (first ++ later).removeAll seen = first.removeAll seen ++ later.removeAll seen :=
        List.filter_append ..
      rw [all, parted, left, List.nil_append]
  | case3 base rest seen name arguments shape new bequest bindings above ihAbove _ =>
    rename_i ihRest
    have fresh : name ∉ seen := by simpa using new
    have off : name ∉ path := fun on => fresh (walked on)
    have named : base.referenceName? = some name := by simp [TypeExpr.referenceName?, shape]
    have higher : above.map (·.name) =
        ((decls.lineage (name :: path) (decls.supers name)).removeAll
          (name :: seen)).eraseDups := by
      rw [← h.map_substitute name arguments]
      exact ihAbove (covered.cons name) (List.cons_subset_cons name walked)
    have members : ∀ other, other ∈ above.map (·.name) ↔
        other ∈ decls.lineage (name :: path) (decls.supers name) ∧ other ∉ name :: seen := by
      intro other
      rw [higher, List.mem_eraseDups, List.removeAll, List.mem_filter]
      simp
    rw [List.filterMap_cons_some named, lineage_cons_of_not_mem off, List.map_append, List.map_cons,
      ihRest (covered.leave members walked)
        fun other on => List.mem_append_right _ (List.mem_cons_of_mem _ (walked on)),
      eraseDups_removeAll_cons fresh, ← higher]
  | case4 base rest seen shape ih =>
    have unnamed : base.referenceName? = none := by
      unfold TypeExpr.referenceName?
      split
      · exact absurd (by assumption) (shape _ _)
      · rfl
    rw [List.filterMap_cons_none unnamed]
    exact ih covered walked

/-- The supertypes that a declaration inherits from are met in the order of its lineage. -/
theorem map_name_ancestors_self (h : decls.NoBareParameter) (name : String)
    (bases : List TypeExpr) :
    (decls.ancestors bases [name]).map (·.name) =
      (decls.lineage [name] (bases.filterMap (·.referenceName?))).eraseDups := by
  have covered : decls.Covered [name] [name] := fun other mem off => absurd mem off
  have fresh : (decls.lineage [name] (bases.filterMap (·.referenceName?))).removeAll [name] =
      decls.lineage [name] (bases.filterMap (·.referenceName?)) := by
    rw [List.removeAll, List.filter_eq_self]
    intro other mem
    simpa using not_mem_of_mem_lineage mem
  rw [map_name_ancestors h covered (List.Subset.refl _), fresh]

end Declarations

end TypeAtlas
