import TypeAtlas.Proofs.Declarations.Acyclic
import TypeAtlas.Proofs.Declarations.Names
import TypeAtlas.Proofs.Types.Arguments
import TypeAtlas.Proofs.Types.Composition

/-!
# Inheritance level by level

A declaration inherits by one walk over everything above it, which meets each name once and brings
along the arguments that it has put together on the way. The result is the same, up to texts, as if
each supertype had got its own members first and passed on all that it has
(`Declarations.isLevelwise_withInheritance`).

Two things make it so. A member that is passed on twice, with arguments replaced at each level, is
that which is passed on once with the arguments put together
(`Declarations.Hygienic.textless_inheritedFrom_inheritedFrom`). And what the walk passes over would
add nothing: all members of a name that it has seen have been added by then, those that come from
above included (`Declarations.Spent`). This is where cycles are excluded, for on a cycle the walk
passes over names whose members it has not added yet.
-/

set_option autoImplicit false

namespace TypeAtlas

/-! ### Members that are passed on -/

/-- Where a member comes from once it has been passed on by a supertype. -/
def Origin.passedFrom (owner : String) : Origin → Origin
  | .inherited first => .inherited first
  | .own | .merged => .inherited owner

namespace Member

/-- The member with another origin. -/
def withOrigin (member : Member) (origin : Origin) : Member := { member with origin := origin }

/-- Without texts a member keeps its name. -/
@[simp]
theorem name_textless (member : Member) : member.textless.name = member.name := by
  rw [textless_eq]
  rfl

/-- Without texts a member keeps its origin. -/
@[simp]
theorem origin_textless (member : Member) : member.textless.origin = member.origin := by
  rw [textless_eq]
  rfl

/-- Texts and origins are independent of each other. -/
@[simp]
theorem textless_withOrigin (member : Member) (origin : Origin) :
    (member.withOrigin origin).textless = member.textless.withOrigin origin := by
  rw [textless_eq, textless_eq]
  rfl

/-- Types are put into a member whatever its origin is. -/
@[simp]
theorem substitute_withOrigin (member : Member) (origin : Origin) (bindings : Bindings) :
    (member.withOrigin origin).substitute bindings =
      (member.substitute bindings).withOrigin origin := by
  rw [substitute_eq, substitute_eq]
  rfl

/-- Of two origins that are given to a member the later one stays. -/
@[simp]
theorem withOrigin_withOrigin (member : Member) (origin later : Origin) :
    (member.withOrigin origin).withOrigin later = member.withOrigin later := rfl

/-- An inherited member has the arguments in place of type parameters, and only its origin tells
that it was passed on. -/
theorem inheritedFrom_eq (owner : String) (bindings : Bindings) (member : Member) :
    member.inheritedFrom owner bindings =
      (member.substitute bindings).withOrigin (member.origin.passedFrom owner) := by
  rw [inheritedFrom, substitute_eq]
  obtain ⟨name, optional, readonly, form, span, origin⟩ := member
  cases origin <;> rfl

/-- Texts do not matter to what is passed on. -/
theorem textless_inheritedFrom_congr {member other : Member}
    (same : member.textless = other.textless) (owner : String) (bindings : Bindings) :
    (member.inheritedFrom owner bindings).textless =
      (other.inheritedFrom owner bindings).textless := by
  have origin : member.origin = other.origin := by
    rw [← origin_textless, same, origin_textless]
  rw [inheritedFrom_eq, inheritedFrom_eq, textless_withOrigin, textless_withOrigin, origin,
    textless_substitute_congr same]

/-- A member that is passed on twice is passed on once with both replacements. -/
theorem textless_inheritedFrom_inheritedFrom {member : Member} {first second both : Bindings}
    (same : ((member.substitute first).substitute second).textless =
      (member.substitute both).textless) (owner heir : String) :
    ((member.inheritedFrom owner first).inheritedFrom heir second).textless =
      (member.inheritedFrom owner both).textless := by
  have stays : (member.origin.passedFrom owner).passedFrom heir =
      member.origin.passedFrom owner := by
    cases member.origin <;> rfl
  calc ((member.inheritedFrom owner first).inheritedFrom heir second).textless
      = ((member.substitute first).substitute second).textless.withOrigin
          ((member.origin.passedFrom owner).passedFrom heir) := by
        simp only [inheritedFrom_eq, substitute_withOrigin, withOrigin_withOrigin,
          textless_withOrigin]
        rfl
    _ = (member.substitute both).textless.withOrigin (member.origin.passedFrom owner) := by
        rw [same, stays]
    _ = (member.inheritedFrom owner both).textless := by
        rw [inheritedFrom_eq, textless_withOrigin]

/-- Members that differ in texts only are still so once they are inherited. -/
theorem map_inheritedFrom_congr {members others : List Member}
    (same : members.map textless = others.map textless) (owner : String) (bindings : Bindings) :
    (members.map (·.inheritedFrom owner bindings)).map textless =
      (others.map (·.inheritedFrom owner bindings)).map textless := by
  induction members generalizing others with
  | nil =>
    obtain rfl : others = [] := by simpa using same.symm
    rfl
  | cons member rest ih =>
    cases others with
    | nil => cases same
    | cons other more =>
      obtain ⟨first, later⟩ := List.cons.inj same
      simp only [List.map_cons, textless_inheritedFrom_congr first, ih later]

/-- Texts do not matter to which members are new. -/
theorem map_textless_newMembers_congr {more others : List Member}
    (same : more.map textless = others.map textless) (taken : List Member) :
    (newMembers taken more).map textless = (newMembers taken others).map textless := by
  rw [← newMembers_map name_textless, ← newMembers_map name_textless, same]

/-- Members that differ in texts only have the same names. -/
theorem map_name_congr {members others : List Member}
    (same : members.map textless = others.map textless) :
    members.map (·.name) = others.map (·.name) := by
  have names := congrArg (List.map (·.name)) same
  simpa [Function.comp_def] using names

/-- Names are taken alike once the same members have been added. -/
theorem mem_map_name_append_congr {taken more others : List Member}
    (same : (newMembers taken more).map textless = (newMembers taken others).map textless)
    (name : String) :
    name ∈ (taken ++ more).map (·.name) ↔ name ∈ (taken ++ others).map (·.name) := by
  have added : name ∈ (newMembers taken more).map (·.name) ↔
      name ∈ more.map (·.name) ∧ name ∉ taken.map (·.name) := mem_map_name_newMembers
  rw [map_name_congr same, mem_map_name_newMembers] at added
  simp only [List.map_append, List.mem_append]
  tauto

end Member

open Member (newMembers firstOfEach besides)

namespace Declarations

variable {decls : Declarations}

/-! ### What a supertype passes on -/

/-- What a supertype passes on to a declaration that names it: all members that it has, with the
arguments in place of its type parameters. Those that are its own come to be inherited from it. -/
def passedBy (decls : Declarations) (base : TypeExpr) : List Member :=
  match base.shape with
  | .reference name arguments =>
    (decls.writtenMembers name).map
      (·.inheritedFrom name (.ofArguments (decls.bequest name).typeParameters arguments))
  | _ => []

/-- A supertype that is a reference passes on all members of its name, with its arguments in place
of the type parameters. -/
theorem passedBy_of_reference {base : TypeExpr} {name : String} {arguments : List TypeExpr}
    (shape : base.shape = .reference name arguments) :
    decls.passedBy base = (decls.writtenMembers name).map
      (·.inheritedFrom name (.ofArguments (decls.bequest name).typeParameters arguments)) := by
  simp only [passedBy, shape]

/-- A supertype that is no reference passes nothing on. -/
theorem passedBy_of_not_reference {base : TypeExpr}
    (shape : ∀ name arguments, base.shape ≠ .reference name arguments) :
    decls.passedBy base = [] := by
  unfold passedBy
  split
  · exact absurd (by assumption) (shape _ _)
  · rfl

/-- Members keep their names when they are passed on. -/
theorem map_name_passedBy {base : TypeExpr} {name : String} {arguments : List TypeExpr}
    (shape : base.shape = .reference name arguments) :
    (decls.passedBy base).map (·.name) = (decls.writtenMembers name).map (·.name) := by
  rw [passedBy_of_reference shape, List.map_map]
  exact List.map_congr_left fun member _ => Member.name_inheritedFrom _ _ member

/-- Names mean the same wherever members are passed on to. The members of a supertype are all that
it has, with what it inherits. -/
structure Hygienic (decls : Declarations) : Prop where
  /-- Every supertype is written with an argument for each of its type parameters. -/
  saturated : ∀ name, ∀ base ∈ (decls.bequest name).bases, ∀ super arguments,
    base.shape = .reference super arguments →
      (decls.bequest super).typeParameters.length ≤ arguments.length
  /-- What a member of a supertype refers to freely is no type parameter of the declaration. -/
  free : ∀ name super, decls.Extends name super →
    ∀ member ∈ decls.withInheritance.writtenMembers super,
      ∀ parameter ∈ (decls.bequest name).typeParameters, member.Mentions parameter.name →
        ∃ own ∈ (decls.bequest super).typeParameters, own.name = parameter.name
  /-- No signature in a member of a supertype rebinds a name that occurs in the arguments. -/
  apart : ∀ name, ∀ base ∈ (decls.bequest name).bases, ∀ super arguments,
    base.shape = .reference super arguments →
      ∀ member ∈ decls.withInheritance.writtenMembers super, ∀ rebound, member.Rebinds rebound →
        ∀ argument ∈ arguments, ¬ argument.Mentions rebound

/-- A name extends whatever its supertypes refer to. -/
theorem extends_of_mem_bases {name super : String} {base : TypeExpr} {arguments : List TypeExpr}
    (mem : base ∈ (decls.bequest name).bases) (shape : base.shape = .reference super arguments) :
    decls.Extends name super :=
  List.mem_filterMap.mpr ⟨base, mem, TypeExpr.referenceName?_eq_some.mpr ⟨arguments, shape⟩⟩

/-- What a supertype has passed on is passed on with the arguments put together. -/
theorem Hygienic.textless_inheritedFrom_inheritedFrom (h : decls.Hygienic) {name super : String}
    {base : TypeExpr} {arguments : List TypeExpr} (mem : base ∈ (decls.bequest name).bases)
    (shape : base.shape = .reference super arguments) {member : Member}
    (has : member ∈ decls.withInheritance.writtenMembers super) (given : List TypeExpr) :
    ((member.inheritedFrom super
        (.ofArguments (decls.bequest super).typeParameters arguments)).inheritedFrom name
          (.ofArguments (decls.bequest name).typeParameters given)).textless =
      (member.inheritedFrom super (.ofArguments (decls.bequest super).typeParameters
        (arguments.map (·.substitute
          (.ofArguments (decls.bequest name).typeParameters given))))).textless := by
  have enough := h.saturated name base mem super arguments shape
  refine Member.textless_inheritedFrom_inheritedFrom ?_ super name
  refine Member.textless_substitute_substitute (fun mentioned mentions => ?_)
    fun rebound rebinds bound new found => h.apart name base mem super arguments shape member has
      rebound rebinds new (Bindings.mem_of_find?_ofArguments enough found)
  rw [Bindings.value, Bindings.value, Bindings.find?_ofArguments_map _ _ enough]
  cases found : (Bindings.ofArguments (decls.bequest super).typeParameters arguments).find?
      mentioned with
  | some argument => rfl
  | none =>
    -- the name is free in the member, so it is no type parameter of the heir either
    have unbound : (Bindings.ofArguments (decls.bequest name).typeParameters given).find?
        mentioned = none := by
      refine Bindings.find?_ofArguments (fun parameter declared same => ?_) given
      obtain ⟨own, inside, named⟩ := h.free name super (extends_of_mem_bases mem shape) member has
        parameter declared (same ▸ mentions)
      have bound := Bindings.isSome_find?_ofArguments inside arguments
      rw [named, same, found] at bound
      cases bound
    rw [Option.getD_none, Option.map_none, Option.getD_none,
      TypeExpr.textless_substitute_of_shape rfl, Bindings.value, unbound]
    rfl

/-- A supertype that is written in another one passes on, with what is given to that one, the same
as it passes to it, but with the given types in place. -/
theorem Hygienic.passedBy_substitute (h : decls.Hygienic) (plain : decls.NoBareParameter)
    {name : String} {base : TypeExpr} (mem : base ∈ (decls.bequest name).bases)
    (given : List TypeExpr) :
    let bindings := Bindings.ofArguments (decls.bequest name).typeParameters given
    (decls.withInheritance.passedBy (base.substitute bindings)).map Member.textless =
      ((decls.withInheritance.passedBy base).map (·.inheritedFrom name bindings)).map
        Member.textless := by
  intro bindings
  -- a supertype that is no bare type parameter is not replaced itself, only its arguments are
  have unbound : ∀ other, base.shape = .reference other [] → bindings.find? other = none :=
    fun other shape => Bindings.find?_ofArguments
      (fun parameter own same => plain.bequest name mem own (same ▸ shape)) given
  by_cases named : ∃ super arguments, base.shape = .reference super arguments
  · obtain ⟨super, arguments, shape⟩ := named
    have replaced : (base.substitute bindings).shape =
        .reference super (arguments.map (·.substitute bindings)) := by
      cases arguments with
      | nil =>
        obtain ⟨_, text⟩ := base
        obtain rfl := shape
        rw [TypeExpr.substitute_parameter, unbound super rfl]
        rfl
      | cons first rest =>
        have other : ∀ name, base.shape ≠ .reference name [] := fun name same => by
          rw [shape] at same
          cases same
        rw [TypeExpr.shape_substitute bindings other, shape, TypeShape.mapTypes,
          Bindings.inside_nil]
    rw [passedBy_of_reference shape, passedBy_of_reference replaced,
      bequest_withInheritance_typeParameters]
    simp only [List.map_map]
    exact List.map_congr_left fun member has =>
      (h.textless_inheritedFrom_inheritedFrom mem shape has given).symm
  · have other : ∀ super arguments, base.shape ≠ .reference super arguments := by simpa using named
    have still := TypeExpr.referenceName?_substitute unbound
    rw [TypeExpr.referenceName?_eq_none.mpr other, TypeExpr.referenceName?_eq_none] at still
    rw [passedBy_of_not_reference other, passedBy_of_not_reference still]
    rfl

/-! ### The walk and the levels -/

/-- What has been seen of the supertypes at hand, and of what is above them, has nothing to add:
all members of it are taken. -/
def Spent (decls : Declarations) (bases seen : List String) (taken : List Member) : Prop :=
  ∀ base ∈ bases, ∀ name ∈ seen, Relation.ReflTransGen decls.Extends base name →
    (decls.withInheritance.writtenMembers name).map (·.name) ⊆ taken.map (·.name)

/-- Where more supertypes are at hand than one asks about, these have nothing to add either. -/
theorem Spent.of_cons {name : String} {rest seen : List String} {taken : List Member}
    (h : decls.Spent (name :: rest) seen taken) : decls.Spent rest seen taken :=
  fun base mem => h base (List.mem_cons_of_mem _ mem)

/-- What has nothing to add has nothing to add to more members. -/
theorem Spent.append {bases seen : List String} {taken : List Member}
    (h : decls.Spent bases seen taken) (more : List Member) :
    decls.Spent bases seen (taken ++ more) := by
  intro base mem name old chain
  rw [List.map_append]
  exact List.subset_append_of_subset_left _ (h base mem name old chain)

/-- What has been seen has nothing to add above a new name either. The new name itself is not above
its supertypes. -/
theorem Spent.above (acyclic : decls.Acyclic) {name : String} {rest seen : List String}
    {taken : List Member} (h : decls.Spent (name :: rest) seen taken) :
    decls.Spent (decls.supers name) (name :: seen) taken := by
  intro super mem other met chain
  rcases List.mem_cons.mp met with rfl | old
  · exact absurd (Relation.TransGen.head' mem chain) (acyclic other)
  · exact h name List.mem_cons_self other old (.head mem chain)

/-- Once all members of a name are taken, it and all that is above it have nothing to add to what
comes from the supertypes beside it. -/
theorem Spent.beside (fresh : decls.Fresh) (plain : decls.NoBareParameter)
    (acyclic : decls.Acyclic) {name : String} {rest seen higher : List String}
    {taken : List Member} (h : decls.Spent rest seen taken)
    (above : ∀ other ∈ higher, Relation.ReflTransGen decls.Extends name other)
    (met : (decls.withInheritance.writtenMembers name).map (·.name) ⊆ taken.map (·.name)) :
    decls.Spent rest (higher ++ name :: seen) taken := by
  intro base mem other found chain
  rcases List.mem_append.mp found with higher | found
  · exact List.Subset.trans
      (acyclic.map_name_resolved_subset fresh plain (above other higher)) met
  · rcases List.mem_cons.mp found with rfl | old
    · exact met
    · exact h base mem other old chain

/-- A name has, up to texts, its own members and the first of each name that its supertypes pass on
to it. -/
def Levelwise (decls : Declarations) (name : String) : Prop :=
  (decls.withInheritance.writtenMembers name).map Member.textless =
    (Member.append (decls.writtenMembers name)
      ((decls.bequest name).bases.flatMap decls.withInheritance.passedBy)).map Member.textless

/-- What a supertype has of its own, and what is added to that from above it, is what it passes on,
if it has its members level by level. -/
theorem map_textless_newMembers_passedBy (fresh : decls.Fresh) (plain : decls.NoBareParameter)
    (hygienic : decls.Hygienic) {base : TypeExpr} {name : String} {arguments : List TypeExpr}
    (shape : base.shape = .reference name arguments) (levelwise : decls.Levelwise name)
    (taken above : List Member) :
    let bindings := Bindings.ofArguments (decls.bequest name).typeParameters arguments
    let own := decls.passedOn ⟨name, bindings⟩
    (newMembers (taken ++ own) above).map Member.textless =
        (newMembers (taken ++ own) (((decls.bequest name).bases.map (·.substitute bindings)).flatMap
          decls.withInheritance.passedBy)).map Member.textless →
      (newMembers taken (own ++ above)).map Member.textless =
        (newMembers taken (decls.withInheritance.passedBy base)).map Member.textless := by
  intro bindings own added
  let pass : Member → Member := (·.inheritedFrom name bindings)
  have keeps (member : Member) : (pass member).name = member.name :=
    Member.name_inheritedFrom name bindings member
  let written := decls.writtenMembers name
  let levels := (decls.bequest name).bases.flatMap decls.withInheritance.passedBy
  have ownEq : own = written.map pass := by
    simp only [own, passedOn, fresh.bequest_members]
    rfl
  -- each level passes on what the next one passed to it
  have further : (levels.map pass).map Member.textless =
      (((decls.bequest name).bases.map (·.substitute bindings)).flatMap
        decls.withInheritance.passedBy).map Member.textless := by
    simp only [levels, List.map_flatMap, List.flatMap_map]
    exact List.flatMap_congr fun base mem =>
      (hygienic.passedBy_substitute plain mem arguments).symm
  have passed : (decls.withInheritance.passedBy base).map Member.textless =
      (own ++ newMembers written (levels.map pass)).map Member.textless := by
    rw [passedBy_of_reference shape, bequest_withInheritance_typeParameters,
      Member.map_inheritedFrom_congr levelwise, Member.append_eq, List.map_append, ownEq,
      Member.newMembers_map keeps]
  have among : ∀ member ∈ written, member.name ∈ (taken ++ own).map (·.name) := by
    intro member mem
    rw [ownEq, List.map_append, List.mem_append]
    exact .inr (keeps member ▸ List.mem_map_of_mem (List.mem_map_of_mem mem))
  calc (newMembers taken (own ++ above)).map Member.textless
      = (newMembers taken own).map Member.textless ++
          (newMembers (taken ++ own) above).map Member.textless := by
        rw [Member.newMembers_append, List.map_append]
    _ = (newMembers taken own).map Member.textless ++
          (newMembers (taken ++ own) (levels.map pass)).map Member.textless := by
        rw [added, Member.map_textless_newMembers_congr further.symm]
    _ = (newMembers taken (own ++ newMembers written (levels.map pass))).map Member.textless := by
        rw [Member.newMembers_append, List.map_append, Member.newMembers_newMembers among]
    _ = (newMembers taken (decls.withInheritance.passedBy base)).map Member.textless :=
        Member.map_textless_newMembers_congr passed.symm taken

/-- The walk adds what the supertypes at hand pass on, if all names above have their members level
by level. -/
theorem map_textless_newMembers_ancestors (fresh : decls.Fresh) (plain : decls.NoBareParameter)
    (acyclic : decls.Acyclic) (hygienic : decls.Hygienic) {bases : List TypeExpr}
    {seen : List String} {taken : List Member} (spent : decls.Spent (names bases) seen taken)
    (levelwise : ∀ base ∈ names bases, ∀ name, Relation.ReflTransGen decls.Extends base name →
      decls.Levelwise name) :
    (newMembers taken ((decls.ancestors bases seen).flatMap decls.passedOn)).map Member.textless =
      (newMembers taken (bases.flatMap decls.withInheritance.passedBy)).map Member.textless := by
  fun_induction ancestors decls bases seen generalizing taken with
  | case1 seen => rfl
  | case2 base rest seen name arguments shape old ih =>
    rw [names_cons_of_reference shape] at spent levelwise
    -- all that the name could pass on is taken
    have known : ∀ member ∈ decls.withInheritance.passedBy base,
        member.name ∈ taken.map (·.name) := by
      intro member mem
      have inside := List.mem_map_of_mem (f := (·.name)) mem
      rw [map_name_passedBy shape] at inside
      exact spent name List.mem_cons_self name (by simpa using old) .refl inside
    rw [List.flatMap_cons, Member.newMembers_append, Member.newMembers_eq_nil known,
      List.nil_append,
      ih spent.of_cons fun other mem => levelwise other (List.mem_cons_of_mem _ mem)]
    refine congrArg _ (Member.newMembers_congr (fun other => ?_) _)
    simp only [List.map_append, List.mem_append]
    refine ⟨.inl, fun mem => mem.elim id fun new => ?_⟩
    obtain ⟨member, inside, rfl⟩ := List.mem_map.mp new
    exact known member inside
  | case3 base rest seen name arguments shape new bequest bindings above ihAbove _ =>
    rename_i ihRest
    rw [names_cons_of_reference shape] at spent levelwise
    have supers : names (bequest.bases.map (·.substitute bindings)) = decls.supers name :=
      plain.map_substitute name arguments
    let own := decls.passedOn ⟨name, bindings⟩
    rw [supers] at ihAbove
    have first := map_textless_newMembers_passedBy fresh plain hygienic shape
      (levelwise name List.mem_cons_self name .refl) taken (above.flatMap decls.passedOn)
      (ihAbove ((spent.above acyclic).append own) fun super mem other chain =>
        levelwise name List.mem_cons_self other (.head mem chain))
    have takenAlike := Member.mem_map_name_append_congr first
    -- by now all members of the name, and of those above it, are taken
    have met : (decls.withInheritance.writtenMembers name).map (·.name) ⊆
        (taken ++ (own ++ above.flatMap decls.passedOn)).map (·.name) := by
      intro other mem
      rw [takenAlike, List.map_append, List.mem_append, map_name_passedBy shape]
      exact .inr mem
    have higher : ∀ other ∈ above.map (·.name),
        Relation.ReflTransGen decls.Extends name other := by
      intro other mem
      obtain ⟨super, inside, chain⟩ := exists_of_mem_ancestors plain mem
      rw [supers] at inside
      exact .head inside chain
    have later := ihRest ((spent.of_cons.append _).beside fresh plain acyclic higher met)
      fun other mem => levelwise other (List.mem_cons_of_mem _ mem)
    calc (newMembers taken ((⟨name, bindings⟩ :: above ++ decls.ancestors rest
            (above.map (·.name) ++ name :: seen)).flatMap decls.passedOn)).map Member.textless
        = (newMembers taken (own ++ above.flatMap decls.passedOn)).map Member.textless ++
            (newMembers (taken ++ (own ++ above.flatMap decls.passedOn))
              ((decls.ancestors rest (above.map (·.name) ++ name :: seen)).flatMap
                decls.passedOn)).map Member.textless := by
          rw [List.flatMap_append, List.flatMap_cons, Member.newMembers_append, List.map_append]
      _ = (newMembers taken (decls.withInheritance.passedBy base)).map Member.textless ++
            (newMembers (taken ++ decls.withInheritance.passedBy base)
              (rest.flatMap decls.withInheritance.passedBy)).map Member.textless := by
          rw [first, later, Member.newMembers_congr takenAlike]
      _ = (newMembers taken ((base :: rest).flatMap decls.withInheritance.passedBy)).map
            Member.textless := by
          rw [List.flatMap_cons, Member.newMembers_append, List.map_append]
  | case4 base rest seen shape ih =>
    rw [names_cons_of_not_reference shape] at spent levelwise
    rw [List.flatMap_cons, passedBy_of_not_reference shape, List.nil_append]
    exact ih spent levelwise

/-- Every name has its members level by level. -/
theorem levelwise (fresh : decls.Fresh) (plain : decls.NoBareParameter) (acyclic : decls.Acyclic)
    (hygienic : decls.Hygienic) (name : String) : decls.Levelwise name := by
  induction name using acyclic.induction with
  | step name ih =>
    have start : decls.Spent [name] [] (decls.writtenMembers name) := fun _ _ _ mem => by cases mem
    have spent : decls.Spent (names (decls.bequest name).bases) [name]
        (decls.writtenMembers name) := start.above acyclic
    rw [Levelwise, writtenMembers_withInheritance, Member.append_eq, Member.append_eq,
      List.map_append, List.map_append, inheritedMembers,
      map_textless_newMembers_ancestors fresh plain acyclic hygienic spent
        fun super mem other chain => ih other (.head' mem chain)]

/-! ### All declarations -/

/-- The members of a declaration are, up to texts, its own and then the first of each name that its
supertypes pass on, without the names of its own. -/
def PassedOnTo (resolved : Declarations) (bases : List TypeExpr) (own members : List Member) :
    Prop :=
  members.map Member.textless =
    (own ++ firstOfEach (besides own (bases.flatMap resolved.passedBy))).map Member.textless

/-- Declarations have inherited level by level if every interface and every class has what its
supertypes, which have inherited themselves, pass on to it, and nothing else is changed. -/
structure IsLevelwise (decls resolved : Declarations) : Prop where
  interfaces : List.Forall₂ (fun decl after => ∃ members,
    after = { decl with members := members } ∧
      resolved.PassedOnTo decl.bases decl.members members) decls.interfaces resolved.interfaces
  classes : List.Forall₂ (fun decl after => ∃ members,
    after = { decl with members := members } ∧
      resolved.PassedOnTo decl.base.toList decl.members members) decls.classes resolved.classes
  aliases : resolved.aliases = decls.aliases
  enums : resolved.enums = decls.enums

/-- A name with its own members and the first of each name that is passed on to it has inherited as
a level does. -/
theorem Levelwise.passedOnTo {name : String} (h : decls.Levelwise name) {own : List Member}
    {bases : List TypeExpr} (declared : decls.writtenMembers name = own)
    (extends_ : (decls.bequest name).bases = bases) :
    decls.withInheritance.PassedOnTo bases own
      (Member.append own (decls.inheritedMembers name bases)) := by
  rw [Levelwise, writtenMembers_withInheritance, declared, extends_] at h
  rw [PassedOnTo, h, Member.append_eq, Member.newMembers_eq]

/-- One walk over everything above a declaration is the same as inheriting level by level, where
supertypes form no cycles, every name is declared by one kind only, and names mean the same
wherever members are passed on to. -/
theorem isLevelwise_withInheritance (decls : Declarations) (fresh : decls.Fresh)
    (plain : decls.NoBareParameter) (once : decls.heirs.Nodup) (acyclic : decls.Acyclic)
    (hygienic : decls.Hygienic) : decls.IsLevelwise decls.withInheritance where
  interfaces := by
    rw [interfaces_withInheritance, List.forall₂_map_right_iff, List.forall₂_same]
    intro decl mem
    have found : decls.interface? decl.name = some decl :=
      decls.interfaceTable.find?_of_mem mem
    refine ⟨_, rfl, (levelwise fresh plain acyclic hygienic decl.name).passedOnTo ?_ ?_⟩
    · simp only [writtenMembers, found]
    · simp only [bequest, bequest?, found, Option.getD_some]
  classes := by
    rw [classes_withInheritance, List.forall₂_map_right_iff, List.forall₂_same]
    intro decl mem
    obtain ⟨_, _, apart⟩ := List.nodup_append.mp once
    have found : decls.class? decl.name = some decl := decls.classTable.find?_of_mem mem
    have noInterface : decls.interface? decl.name = none := by
      rw [interface?_eq, List.find?_eq_none]
      intro other inside same
      have named : other.name = decl.name := by simpa using same
      exact apart _ (List.mem_map_of_mem inside) _ (List.mem_map_of_mem mem) named
    refine ⟨_, rfl, (levelwise fresh plain acyclic hygienic decl.name).passedOnTo ?_ ?_⟩
    · simp only [writtenMembers, noInterface, found]
    · simp only [bequest, bequest?, noInterface, found, Option.getD_some]
  aliases := rfl
  enums := rfl

/-- A pair is a box of lists, and something with a name extends both, so it has two ways to the
box. -/
def boxes : Declarations :=
  .ofList
    [.interface ⟨"Named", default, [],
        [.reference "Pair" [.keyword "string"],
          .reference "Box" [.unwritten (.array (.keyword "string"))]], []⟩,
      .interface ⟨"Pair", default, [⟨"T", none, none⟩],
        [.reference "Box" [.unwritten (.array (.reference "T" []))]],
        [⟨"key", false, false, .property (some (.reference "T" [])), default, .own⟩]⟩,
      .interface ⟨"Box", default, [⟨"T", none, none⟩], [],
        [⟨"value", false, false, .property (some (.reference "T" [])), default, .own⟩]⟩]

/-- The supertypes in the example are these three. -/
theorem mem_bases_boxes {name : String} {base : TypeExpr}
    (mem : base ∈ (boxes.bequest name).bases) :
    (name = "Named" ∧ base = .reference "Pair" [.keyword "string"]) ∨
      (name = "Named" ∧ base = .reference "Box" [.unwritten (.array (.keyword "string"))]) ∨
        (name = "Pair" ∧ base = .reference "Box" [.unwritten (.array (.reference "T" []))]) := by
  have heir : name ∈ boxes.heirs := by
    by_contra other
    rw [bequest_bases_of_not_mem_heirs other] at mem
    cases mem
  have heirs : boxes.heirs = ["Named", "Pair", "Box"] := rfl
  have names : name = "Named" ∨ name = "Pair" ∨ name = "Box" := by simpa [heirs] using heir
  rcases names with rfl | rfl | rfl
  · rcases List.mem_cons.mp mem with rfl | mem
    · exact .inl ⟨rfl, rfl⟩
    · exact .inr (.inl ⟨rfl, List.mem_singleton.mp mem⟩)
  · exact .inr (.inr ⟨rfl, List.mem_singleton.mp mem⟩)
  · cases mem

/-- Who extends whom in the example. -/
theorem extends_boxes {name super : String} (h : boxes.Extends name super) :
    (name = "Named" ∧ super = "Pair") ∨ (name = "Named" ∧ super = "Box") ∨
      (name = "Pair" ∧ super = "Box") := by
  obtain ⟨base, mem, named⟩ := List.mem_filterMap.mp h
  rcases mem_bases_boxes mem with ⟨rfl, rfl⟩ | ⟨rfl, rfl⟩ | ⟨rfl, rfl⟩ <;>
    obtain rfl := Option.some.inj named
  · exact .inl ⟨rfl, rfl⟩
  · exact .inr (.inl ⟨rfl, rfl⟩)
  · exact .inr (.inr ⟨rfl, rfl⟩)

/-- In the example names mean the same wherever members are passed on to. -/
theorem hygienic_boxes : boxes.Hygienic where
  saturated name base mem super arguments shape := by
    rcases mem_bases_boxes mem with ⟨rfl, rfl⟩ | ⟨rfl, rfl⟩ | ⟨rfl, rfl⟩ <;> cases shape <;> decide
  free name super h member has parameter declared mentions := by
    rcases extends_boxes h with ⟨rfl, rfl⟩ | ⟨rfl, rfl⟩ | ⟨rfl, rfl⟩
    · cases declared
    · cases declared
    · exact ⟨parameter, declared, rfl⟩
  apart name base mem super arguments shape member has rebound rebinds argument given mentions := by
    -- no signature is in a box, and nothing is mentioned in the argument for a pair
    rcases mem_bases_boxes mem with ⟨rfl, rfl⟩ | ⟨rfl, rfl⟩ | ⟨rfl, rfl⟩ <;> cases shape
    · obtain rfl := List.mem_singleton.mp given
      cases mentions with
      | here shape => cases shape
      | part mem => cases mem
    all_goals
      have none : (boxes.bequest "Box").bases = [] := rfl
      rw [writtenMembers_withInheritance, none, inheritedMembers, ancestors_nil] at has
      obtain rfl := List.mem_singleton.mp has
      cases rebinds with
      | here mem declared =>
        obtain rfl := List.mem_singleton.mp mem
        cases declared
      | part mem inside =>
        obtain rfl := List.mem_singleton.mp mem
        cases inside with
        | here mem => cases mem
        | part mem => cases mem

/-- The example meets all conditions and inherits level by level. -/
theorem isLevelwise_boxes :
    boxes.Fresh ∧ boxes.NoBareParameter ∧ boxes.heirs.Nodup ∧ boxes.Acyclic ∧ boxes.Hygienic ∧
      boxes.IsLevelwise boxes.withInheritance := by
  have fresh : boxes.Fresh :=
    .ofList (by simp [Declaration.Fresh, Member.NoneInherited, Member.isInherited])
  have plain : boxes.NoBareParameter := by
    refine ⟨fun decl mem base extended parameter own => ?_, List.forall_mem_nil _⟩
    rcases List.mem_cons.mp mem with rfl | mem
    · cases own
    rcases List.mem_pair.mp mem with rfl | rfl
    · obtain rfl := List.mem_singleton.mp extended
      simp [TypeExpr.reference, TypeExpr.unwritten]
    · cases extended
  have once : boxes.heirs.Nodup := by decide
  have acyclic : boxes.Acyclic := Acyclic.of_rank String.length fun name super h => by
    rcases extends_boxes h with ⟨rfl, rfl⟩ | ⟨rfl, rfl⟩ | ⟨rfl, rfl⟩ <;> decide
  exact ⟨fresh, plain, once, acyclic, hygienic_boxes,
    isLevelwise_withInheritance boxes fresh plain once acyclic hygienic_boxes⟩

end Declarations

end TypeAtlas
