import TypeAtlas.Proofs.Declarations.Members
import TypeAtlas.Proofs.Declarations.Names
import TypeAtlas.Proofs.Types.OfTree

/-!
# Types without members of one name

A type is unambiguous if no object type in it has two members of one name, however deep it is
(`TypeExpr.Unambiguous`). This is to obey the law that the members of an object type have distinct
names (`TypeExpr.unambiguous_iff_obeys`), so what is proved of all laws holds of it.

Adding members by name keeps their names distinct, whether they are pushed to a body
(`Member.nodup_map_name_ofParts`) or appended (`Member.nodup_map_name_append`). Hence the law holds
of what each node is read as (`Node.hasDistinctNames_toType`).
-/

set_option autoImplicit false

namespace TypeAtlas

/-- No object type has two members of one name, neither the type nor any type in it. -/
inductive TypeExpr.Unambiguous : TypeExpr → Prop
  | intro {type : TypeExpr}
      (distinct : ∀ members signatures, type.shape = .object members signatures →
        (members.map (·.name)).Nodup)
      (inner : ∀ other ∈ type.shape.inner, Unambiguous other) : Unambiguous type

/-- All types in the form of a member are unambiguous. -/
def MemberForm.Unambiguous (form : MemberForm) : Prop := ∀ type ∈ form.inner, type.Unambiguous

/-- All types in a member are unambiguous. -/
def Member.Unambiguous (member : Member) : Prop := member.form.Unambiguous

/-- The members have distinct names, and all types in them are unambiguous. -/
structure Member.AreUnambiguous (members : List Member) : Prop where
  distinct : (members.map (·.name)).Nodup
  each : ∀ member ∈ members, member.Unambiguous

/-! ### The law -/

/-- If a shape is that of an object type, its members have distinct names. -/
def TypeShape.HasDistinctNames (shape : TypeShape) : Prop :=
  ∀ members signatures, shape = .object members signatures → (members.map (·.name)).Nodup

/-- The members of an object type have distinct names. -/
def distinctNames : TypeLaw where
  shape := TypeShape.HasDistinctNames
  form _ := True

/-- A type is unambiguous exactly if it obeys the law of distinct names. -/
theorem TypeExpr.unambiguous_iff_obeys {type : TypeExpr} :
    type.Unambiguous ↔ type.Obeys distinctNames := by
  constructor <;> intro h
  · induction h with
    | intro distinct inner ih => exact .intro distinct (fun _ _ => trivial) ih
  · induction h with
    | intro distinct forms inner ih => exact .intro distinct ih

/-- A member is unambiguous exactly if it obeys the law of distinct names. -/
theorem Member.unambiguous_iff_obeys {member : Member} :
    member.Unambiguous ↔ member.Obeys distinctNames :=
  ⟨fun h => ⟨trivial, fun type mem => TypeExpr.unambiguous_iff_obeys.mp (h type mem)⟩,
    fun h type mem => TypeExpr.unambiguous_iff_obeys.mpr (h.inner type mem)⟩

/-- The members of an unambiguous object type are unambiguous. -/
theorem TypeExpr.Unambiguous.members {type : TypeExpr} (h : type.Unambiguous)
    {members : List Member} {signatures : List Signature}
    (shape : type.shape = .object members signatures) : Member.AreUnambiguous members := by
  cases h with
  | intro distinct inner =>
    refine ⟨distinct members signatures shape, fun member mem other inside => inner other ?_⟩
    rw [shape]
    exact TypeShape.mem_inner_object.mpr (.inl ⟨member, mem, inside⟩)

/-- The law of distinct names demands nothing of types that are made up, and members made of parts
meet it. -/
theorem TypeLaw.modest_distinctNames : distinctNames.Modest where
  keyword _ _ _ other := by cases other
  reference _ _ _ _ other := by cases other
  array _ _ _ other := by cases other
  function _ _ _ other := by cases other
  property _ := trivial
  getter _ := trivial
  setter _ := trivial
  method _ _ := trivial
  overloaded _ _ _ := trivial

/-- Putting types in place of type parameters changes no name. -/
theorem TypeLaw.kept_distinctNames : distinctNames.Kept fun _ _ => True where
  shape {shape bindings} _ distinct members signatures same := by
    cases shape <;> cases same
    rw [List.map_map]
    exact distinct _ _ rfl
  form _ := trivial
  parts _ _ _ := trivial

/-! ### Lists of members -/

namespace Member

/-- Members that are appended have names that were not taken. -/
theorem nodup_map_name_append {members : List Member} (h : (members.map (·.name)).Nodup)
    (more : List Member) : ((append members more).map (·.name)).Nodup := by
  rw [append_eq, List.map_append, List.nodup_append]
  refine ⟨h, nodup_map_name_newMembers _ _, fun name taken other new same => ?_⟩
  exact (mem_map_name_newMembers.mp new).2 (same ▸ taken)

/-- The members of a body have distinct names. -/
theorem nodup_map_name_ofParts (parts : List (Option Member)) :
    ((ofParts parts).map (·.name)).Nodup := by
  unfold ofParts
  refine List.foldlRecOn (motive := fun members : List Member => (members.map (·.name)).Nodup)
    parts _ ?_ fun members distinct part _ => ?_
  · exact .nil
  · cases part with
    | none => exact distinct
    | some member =>
      simp only [pushTo_eq]
      exact nodup_map_name_addNamed name_overloaded member distinct

end Member

/-- Every type that is read from a node has distinct names, for members are made of parts by
name. -/
theorem Node.hasDistinctNames_toType (node : Node) : node.toType.shape.HasDistinctNames := by
  intro members signatures shape
  rw [(node.readAs_bare.object members signatures shape).2]
  exact Member.nodup_map_name_ofParts _

end TypeAtlas
