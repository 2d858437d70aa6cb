import TypeAtlas.Model.Basic

/-!
What changed between two lists of models.
-/

set_option autoImplicit false

namespace TypeAtlas

/-- The ids of the models that changed between two lists. -/
structure ModelDiff where
  /-- In the later list only, in its order. -/
  added : List String
  /-- In the earlier list only, in its order. -/
  removed : List String
  /-- In both lists but not equal, in the order of the later one. -/
  changed : List String
deriving DecidableEq, Repr

namespace ModelDiff

/-- The differences between two lists of models. Of two models with one id in the earlier list,
the first is compared with. -/
def between (previous current : List Model) : ModelDiff where
  added := (current.filter fun model => (Model.find? previous model.id).isNone).map (·.id)
  removed := (previous.filter fun model => (Model.find? current model.id).isNone).map (·.id)
  changed := (current.filter fun model =>
    (Model.find? previous model.id).any (· != model)).map (·.id)

def isEmpty (diff : ModelDiff) : Bool :=
  diff.added.isEmpty && diff.removed.isEmpty && diff.changed.isEmpty

/-- The differences on one line: each id after a sign for what happened to it. -/
def render (diff : ModelDiff) : String :=
  if diff.isEmpty then "no changes"
  else
    " ".intercalate
      (diff.added.map ("+" ++ ·) ++ diff.removed.map ("-" ++ ·) ++ diff.changed.map ("~" ++ ·))

end ModelDiff

end TypeAtlas
