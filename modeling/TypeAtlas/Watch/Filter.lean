import TypeAtlas.Path

/-!
Which changed files count. A filter answers alike for all spellings of a path.
-/

set_option autoImplicit false

namespace TypeAtlas.Watch

/-- A choice of files. -/
inductive Filter where
  /-- All files with an extension of sources. -/
  | sources
  /-- One file. -/
  | target (path : Path)

namespace Filter

/-- The extensions of sources. -/
def sourceExtensions : List String := ["ts", "tsx", "mts", "cts"]

/-- Whether a filter lets a path through. -/
def accepts : Filter → Path → Bool
  | .sources, path => path.extension?.any sourceExtensions.contains
  | .target chosen, path => path.same chosen

end Filter

end TypeAtlas.Watch
