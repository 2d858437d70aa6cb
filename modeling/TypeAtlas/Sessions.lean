import TypeAtlas.Files.Fault
import TypeAtlas.Model.Diff
import TypeAtlas.Model.Extraction
import TypeAtlas.Watch.Batch

/-!
The models of several files while the files change.

The models of a path are those of the last text given for it. A change batch is applied path by
path: a file that is there gives its text, one that is gone is forgotten, and one that cannot be
read keeps the models it has.
-/

set_option autoImplicit false

namespace TypeAtlas

/-- What is known of a file. -/
structure Session where
  /-- The settings that its texts are read with: those it was first read with. -/
  config : ExtractConfig
  /-- The models of its last text. -/
  models : List Model

namespace Session

/-- A file with its first text. -/
def ofText (text : String) (config : ExtractConfig) : Session := ⟨config, Model.ofText text config⟩

/-- A file with a further text. -/
def read (session : Session) (text : String) : Session :=
  { session with models := Model.ofText text session.config }

end Session

/-- The files that are known, each path once. -/
structure Sessions where
  files : List (Path × Session)

namespace Sessions

/-- No file is known. -/
def empty : Sessions := ⟨[]⟩

/-- What is known of a path. -/
def session? (sessions : Sessions) (path : Path) : Option Session :=
  (sessions.files.find? fun file => file.1.same path).map (·.2)

/-- The models of a path, which has none if it is not known. -/
def models (sessions : Sessions) (path : Path) : List Model :=
  match sessions.session? path with
  | some session => session.models
  | none => []

/-- Forgets a path. -/
def erase (sessions : Sessions) (path : Path) : Sessions :=
  ⟨sessions.files.filter fun file => !file.1.same path⟩

/-- Replaces what is known of a path. -/
def insert (sessions : Sessions) (path : Path) (session : Session) : Sessions :=
  ⟨(path, session) :: (sessions.erase path).files⟩

/-- Takes the new text of a path, or forgets the path if there is none. A path that is known keeps
its settings. -/
def update (sessions : Sessions) (path : Path) (text : Option String) (config : ExtractConfig) :
    Sessions :=
  match text with
  | none => sessions.erase path
  | some text =>
    match sessions.session? path with
    | some session => sessions.insert path (session.read text)
    | none => sessions.insert path (.ofText text config)

/-- What an update changes: all models of a path are added with its first text and removed when it
is forgotten, and in between those of one text are compared with those of the next. -/
def diff (sessions : Sessions) (path : Path) (text : Option String) (config : ExtractConfig) :
    ModelDiff :=
  match text, sessions.session? path with
  | none, some session => .between session.models []
  | none, none => .between [] []
  | some text, some session => .between session.models (session.read text).models
  | some text, none => .between [] (Session.ofText text config).models

/-- A change of a file: its text, or the reason why it cannot be read. -/
def change (sessions : Sessions) (path : Path) (content : Except Files.Fault String)
    (config : ExtractConfig) : Sessions :=
  match content with
  | .ok text => sessions.update path (some text) config
  | .error .notFound => sessions.update path none config
  | .error _ => sessions

/-- Applies a change batch, given what reading each path yields. -/
def applyBatch (sessions : Sessions) (read : Path → Except Files.Fault String)
    (batch : Watch.Batch) (config : ExtractConfig) : Sessions :=
  batch.paths.foldl (fun sessions path => sessions.change path (read path) config) sessions

end Sessions

end TypeAtlas
