import CanaryMining.Lib.Text

/-!
# Paths

Unix paths as the lists of their components, which is what two paths are compared by:
repeated and trailing separators and components `.` that are not the first one make no
difference.

## Main definitions

* `PathBuf` — a path.
* `PathBuf.ofText` — the path a text spells.
* `PathBuf.join`, `PathBuf.extension` — a file in a directory, and the end of its name.
-/

namespace CanaryMining

/-- A component of a path. -/
inductive Component
  | rootDir
  | curDir
  | parentDir
  | normal (name : Text)
  deriving DecidableEq, Repr

/-- A path. -/
structure PathBuf where
  components : List Component
  deriving DecidableEq, Repr

namespace PathBuf

/-- The component a piece between separators stands for, if it is not the first one. -/
def component? (piece : Text) : Option Component :=
  if piece = [] ∨ piece = ".".toList then none
  else if piece = "..".toList then some .parentDir
  else some (.normal piece)

/-- The path a text spells. -/
def ofText (s : Text) : PathBuf :=
  let pieces := s.splitOn '/'
  let start := if s.head? = some '/' then [Component.rootDir]
    else if pieces.head? = some ".".toList then [.curDir] else []
  ⟨start ++ pieces.filterMap component?⟩

/-- `Path::join` with a plain file name. -/
def join (dir : PathBuf) (name : Text) : PathBuf := ⟨dir.components ++ [.normal name]⟩

/-- `Path::file_name`. -/
def fileName (path : PathBuf) : Option Text :=
  match path.components.getLast? with
  | some (.normal name) => some name
  | _ => none

/-- `Path::extension`: what follows the last dot of the file name, if that is not its
first character. -/
def extension (path : PathBuf) : Option Text :=
  path.fileName.bind fun name =>
    match Text.splitOnce '.' name.reverse with
    | none => none
    | some (after, before) => if before = [] then none else some after.reverse

theorem length_components_join (dir : PathBuf) (name : Text) :
    (dir.join name).components.length = dir.components.length + 1 := by
  simp [join]

/-- A file lies deeper than the directories it is reached through. -/
theorem length_components_foldl_join (dir : PathBuf) (names : List Text) :
    dir.components.length ≤ (names.foldl join dir).components.length := by
  induction names generalizing dir with
  | nil => exact le_refl _
  | cons name names ih =>
    have hle := ih (dir.join name)
    rw [length_components_join] at hle
    rw [List.foldl_cons]
    omega

example : (ofText "/root//.bitcoin/./node.sock/".toList).extension = some "sock".toList := by
  decide

example : (ofText "/run/.sock".toList).extension = none := by decide

end PathBuf

end CanaryMining
