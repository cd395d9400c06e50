/-!
# Directories

Files and folders by the steps of their paths.
-/

namespace StylePrune

namespace CommandLine

/-- The steps of a path; an absolute one starts with an empty step. -/
abbrev Steps := List String

/-- The files and the folders that a program can see. -/
structure Directory where
  files : List (Steps × String)
  folders : List Steps
  deriving BEq, DecidableEq, Repr

namespace Directory

/-- Drops the steps that lead nowhere. -/
def plainSteps : Steps → Steps
  | [] => []
  | first :: rest =>
      let rest := rest.filter fun s => s ≠ "" ∧ s ≠ "."
      if first = "." then rest else first :: rest

/-- The steps of a path; `none` if it cannot name a file. -/
def stepsOf? (path : String) : Option Steps :=
  let steps := path.splitOn "/"
  match steps.getLast? with
  | none => none
  | some last => if last = "" ∨ last = "." ∨ last = ".." then none else some (plainSteps steps)

def foldersTo (steps : Steps) : List Steps :=
  (List.range steps.length).map steps.take

def ofList (files : List (String × String)) : Directory :=
  let files := files.filterMap fun (path, content) =>
    (stepsOf? path).map fun steps => (steps, content)
  ⟨files, [] :: files.flatMap fun f => foldersTo f.1⟩

def read? (d : Directory) (path : String) : Option String := do
  let steps ← stepsOf? path
  let file ← d.files.find? fun f => f.1 == steps
  return file.2

/-- The directory with a file that has this content; `none` if there cannot be such a file. -/
def write? (d : Directory) (path content : String) : Option Directory := do
  let steps ← stepsOf? path
  if d.folders.contains steps || !d.folders.contains steps.dropLast then none
  else if d.files.any fun f => f.1 == steps then
    return { d with files := d.files.map fun f => if f.1 == steps then (f.1, content) else f }
  else return { d with files := d.files ++ [(steps, content)] }

/-- The files that are new, or whose content is another one than before. -/
def changesSince (d before : Directory) : List (String × String) :=
  (d.files.filter fun f => !before.files.contains f).map fun f =>
    (String.intercalate "/" f.1, f.2)

end Directory

end CommandLine

end StylePrune
