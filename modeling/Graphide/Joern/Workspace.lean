import Mathlib.Data.List.Nodup
import Graphide.Joern.Cpg

/-!
# The Joern workspace

Package `Joern`, file 2. The script addresses the workspace by project name only
(`workspace.project(name)`, `workspace.deleteProject(name)`, `importCode(..., projectName)`).

* `Workspace` — the projects, at most one per name (`names_nodup`), each stamped with the
  serial of the import that created it; serials are fresh (`serial_lt`), so a project is told
  apart from a later one of the same name.
* `Workspace.project`, `Workspace.deleteProject`, `Workspace.createProject` — the three
  operations. Deleting an absent name changes nothing (Joern prints an error and returns
  `None`); creating a project over an existing name replaces it, since a workspace holds one
  project per name.
-/

namespace Graphide.Joern

/-- A project: its name, the input it was imported from, and the serial of that import.
Source: `src/unnamed/part_001` l. 51, 61–66
Kind: D -/
structure Project where
  name : String
  inputPath : String
  serial : Nat
  deriving DecidableEq, Repr

/-- The workspace: one project per name, serials below `nextSerial`.
Source: `src/unnamed/part_001` l. 61–66, 433 (`workspace`)
Kind: D -/
structure Workspace where
  projects : List Project
  nextSerial : Nat
  names_nodup : (projects.map Project.name).Nodup
  serial_lt : ∀ p ∈ projects, p.serial < nextSerial

namespace Workspace

/-- The empty workspace. Source: none: infrastructure. Kind: D -/
def empty : Workspace := ⟨[], 0, List.nodup_nil, fun _ h => absurd h (List.not_mem_nil _)⟩

/-- `workspace.project(name)`.
Source: `src/unnamed/part_001` l. 61
Kind: D
Fidelity: exact -/
def project (ws : Workspace) (name : String) : Option Project :=
  ws.projects.find? (·.name == name)

/-- The projects of every other name. Source: none: infrastructure. Kind: D -/
def others (ws : Workspace) (name : String) : List Project :=
  ws.projects.filter (·.name != name)

/-- The other projects have distinct names. Source: none: infrastructure. Kind: L -/
theorem others_names_nodup (ws : Workspace) (name : String) :
    ((ws.others name).map Project.name).Nodup :=
  ws.names_nodup.sublist (List.Sublist.map _ (List.filter_sublist _))

/-- Another project has another name. Source: none: infrastructure. Kind: L -/
theorem name_ne_of_mem_others {ws : Workspace} {name : String} {p : Project}
    (h : p ∈ ws.others name) : p.name ≠ name := by
  simpa [others] using (List.mem_filter.mp h).2

/-- `workspace.deleteProject(name)`: the project of that name is removed; nothing happens when
there is none.
Source: `src/unnamed/part_001` l. 62, 433
Kind: D
Fidelity: exact -/
def deleteProject (ws : Workspace) (name : String) : Workspace where
  projects := ws.others name
  nextSerial := ws.nextSerial
  names_nodup := ws.others_names_nodup name
  serial_lt p hp := ws.serial_lt p (List.mem_filter.mp hp).1

/-- The project `importCode(inputPath, name)` creates: it takes the next serial and replaces
any project of that name.
Source: `src/unnamed/part_001` l. 66
Kind: D -/
def createProject (ws : Workspace) (name inputPath : String) : Workspace where
  projects := ws.others name ++ [⟨name, inputPath, ws.nextSerial⟩]
  nextSerial := ws.nextSerial + 1
  names_nodup := by
    rw [List.map_append, List.nodup_append]
    refine ⟨ws.others_names_nodup name, List.nodup_singleton _, ?_⟩
    simp only [List.map_cons, List.map_nil, List.disjoint_singleton, List.mem_map, not_exists,
      not_and]
    exact fun p hp => name_ne_of_mem_others hp
  serial_lt p hp := by
    rcases List.mem_append.mp hp with h | h
    · exact Nat.lt_succ_of_lt (ws.serial_lt p (List.mem_filter.mp h).1)
    · simp only [List.mem_singleton] at h
      subst h
      exact Nat.lt_succ_self _

/-- After `deleteProject(name)` there is no project of that name. Source: none:
infrastructure. Kind: L -/
@[simp] theorem project_deleteProject_self (ws : Workspace) (name : String) :
    (ws.deleteProject name).project name = none := by
  simp [project, deleteProject, others, List.find?_eq_none]

/-- After `importCode(path, name)` the project of that name is the new one. Source: none:
infrastructure. Kind: L -/
@[simp] theorem project_createProject_self (ws : Workspace) (name path : String) :
    (ws.createProject name path).project name = some ⟨name, path, ws.nextSerial⟩ := by
  have : (ws.others name).find? (·.name == name) = none := by
    simp [others, List.find?_eq_none]
  simp [project, createProject, List.find?_append, this]

/-- Whether the project of serial `s` is still in the workspace (its CPG is still loaded).
Source: none: infrastructure
Kind: D -/
def holds (ws : Workspace) (s : Nat) : Bool :=
  ws.projects.any (·.serial == s)

/-- The project an import creates holds the serial it was given. Source: none:
infrastructure. Kind: L -/
@[simp] theorem holds_createProject_self (ws : Workspace) (name path : String) :
    (ws.createProject name path).holds ws.nextSerial = true := by
  simp [holds, createProject]

end Workspace

end Graphide.Joern
