import Graphide.Joern.Script

/-!
# When the scan script deletes its project

Package `Joern`, file 5. `execute` deletes the imported project in one place, its last line
(l. 433); nothing in it (no `try`/`finally`) runs that line when an earlier call throws. The
only other delete is the `// Cleanup` at the start (l. 60–63), which removes a project left
under the name by an earlier run before importing.

* `Quiet` — a step that leaves the workspace alone and performs neither a delete nor an
  import. `println`, each query step, the query loop and `report` are quiet
  (`sat_collectAll`, `sat_report`), so all of `afterImport` but its last line is.
* `afterImport_deletes` — after the import, `deleteProject(projectName)` is performed once if
  the rest returns normally and never if it throws; the workspace is then left as the import
  left it.
* **The cleanup contract** (`execute_deletes_once_iff_returns`): when `importCode` created the
  project, `execute` deletes it after the import exactly once if it returns and not at all if
  it throws; after a throw the project is still in the workspace, and the next `execute`, of
  any input, deletes it before its own import.
* `execute_leaks_on_query_throw` — the same at one input: a query that throws leaves the
  project behind, so "deleted exactly once on every exit path" is false.
-/

namespace Graphide.Joern

/-! ## What a run performs -/

/-- Whether an effect is a call of `importCode`. Source: none: infrastructure. Kind: D -/
def Effect.isImport : Effect → Bool
  | .importCode _ _ => true
  | _ => false

/-- The effects a program performs when run alone from `w`.
Source: none: infrastructure
Kind: D -/
def Proc.performed {α : Type} (x : Proc α) (w : World) : List Effect :=
  (x.run w).1.effects.drop w.effects.length

/-- How many of the effects are `deleteProject(projectName)`. Source: none: infrastructure.
Kind: D -/
def deletes (es : List Effect) : Nat := (es.filter (·.isDeleteOf projectName)).length

/-- How many `deleteProject(projectName)` follow the first `importCode`.
Source: none: infrastructure
Kind: D -/
def deletesAfterImport (es : List Effect) : Nat := deletes ((es.dropWhile (!·.isImport)).drop 1)

/-- Whether a `deleteProject(projectName)` comes before the first `importCode`.
Source: none: infrastructure
Kind: D -/
def deletesBeforeImport (es : List Effect) : Bool :=
  (es.takeWhile (!·.isImport)).any (·.isDeleteOf projectName)

/-- No effect deletes nothing. Source: none: infrastructure. Kind: L -/
@[simp] theorem deletes_nil : deletes [] = 0 := rfl

/-- Deletes add up over appended effects. Source: none: infrastructure. Kind: L -/
@[simp] theorem deletes_append (es fs : List Effect) :
    deletes (es ++ fs) = deletes es + deletes fs := by
  simp [deletes]

/-- `deleteProject(projectName)` is one delete. Source: `src/unnamed/part_001` l. 62, 433. Kind: L
-/
@[simp] theorem deletes_deleteProject : deletes [.deleteProject projectName] = 1 := by
  simp [deletes, Effect.isDeleteOf]

/-! ## Quiet steps -/

/-- A step that leaves the workspace as it was and performs neither a delete nor an import.
Source: none: infrastructure
Kind: D -/
def Quiet (w w' : World) : Prop :=
  w'.workspace = w.workspace ∧ ∃ es, w'.effects = w.effects ++ es ∧
    ∀ e ∈ es, e.isDeleteOf projectName = false ∧ e.isImport = false

/-- Standing still is quiet. Source: none: infrastructure. Kind: L -/
theorem Quiet.refl (w : World) : Quiet w w := ⟨rfl, [], by simp, by simp⟩

/-- Two quiet steps in a row are quiet. Source: none: infrastructure. Kind: L -/
theorem Quiet.trans {a b c : World} (h₁ : Quiet a b) (h₂ : Quiet b c) : Quiet a c := by
  obtain ⟨hw₁, es₁, he₁, hq₁⟩ := h₁
  obtain ⟨hw₂, es₂, he₂, hq₂⟩ := h₂
  refine ⟨hw₂.trans hw₁, es₁ ++ es₂, by rw [he₂, he₁, List.append_assoc], ?_⟩
  intro e he
  rcases List.mem_append.mp he with h | h
  exacts [hq₁ e h, hq₂ e h]

/-- Emitting a line, a query or a write is quiet. Source: none: infrastructure. Kind: L -/
theorem quiet_emit (w : World) {e : Effect} (hd : e.isDeleteOf projectName = false)
    (hi : e.isImport = false) : Quiet w (w.emit e) :=
  ⟨rfl, [e], rfl, by simpa using ⟨hd, hi⟩⟩

/-- `println` is quiet. Source: `src/unnamed/part_001` l. 58, 65, 67, 379, 428–431. Kind: L -/
theorem sat_println (line : String) : Proc.Sat Quiet (fun _ => True) (println line) :=
  .step _ _ (fun w => quiet_emit w rfl rfl) fun _ => .ret trivial

/-- Running one query is quiet, whatever it returns. Source: `src/unnamed/part_001` l. 384–420.
Kind: L -/
theorem sat_runQuery (E : Engine) (myCpg : CpgHandle) (uf : LinkedMap Entry) (name : String) :
    Proc.Sat Quiet (fun _ => True) (runQuery E myCpg uf name) :=
  .step _ _ (fun w => quiet_emit w rfl rfl) fun _ => .lift _ fun _ _ => trivial

/-- The loop over the queries is quiet. Source: `src/unnamed/part_001` l. 381–420. Kind: L -/
theorem sat_collectAll (E : Engine) (myCpg : CpgHandle) :
    Proc.Sat Quiet (fun _ => True) (collectAll E myCpg) :=
  Proc.Sat.foldlM (fun uf name _ => sat_runQuery E myCpg uf name) _ _ trivial

/-- Writing the output file is quiet. Source: `src/unnamed/part_001` l. 424–425. Kind: L -/
theorem sat_writeOver (E : Engine) (path : String) (contents : Json) :
    Proc.Sat Quiet (fun _ => True) (writeOver E path contents) :=
  .step _ _ (fun w => quiet_emit w rfl rfl) fun _ => .lift _ fun _ _ => trivial

/-- Writing the output and printing the summary is quiet. Source: `src/unnamed/part_001` l. 421–431.
Kind: L -/
theorem sat_report (E : Engine) (outputFile : String) (uf : LinkedMap Entry) :
    Proc.Sat Quiet (fun _ => True) (report E outputFile uf) := by
  refine (sat_writeOver E outputFile _).bind fun _ _ => (sat_println _).bind fun _ _ =>
    (sat_println _).bind fun _ _ => ?_
  split
  · exact sat_println _
  · exact .ret trivial

/-- A quiet program, run alone, leaves the workspace and adds no delete and no import.
Source: none: infrastructure
Kind: L -/
theorem Quiet.run {α : Type} {Q : α → Prop} {x : Proc α} (hx : Proc.Sat Quiet Q x) (w : World) :
    Quiet w (x.run w).1 :=
  (hx.run_of_preorder Quiet.refl (fun _ _ _ => Quiet.trans) w).1

/-! ## After the import -/

/-- `afterImport` up to its last line, the `deleteProject`.
Source: `src/unnamed/part_001` l. 67–431
Kind: D -/
def beforeDelete (E : Engine) (outputFile : String) (myCpg : CpgHandle) : Proc Unit := do
  println "[-] CPG Loaded."
  println s!"Queries loaded successfully. Total queries: {queries.length}"
  let uniqueFunctions ← collectAll E myCpg
  report E outputFile uniqueFunctions

/-- `afterImport` is `beforeDelete` followed by the `deleteProject`. Source: `src/unnamed/part_001`
l. 67–433. Kind: L -/
theorem afterImport_eq (E : Engine) (outputFile : String) (myCpg : CpgHandle) :
    afterImport E outputFile myCpg =
      (beforeDelete E outputFile myCpg).bind fun _ => deleteProject projectName := by
  simp only [afterImport, beforeDelete, Proc.bind_eq, Proc.bind_assoc]

/-- Everything after the import and before its `deleteProject` is quiet. Source:
`src/unnamed/part_001` l. 67–431. Kind: L -/
theorem sat_beforeDelete (E : Engine) (outputFile : String) (myCpg : CpgHandle) :
    Proc.Sat Quiet (fun _ => True) (beforeDelete E outputFile myCpg) :=
  (sat_println _).bind fun _ _ => (sat_println _).bind fun _ _ =>
    (sat_collectAll E myCpg).bind fun uf _ => sat_report E outputFile uf

/-- Effects that are neither deletes nor imports delete nothing. Source: none: infrastructure. Kind:
L -/
theorem deletes_eq_zero {es : List Effect} (h : ∀ e ∈ es, e.isDeleteOf projectName = false ∧
    e.isImport = false) : deletes es = 0 := by
  simp only [deletes, List.length_eq_zero, List.filter_eq_nil_iff]
  exact fun e he => by simp [(h e he).1]

/-- After the import, the project is deleted once if the rest returns and never if it throws;
a throw leaves the workspace as the import left it.
Source: `src/unnamed/part_001` l. 67–434
Kind: L -/
theorem afterImport_deletes (E : Engine) (outputFile : String) (myCpg : CpgHandle) (w : World) :
    let r := (afterImport E outputFile myCpg).run w
    ∃ es, r.1.effects = w.effects ++ es ∧ deletes es = (if r.2.isOk then 1 else 0) ∧
      (r.2.isOk = false → r.1.workspace = w.workspace) := by
  obtain ⟨hws, es, hes, hq⟩ := Quiet.run (sat_beforeDelete E outputFile myCpg) w
  rw [afterImport_eq, Proc.run_bind]
  rcases h : (beforeDelete E outputFile myCpg).run w with ⟨w₁, _ | _⟩ <;>
    simp only [h] at hws hes
  · exact ⟨es, hes, by simp [deletes_eq_zero hq, Except.isOk, Except.toBool], fun _ => hws⟩
  · refine ⟨es ++ [.deleteProject projectName], ?_, ?_, fun h => by cases h⟩
    · simp [deleteProject, hes]
    · simp [deleteProject, deletes_eq_zero hq, Except.isOk, Except.toBool]

/-! ## The whole script -/

/-- What `execute` prints and deletes before `importCode`: the analysing line, a delete when a
project is left under the name, the importing line.
Source: `src/unnamed/part_001` l. 58–65
Kind: D -/
def prologue (inputPath : String) (w : World) : List Effect :=
  [.println s!"[-] Analyzing: {inputPath}"] ++
    (if (w.workspace.project projectName).isSome then [.deleteProject projectName] else []) ++
    [.println "[-] Importing code..."]

/-- The world just before `importCode`. Source: `src/unnamed/part_001` l. 58–65. Kind: D -/
def beforeImport (inputPath : String) (w : World) : World where
  workspace := if (w.workspace.project projectName).isSome then
    w.workspace.deleteProject projectName else w.workspace
  effects := w.effects ++ prologue inputPath w

/-- The cleanup deletes the project and records it exactly when the project is defined. Source:
`src/unnamed/part_001` l. 60–63. Kind: L -/
theorem run_cleanup (w : World) : cleanup.run w =
    (if (w.workspace.project projectName).isSome then
      { w with workspace := w.workspace.deleteProject projectName }.emit
        (.deleteProject projectName)
    else w, .ok ()) := by
  by_cases h : (w.workspace.project projectName).isSome <;>
    simp [cleanup, projectIsDefined, deleteProject, Proc.run_bind, h]

/-- `execute`, run alone: the prologue, the import, and `afterImport` when the import loaded.
Source: `src/unnamed/part_001` l. 49–434
Kind: L -/
theorem run_execute (E : Engine) (inputPath outputFile : String) (w : World) :
    (execute E inputPath outputFile).run w =
      match E.importCode inputPath with
      | .loaded => (afterImport E outputFile
          ⟨inputPath, (beforeImport inputPath w).workspace.nextSerial⟩).run
            (importedWorld E inputPath projectName (beforeImport inputPath w))
      | .failed t _ =>
        (importedWorld E inputPath projectName (beforeImport inputPath w), .error t) := by
  rw [execute_eq]
  by_cases h : (w.workspace.project projectName).isSome <;>
  · simp only [Proc.bind_eq, Proc.run_bind, println, Proc.run_step, Proc.pure_eq, Proc.run_done,
      run_cleanup, World.emit_workspace, h]
    cases hi : E.importCode inputPath <;>
      simp [importCode, hi, beforeImport, prologue, World.emit, h, List.append_assoc]

/-- The import records itself. Source: `src/unnamed/part_001` l. 66. Kind: L -/
@[simp] theorem importedWorld_effects (E : Engine) (path name : String) (w : World) :
    (importedWorld E path name w).effects = w.effects ++ [.importCode path name] := by
  unfold importedWorld; split <;> rfl

/-- The import creates the project exactly when the engine says the import creates it. Source:
`src/unnamed/part_001` l. 66. Kind: L -/
theorem importedWorld_workspace (E : Engine) (path name : String) (w : World) :
    (importedWorld E path name w).workspace =
      if (E.importCode path).creates then w.workspace.createProject name path else w.workspace := by
  unfold importedWorld; split <;> simp [*]

/-- The prologue performs no import. Source: `src/unnamed/part_001` l. 58–65. Kind: L -/
theorem prologue_not_import (inputPath : String) (w : World) :
    ∀ e ∈ prologue inputPath w, (!e.isImport) = true := by
  unfold prologue; split <;> simp [Effect.isImport]

/-- The deletes after the import are those of what follows it. Source: none: infrastructure. Kind: L
-/
theorem deletesAfterImport_prologue (inputPath : String) (w : World) (rest : List Effect) :
    deletesAfterImport (prologue inputPath w ++ .importCode inputPath projectName :: rest) =
      deletes rest := by
  rw [deletesAfterImport, List.dropWhile_append_of_pos (prologue_not_import inputPath w)]
  simp [Effect.isImport]

/-- Every run of `execute` performs the prologue, then `importCode`, then the rest, which
deletes the project once if the run returns and never if it throws; a throw leaves the
workspace as the import left it.
Source: `src/unnamed/part_001` l. 58–434
Kind: L -/
theorem performed_execute (E : Engine) (inputPath outputFile : String) (w : World) :
    ∃ rest, (execute E inputPath outputFile).performed w =
        prologue inputPath w ++ .importCode inputPath projectName :: rest ∧
      deletes rest = (if ((execute E inputPath outputFile).run w).2.isOk then 1 else 0) ∧
      (((execute E inputPath outputFile).run w).2.isOk = false →
        ((execute E inputPath outputFile).run w).1.workspace =
          (importedWorld E inputPath projectName (beforeImport inputPath w)).workspace) := by
  rw [Proc.performed, run_execute]
  cases E.importCode inputPath with
  | loaded =>
    obtain ⟨es, hes, hdel, hws⟩ := afterImport_deletes E outputFile
      ⟨inputPath, (beforeImport inputPath w).workspace.nextSerial⟩
      (importedWorld E inputPath projectName (beforeImport inputPath w))
    exact ⟨es, by rw [hes]; simp [beforeImport], hdel, hws⟩
  | failed t c => exact ⟨[], by simp [beforeImport], rfl, fun _ => rfl⟩

/-- A run that starts on a workspace holding a project under the name deletes it before its
own import. Source: `src/unnamed/part_001` l. 60–63. Kind: L -/
theorem deletesBeforeImport_of_stale (E : Engine) (inputPath outputFile : String) (w : World)
    (h : (w.workspace.project projectName).isSome) :
    deletesBeforeImport ((execute E inputPath outputFile).performed w) = true := by
  obtain ⟨rest, hr, -⟩ := performed_execute E inputPath outputFile w
  rw [hr, deletesBeforeImport, List.takeWhile_append_of_pos (prologue_not_import inputPath w)]
  simp [prologue, h, Effect.isDeleteOf]

/-- **The cleanup contract of `execute`.** When `importCode` created the project,
`deleteProject(projectName)` is performed after the import exactly once if `execute` returns
and not at all if it throws. After a throw the imported project is still in the workspace,
and the next `execute`, of any input, deletes it before its own import.
Source: `src/unnamed/part_001` l. 60–67, 384–434
Kind: P -/
theorem execute_deletes_once_iff_returns (E : Engine) (inputPath outputFile : String) (w : World)
    (hc : (E.importCode inputPath).creates = true) :
    let r := (execute E inputPath outputFile).run w
    deletesAfterImport ((execute E inputPath outputFile).performed w) =
        (if r.2.isOk then 1 else 0) ∧
      (r.2.isOk = false →
        (r.1.workspace.project projectName).map (·.inputPath) = some inputPath ∧
        ∀ (E' : Engine) (inputPath' outputFile' : String),
          deletesBeforeImport ((execute E' inputPath' outputFile').performed r.1) = true) := by
  obtain ⟨rest, hr, hdel, hws⟩ := performed_execute E inputPath outputFile w
  refine ⟨by rw [hr, deletesAfterImport_prologue, hdel], fun hf => ?_⟩
  have hproj : (((execute E inputPath outputFile).run w).1.workspace.project projectName).map
      (·.inputPath) = some inputPath := by
    rw [hws hf]; simp [importedWorld_workspace, hc]
  refine ⟨hproj, fun E' p' o' => deletesBeforeImport_of_stale E' p' o' _ ?_⟩
  cases hp : ((execute E inputPath outputFile).run w).1.workspace.project projectName <;> simp_all

/-- An engine that loads every input, whose queries all throw, and whose writes succeed.
Source: none: a test input
Kind: D -/
def queryThrows : Engine where
  importCode _ := .loaded
  cpg _ _ := ⟨fun _ => .error ⟨"query failed", true⟩, fun _ => .error ⟨"no location", true⟩,
    fun _ => .error ⟨"no method", true⟩⟩
  writeOver _ _ := .ok ()

/-- The contract at one input: a run whose first query throws. Source: none: a test input.
Kind: N+ -/
theorem execute_deletes_once_iff_returns_at_query_throw :
    (queryThrows.importCode "g.c").creates = true ∧
      let r := (execute queryThrows "g.c" "/tmp/out.json").run ⟨.empty, []⟩
      deletesAfterImport ((execute queryThrows "g.c" "/tmp/out.json").performed ⟨.empty, []⟩) =
          (if r.2.isOk then 1 else 0) ∧
        (r.2.isOk = false →
          (r.1.workspace.project projectName).map (·.inputPath) = some "g.c" ∧
          ∀ (E' : Engine) (inputPath' outputFile' : String),
            deletesBeforeImport ((execute E' inputPath' outputFile').performed r.1) = true) :=
  ⟨rfl, execute_deletes_once_iff_returns queryThrows "g.c" "/tmp/out.json" ⟨.empty, []⟩ rfl⟩

/-- Not every exit path deletes the imported project: when the first query throws, `execute`
propagates the throw with the project still imported and no `deleteProject` after the import.
Source: `src/unnamed/part_001` l. 384–386, 433
Kind: N− -/
theorem execute_leaks_on_query_throw :
    ¬ ∀ (E : Engine) (inputPath outputFile : String) (w : World),
      (E.importCode inputPath).creates = true →
        deletesAfterImport ((execute E inputPath outputFile).performed w) = 1 := fun h =>
  absurd (h queryThrows "g.c" "/tmp/out.json" ⟨.empty, []⟩ rfl) (by decide)

end Graphide.Joern
