import Graphide.Joern.Findings
import Graphide.Joern.Interleave

/-!
# Two scans on one workspace

Package `Joern`, file 8. Two runs of `execute`, of different inputs and output files, against
one Joern server: their atomic steps interleave on its one workspace, and both address the
project by the fixed name `projectName`.

* `OwnEntry`, `OwnEffect`, `OwnStep` — what belongs to a run: an entry built from a node of the
  CPG of the run's own input (loaded, or closed after its project left the workspace); an
  effect whose queries name that CPG, whose write goes to the run's own output file and lists
  own entries only, whose deletes and imports are of `projectName`; a step that changes the
  workspace only by deleting `projectName` or importing the run's own input under it.
* `sat_execute` — every step of `execute`, from every world, is an `OwnStep`: the step
  lemmas per action (`sat_importCode`, `sat_runQuery_own`, `sat_report_own`, ...) assembled by
  the rules of `Proc.Sat`.
* **The interleaving contract** (`interleaved_steps_are_own`): under every schedule, every move
  of either run is an `OwnStep` of that run.
* `cleanup_deletes_running_import` — what the contract allows, and isolation would not: a
  schedule in which the second run's stale-project cleanup deletes the project the first run
  imported, while the first run is still running.
-/

namespace Graphide.Joern

/-! ## What belongs to a run -/

/-- An entry built from a node of the CPG of `inputPath`, loaded or closed.
Source: `src/unnamed/part_001` l. 399–416
Kind: D -/
def OwnEntry (E : Engine) (inputPath : String) (e : Entry) : Prop :=
  ∃ loaded nodes, FirstEntry (E.cpg inputPath loaded) nodes e.parentFunctionCode e

/-- An effect a run of `execute inputPath outputFile` may perform.
Source: `src/unnamed/part_001` l. 58–67, 386, 425, 433
Kind: D -/
def OwnEffect (E : Engine) (inputPath outputFile : String) : Effect → Prop
  | .println _ => True
  | .deleteProject name => name = projectName
  | .importCode source name => source = inputPath ∧ name = projectName
  | .query source _ => source = inputPath
  | .writeOver path contents => path = outputFile ∧
      ∃ es : List Entry, contents = .arr (es.map Entry.toJson) ∧ ∀ e ∈ es, OwnEntry E inputPath e

/-- A step a run of `execute inputPath outputFile` may take: the workspace is left, or loses
its project of `projectName`, or gets `inputPath` imported under `projectName`; and the effects
appended are the run's own.
Source: `src/unnamed/part_001` l. 49–434
Kind: D -/
def OwnStep (E : Engine) (inputPath outputFile : String) (w w' : World) : Prop :=
  (w'.workspace = w.workspace ∨ w'.workspace = w.workspace.deleteProject projectName ∨
    w'.workspace = w.workspace.createProject projectName inputPath) ∧
  ∃ es, w'.effects = w.effects ++ es ∧ ∀ e ∈ es, OwnEffect E inputPath outputFile e

/-- The map holds own entries only. Source: none: infrastructure. Kind: D -/
def OwnMap (E : Engine) (inputPath : String) (uf : LinkedMap Entry) : Prop :=
  ∀ k e, (k, e) ∈ uf.entries → OwnEntry E inputPath e

/-! ## Each step of `execute` is the run's own -/

section Steps

variable (E : Engine) (inputPath outputFile : String)

/-- Recording an effect of the run's own is its own step. Source: none: infrastructure. Kind: L -/
theorem ownStep_emit (w : World) {e : Effect} (he : OwnEffect E inputPath outputFile e) :
    OwnStep E inputPath outputFile w (w.emit e) :=
  ⟨.inl rfl, [e], rfl, by simpa using he⟩

/-- Standing still is the run's own step. Source: none: infrastructure. Kind: L -/
theorem ownStep_refl (w : World) : OwnStep E inputPath outputFile w w :=
  ⟨.inl rfl, [], by simp, by simp⟩

/-- `println` takes own steps only. Source: `src/unnamed/part_001` l. 58, 65, 67, 379, 428–431.
Kind: L -/
theorem sat_println_own (line : String) :
    Proc.Sat (OwnStep E inputPath outputFile) (fun _ => True) (println line) :=
  .step _ _ (fun w => ownStep_emit E inputPath outputFile w trivial) fun _ => .ret trivial

/-- `deleteProject(projectName)` takes own steps only. Source: `src/unnamed/part_001` l. 62, 433.
Kind: L -/
theorem sat_deleteProject_own :
    Proc.Sat (OwnStep E inputPath outputFile) (fun _ => True) (deleteProject projectName) :=
  .step _ _ (fun w => ⟨.inr (.inl rfl), [.deleteProject projectName], rfl, by simp [OwnEffect]⟩)
    fun _ => .ret trivial

/-- The cleanup takes own steps only. Source: `src/unnamed/part_001` l. 60–63. Kind: L -/
theorem sat_cleanup_own : Proc.Sat (OwnStep E inputPath outputFile) (fun _ => True) cleanup := by
  refine .step _ _ (ownStep_refl E inputPath outputFile) fun w => ?_
  refine Proc.Sat.bind (.ret (Q := fun _ => True) trivial) fun b _ => ?_
  cases b
  · exact .ret trivial
  · exact sat_deleteProject_own E inputPath outputFile

/-- The import: the workspace gets the input under `projectName` (or is left, when nothing
was created), and the handle returned is of the run's own input.
Source: `src/unnamed/part_001` l. 66
Kind: L -/
theorem sat_importCode :
    Proc.Sat (OwnStep E inputPath outputFile) (fun h => h.inputPath = inputPath)
      (importCode E inputPath projectName) := by
  refine .step _ _ (fun w => ⟨?_, [.importCode inputPath projectName], by simp,
    by simp [OwnEffect]⟩) fun w => ?_
  · rw [importedWorld_workspace]
    split
    exacts [.inr (.inr rfl), .inl rfl]
  · split
    exacts [.ret rfl, .error _]

/-- One query on the run's own CPG keeps the map own. Source: `src/unnamed/part_001`
l. 384–420. Kind: L -/
theorem sat_runQuery_own (myCpg : CpgHandle) (hcpg : myCpg.inputPath = inputPath)
    (uf : LinkedMap Entry) (huf : OwnMap E inputPath uf) (name : String) :
    Proc.Sat (OwnStep E inputPath outputFile) (OwnMap E inputPath) (runQuery E myCpg uf name) := by
  refine .step _ _ (fun w => ownStep_emit E inputPath outputFile w hcpg) fun w => .lift _ ?_
  intro uf' h
  obtain ⟨raw, -, h⟩ := except_bind_eq_ok.mp h
  intro k e he
  rcases collectResults_entries h k e he with he | hfirst
  · exact huf k e he
  · exact ⟨_, _, hfirst.code_eq ▸ hcpg ▸ hfirst⟩

/-- The write lists the map's values, own entries only, and goes to the run's output file.
Source: `src/unnamed/part_001` l. 421–431
Kind: L -/
theorem sat_report_own (uf : LinkedMap Entry) (huf : OwnMap E inputPath uf) :
    Proc.Sat (OwnStep E inputPath outputFile) (fun _ => True) (report E outputFile uf) := by
  have hwrite : OwnEffect E inputPath outputFile (.writeOver outputFile (jsonResult uf)) := by
    refine ⟨rfl, uf.values, rfl, fun e he => ?_⟩
    obtain ⟨⟨k, e⟩, hke, rfl⟩ := List.mem_map.mp he
    exact huf k e hke
  refine Proc.Sat.bind (.step _ _ (fun w => ownStep_emit E inputPath outputFile w hwrite)
    fun _ => .lift _ fun _ _ => trivial) fun _ _ => ?_
  refine (sat_println_own E inputPath outputFile _).bind fun _ _ =>
    (sat_println_own E inputPath outputFile _).bind fun _ _ => ?_
  split
  · exact sat_println_own E inputPath outputFile _
  · exact .ret trivial

/-- **Every step of `execute` is the run's own.**
Source: `src/unnamed/part_001` l. 49–434
Kind: L -/
theorem sat_execute :
    Proc.Sat (OwnStep E inputPath outputFile) (fun _ => True) (execute E inputPath outputFile) := by
  refine (sat_println_own E inputPath outputFile _).bind fun _ _ =>
    (sat_cleanup_own E inputPath outputFile).bind fun _ _ =>
    (sat_println_own E inputPath outputFile _).bind fun _ _ =>
    (sat_importCode E inputPath outputFile).bind fun myCpg hcpg =>
    (sat_println_own E inputPath outputFile _).bind fun _ _ =>
    (sat_println_own E inputPath outputFile _).bind fun _ _ =>
    (Proc.Sat.foldlM (fun uf name huf => sat_runQuery_own E inputPath outputFile myCpg hcpg uf huf
      name) queries _ fun k e he => ?_).bind fun uf huf =>
    (sat_report_own E inputPath outputFile uf huf).bind fun _ _ =>
    sat_deleteProject_own E inputPath outputFile
  cases he

end Steps

/-! ## Two runs -/

/-- **The interleaving contract.** Whatever the schedule of two runs of `execute` on one
workspace, every move of either run is that run's own step: its queries evaluate the CPG its
own import built, its write goes to its own output file and lists only entries built from
that CPG's nodes, and it changes the workspace only by deleting `projectName` or importing
its own input under that name — whichever run's project stands there.
Source: `src/unnamed/part_001` l. 49–434
Kind: P -/
theorem interleaved_steps_are_own (E : Engine) (inputA outputA inputB outputB : String)
    (w : World) (s : List Bool) :
    ∀ m ∈ ((Config.mk (execute E inputA outputA) (execute E inputB outputB) w).run s).2,
      m.Obeys (OwnStep E inputA outputA) (OwnStep E inputB outputB) :=
  Config.run_obeys s _ (sat_execute E inputA outputA) (sat_execute E inputB outputB)

/-- The contract at a schedule that crosses the two imports: the first run imports `a.c`, the
second deletes that project and imports `b.c`, and the first goes on with its queries while
`b.c`'s project stands; every move is its own run's step. Source: none: a test input. Kind: N+ -/
theorem interleaved_steps_are_own_crossed_imports :
    let moves := ((Config.mk (execute twoHelpers "a.c" "a.json") (execute twoHelpers "b.c" "b.json")
      ⟨.empty, []⟩).run
        (List.replicate 4 true ++ List.replicate 5 false ++ List.replicate 4 true)).2
    moves.map (fun m => (m.left, m.after.workspace.projects.map (·.inputPath))) =
        [(true, []), (true, []), (true, []), (true, ["a.c"]), (false, ["a.c"]), (false, ["a.c"]),
          (false, []), (false, []), (false, ["b.c"]), (true, ["b.c"]), (true, ["b.c"]),
          (true, ["b.c"]), (true, ["b.c"])] ∧
      ∀ m ∈ moves,
        m.Obeys (OwnStep twoHelpers "a.c" "a.json") (OwnStep twoHelpers "b.c" "b.json") :=
  ⟨rfl, interleaved_steps_are_own twoHelpers "a.c" "a.json" "b.c" "b.json" ⟨.empty, []⟩ _⟩

/-- Not isolated: the first run checks the workspace and imports `a.c`; the second run starts,
finds a project under `projectName` and deletes it, while the first run is still running.
Source: `src/unnamed/part_001` l. 51, 60–66
Kind: N− -/
theorem cleanup_deletes_running_import :
    ¬ ∀ (E : Engine) (inputA outputA inputB outputB : String) (s : List Bool),
      inputA ≠ inputB →
      let c := ((Config.mk (execute E inputA outputA) (execute E inputB outputB)
        ⟨.empty, []⟩).run s).1
      c.left.isDone = false → (∃ p ∈ c.world.workspace.projects, p.inputPath = inputA) →
        ∃ p ∈ (c.step false).1.world.workspace.projects, p.inputPath = inputA := fun h =>
  absurd (h twoHelpers "a.c" "a.json" "b.c" "b.json" [true, true, true, true, false, false]
    (by decide) rfl (by decide)) (by decide)

end Graphide.Joern
