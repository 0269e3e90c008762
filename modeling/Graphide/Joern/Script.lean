import Graphide.Joern.Workspace
import Graphide.Joern.Extract

/-!
# The scan script, step by step

Package `Joern`, file 4. `execute` of `src/unnamed/part_001`, as a program of atomic steps on a
shared world.

* `World`, `Effect` — the workspace, and every call the script makes that leaves a trace: a
  printed line, `deleteProject`, `importCode`, a query evaluated on a CPG, `os.write.over`.
* `Proc` — a program as a tree of atomic steps: `step act next` reads the world `w`, leaves
  `act w`, and continues as `next w`; `done r` has returned or thrown. `Proc.run` runs one program
  alone; `Interleave.lean` runs two against one world. A `Proc` is a monad, so `execute` is
  written as the source is.
* `Engine` — Joern's side: what `importCode` does with an input, the answers of the CPG it
  builds (while its project is loaded, and after it was closed), and `os.write.over`. Every
  theorem quantifies over every engine.
* `execute` — the script: `cleanup`, `importCode`, `collectAll` (the `queries.foreach` loop),
  `report` (the JSON written and the summary printed), `deleteProject`. Each query, with the
  processing of its result, is one step.
* `Proc.Sat P Q x` — every step of `x` from every world satisfies `P pre post` and every
  value it returns satisfies `Q`; rules `Sat.ret`, `Sat.bind`, `Sat.foldlM`.

Not modelled: `val n = 10` (unused), and the text `ujson.write(_, indent = 2)` makes of the
result: the written effect carries the `ujson` value itself.
-/

namespace Graphide.Joern

/-! ## World and effects -/

/-- A call the script makes that leaves a trace.
Source: `src/unnamed/part_001` l. 58–67, 379, 386, 425–433
Kind: D -/
inductive Effect
  | println (line : String)
  | deleteProject (name : String)
  | importCode (inputPath name : String)
  /-- A query of the list evaluated on the CPG built from `source`. -/
  | query (source name : String)
  | writeOver (path : String) (contents : Json)

/-- Whether an effect is `deleteProject(name)`. Source: none: infrastructure. Kind: D -/
def Effect.isDeleteOf (name : String) : Effect → Bool
  | .deleteProject n => n == name
  | _ => false

/-- The world the script acts on: the Joern workspace and the effects so far, oldest first.
Source: none: infrastructure
Kind: D -/
structure World where
  workspace : Workspace
  effects : List Effect

/-- Record one effect. Source: none: infrastructure. Kind: D -/
def World.emit (w : World) (e : Effect) : World := { w with effects := w.effects ++ [e] }

/-- Recording an effect leaves the workspace. Source: none: infrastructure. Kind: L -/
@[simp] theorem World.emit_workspace (w : World) (e : Effect) :
    (w.emit e).workspace = w.workspace := rfl

/-- Recording an effect appends it. Source: none: infrastructure. Kind: L -/
@[simp] theorem World.emit_effects (w : World) (e : Effect) :
    (w.emit e).effects = w.effects ++ [e] := rfl

/-! ## Programs of atomic steps -/

/-- A program of atomic steps on the world, returning an `α` or throwing.
Source: none: infrastructure (the script's sequential semantics)
Kind: D -/
inductive Proc (α : Type)
  | done (r : Except Throwable α)
  | step (act : World → World) (next : World → Proc α)

namespace Proc

variable {α β : Type}

/-- Sequencing: run `x`, then `k` on what it returned; a throw skips `k`.
Source: none: infrastructure
Kind: D -/
def bind : Proc α → (α → Proc β) → Proc β
  | .done (.ok a), k => k a
  | .done (.error t), _ => .done (.error t)
  | .step act next, k => .step act fun w => (next w).bind k

instance : Monad Proc where
  pure a := .done (.ok a)
  bind := Proc.bind

/-- A returned value is a finished program. Source: none: infrastructure. Kind: L -/
@[simp] theorem pure_eq (a : α) : (pure a : Proc α) = .done (.ok a) := rfl

/-- The monad's sequencing is `Proc.bind`. Source: none: infrastructure. Kind: L -/
@[simp] theorem bind_eq (x : Proc α) (k : α → Proc β) : x >>= k = x.bind k := rfl

/-- A returned value is passed on. Source: none: infrastructure. Kind: L -/
@[simp] theorem bind_ok (a : α) (k : α → Proc β) : (Proc.done (.ok a)).bind k = k a := rfl

/-- A throw skips the rest. Source: none: infrastructure. Kind: L -/
@[simp] theorem bind_error (t : Throwable) (k : α → Proc β) :
    (Proc.done (.error t) : Proc α).bind k = .done (.error t) := rfl

/-- A step is taken before the rest. Source: none: infrastructure. Kind: L -/
@[simp] theorem bind_step (act : World → World) (next : World → Proc α) (k : α → Proc β) :
    (Proc.step act next).bind k = .step act fun w => (next w).bind k := rfl

/-- Sequencing is associative. Source: none: infrastructure. Kind: L -/
theorem bind_assoc {γ : Type} (x : Proc α) (f : α → Proc β) (g : β → Proc γ) :
    (x.bind f).bind g = x.bind fun a => (f a).bind g := by
  induction x with
  | done r => cases r <;> rfl
  | step act next ih => simp only [bind_step, ih]

/-- Run a program alone, from a world, to its final world and outcome.
Source: none: infrastructure
Kind: D -/
def run : Proc α → World → World × Except Throwable α
  | .done r, w => (w, r)
  | .step act next, w => (next w).run (act w)

/-- A finished program leaves the world. Source: none: infrastructure. Kind: L -/
@[simp] theorem run_done (r : Except Throwable α) (w : World) : (Proc.done r).run w = (w, r) := rfl

/-- A step acts on the world, and the rest runs on what it left. Source: none: infrastructure. Kind:
L -/
@[simp] theorem run_step (act : World → World) (next : World → Proc α) (w : World) :
    (Proc.step act next).run w = (next w).run (act w) := rfl

/-- Running a sequence runs its first part, then the rest on the world it left. Source: none:
infrastructure. Kind: L -/
theorem run_bind (x : Proc α) (k : α → Proc β) (w : World) :
    (x.bind k).run w =
      match x.run w with
      | (w', .ok a) => (k a).run w'
      | (w', .error t) => (w', .error t) := by
  induction x generalizing w with
  | done r => cases r <;> rfl
  | step act next ih => exact ih w (act w)

/-! ### Every step satisfies `P`, every result `Q` -/

/-- Every step of the program, from any world, satisfies `P` (of the worlds before and after),
and every value it returns satisfies `Q`.
Source: none: infrastructure
Kind: D -/
inductive Sat (P : World → World → Prop) (Q : α → Prop) : Proc α → Prop
  | ok (a : α) : Q a → Sat P Q (.done (.ok a))
  | error (t : Throwable) : Sat P Q (.done (.error t))
  | step (act : World → World) (next : World → Proc α) :
      (∀ w, P w (act w)) → (∀ w, Sat P Q (next w)) → Sat P Q (.step act next)

variable {P : World → World → Prop} {Q : α → Prop} {R : β → Prop}

/-- A returned value that satisfies `Q` satisfies the program. Source: none: infrastructure. Kind: L
-/
theorem Sat.ret {a : α} (h : Q a) : Sat P Q (pure a) := .ok a h

/-- A finished program whose value, if any, satisfies `Q`. Source: none: infrastructure. Kind: L -/
theorem Sat.lift (r : Except Throwable α) (h : ∀ a, r = .ok a → Q a) : Sat P Q (.done r) := by
  cases r with
  | ok a => exact .ok a (h a rfl)
  | error t => exact .error t

/-- The sequencing rule. Source: none: infrastructure. Kind: L -/
theorem Sat.bind {x : Proc α} {k : α → Proc β} (hx : Sat P Q x) (hk : ∀ a, Q a → Sat P R (k a)) :
    Sat P R (x >>= k) := by
  induction hx with
  | ok a h => exact hk a h
  | error t => exact .error t
  | step act next hs _ ih => exact .step act _ hs ih

/-- The loop rule: an invariant `I` of the accumulator that each iteration keeps. Source: none:
infrastructure. Kind: L -/
theorem Sat.foldlM {γ : Type} {I : β → Prop} {f : β → γ → Proc β}
    (hf : ∀ b c, I b → Sat P I (f b c)) : ∀ (l : List γ) (b : β), I b → Sat P I (l.foldlM f b)
  | [], _, hb => .ret hb
  | c :: l, b, hb => (hf b c hb).bind fun b' hb' => Sat.foldlM hf l b' hb'

/-- Run alone, a program whose steps satisfy a preorder `P` goes from `w` to a world `P`-after
`w`, and returns a value satisfying `Q`. Source: none: infrastructure. Kind: L -/
theorem Sat.run_of_preorder {x : Proc α} (hx : Sat P Q x) (hrefl : ∀ w, P w w)
    (htrans : ∀ a b c, P a b → P b c → P a c) (w : World) :
    P w (x.run w).1 ∧ ∀ a, (x.run w).2 = .ok a → Q a := by
  induction hx generalizing w with
  | ok a h => exact ⟨hrefl w, fun a' h' => by cases h'; exact h⟩
  | error t => exact ⟨hrefl w, fun _ h => by cases h⟩
  | step act next hs _ ih =>
    obtain ⟨h₁, h₂⟩ := ih w (act w)
    exact ⟨htrans _ _ _ (hs w) h₁, h₂⟩

end Proc

/-! ## The engine -/

/-- What `importCode` does with an input: load it, or throw, having created the project or not.
Source: `src/unnamed/part_001` l. 66
Kind: D -/
inductive ImportOutcome
  | loaded
  | failed (t : Throwable) (created : Bool)

/-- Whether `importCode` left a project in the workspace. Source: none: infrastructure. Kind: D -/
def ImportOutcome.creates : ImportOutcome → Bool
  | .loaded => true
  | .failed _ created => created

/-- Joern's side of the script, as an oracle.
Source: `src/unnamed/part_001` l. 66, 386, 405–406, 411, 425
Kind: D -/
structure Engine where
  /-- What `importCode(inputPath, projectName)` does with this input. -/
  importCode : String → ImportOutcome
  /-- The answers of the CPG built from an input, while its project is loaded (`true`) and
  after a `deleteProject` or another import closed it (`false`). -/
  cpg : String → Bool → Cpg
  /-- `os.write.over(os.Path(outputFile), ...)`. -/
  writeOver : String → Json → Except Throwable Unit

/-- The script's handle `myCpg`: the input its CPG was built from and the serial of its project.
Source: `src/unnamed/part_001` l. 66
Kind: D -/
structure CpgHandle where
  inputPath : String
  serial : Nat

/-! ## The script's steps -/

/-- `println(line)`. Source: `src/unnamed/part_001` l. 58, 65, 67, 379, 428–431. Kind: D -/
def println (line : String) : Proc Unit :=
  .step (·.emit (.println line)) fun _ => pure ()

/-- `workspace.project(name).isDefined`. Source: `src/unnamed/part_001` l. 61. Kind: D -/
def projectIsDefined (name : String) : Proc Bool :=
  .step id fun w => pure (w.workspace.project name).isSome

/-- `workspace.deleteProject(name)`. Source: `src/unnamed/part_001` l. 62, 433. Kind: D -/
def deleteProject (name : String) : Proc Unit :=
  .step (fun w => { w with workspace := w.workspace.deleteProject name }.emit (.deleteProject name))
    fun _ => pure ()

/-- The world `importCode(path, name)` leaves. Source: `src/unnamed/part_001` l. 66. Kind: D -/
def importedWorld (E : Engine) (path name : String) (w : World) : World :=
  if (E.importCode path).creates then
    { w with workspace := w.workspace.createProject name path }.emit (.importCode path name)
  else w.emit (.importCode path name)

/-- `importCode(inputPath = path, projectName = name)`.
Source: `src/unnamed/part_001` l. 66
Kind: D
Fidelity: exact -/
def importCode (E : Engine) (path name : String) : Proc CpgHandle :=
  .step (importedWorld E path name) fun w =>
    match E.importCode path with
    | .loaded => pure ⟨path, w.workspace.nextSerial⟩
    | .failed t _ => .done (.error t)

/-- `query(myCpg)` and the loop body over its result, as one step: the CPG answers as loaded
while its project is still in the workspace.
Source: `src/unnamed/part_001` l. 384–420
Kind: D
Fidelity: exact -/
def runQuery (E : Engine) (myCpg : CpgHandle) (uniqueFunctions : LinkedMap Entry)
    (name : String) : Proc (LinkedMap Entry) :=
  .step (·.emit (.query myCpg.inputPath name)) fun w =>
    let cpg := E.cpg myCpg.inputPath (w.workspace.holds myCpg.serial)
    .done ((cpg.runQuery name).bind (collectResults cpg uniqueFunctions))

/-- `os.write.over(os.Path(outputFile), ujson.write(jsonResult, indent = 2))`.
Source: `src/unnamed/part_001` l. 424–425
Kind: D -/
def writeOver (E : Engine) (path : String) (contents : Json) : Proc Unit :=
  .step (·.emit (.writeOver path contents)) fun _ => .done (E.writeOver path contents)

/-! ## `execute` -/

/-- The fixed project name. Source: `src/unnamed/part_001` l. 51. Kind: D -/
def projectName : String := "vuln_scan_final"

/-- The names of the queries, in the order of the list.
Source: `src/unnamed/part_001` l. 69–377
Kind: D -/
def queries : List String :=
  ["call-to-gets", "call-to-getwd", "call-to-scanf", "call-to-strcat", "call-to-strcpy",
    "call-to-strtok", "file-operation-race", "format-controlled-printf", "free-returned-value",
    "malloc-memcpy-int-overflow", "setgid-without-setgroups", "setuid-without-setgid",
    "strlen-truncation", "strncpy-no-null-term", "call-to-exec", "ineffective-certificate-check",
    "simple-constant-detection", "sql-injection", "xss-servlet"]

/-- `// Cleanup`: delete a project left under the name.
Source: `src/unnamed/part_001` l. 60–63
Kind: D
Fidelity: exact -/
def cleanup : Proc Unit := do
  if (← projectIsDefined projectName) then
    deleteProject projectName

/-- The `queries.foreach` loop, from an empty `uniqueFunctions`.
Source: `src/unnamed/part_001` l. 381–420
Kind: D
Fidelity: exact -/
def collectAll (E : Engine) (myCpg : CpgHandle) : Proc (LinkedMap Entry) :=
  queries.foldlM (runQuery E myCpg) LinkedMap.empty

/-- `jsonResult`: the entries, in insertion order, as a `ujson.Arr`.
Source: `src/unnamed/part_001` l. 422
Kind: D -/
def jsonResult (uniqueFunctions : LinkedMap Entry) : Json :=
  .arr (uniqueFunctions.values.map Entry.toJson)

/-- Write the result and print the summary.
Source: `src/unnamed/part_001` l. 421–431
Kind: D
Fidelity: exact -/
def report (E : Engine) (outputFile : String) (uniqueFunctions : LinkedMap Entry) : Proc Unit := do
  writeOver E outputFile (jsonResult uniqueFunctions)
  let foundIssues := uniqueFunctions.size
  println s!"\n[+] Results saved to: {outputFile}"
  println s!"[!] Total unique functions: {foundIssues}"
  if foundIssues == 0 then println "[+] No vulnerabilities found."

/-- `@main def execute(inputPath, outputFile)`.
Source: `src/unnamed/part_001` l. 49–434
Kind: D
Fidelity: exact -/
def execute (E : Engine) (inputPath outputFile : String) : Proc Unit := do
  let path := inputPath
  println s!"[-] Analyzing: {path}"
  cleanup
  println "[-] Importing code..."
  let myCpg ← importCode E path projectName
  println "[-] CPG Loaded."
  println s!"Queries loaded successfully. Total queries: {queries.length}"
  let uniqueFunctions ← collectAll E myCpg
  report E outputFile uniqueFunctions
  deleteProject projectName

/-- The part of `execute` after `importCode` has returned `myCpg`.
Source: `src/unnamed/part_001` l. 67–434
Kind: D -/
def afterImport (E : Engine) (outputFile : String) (myCpg : CpgHandle) : Proc Unit := do
  println "[-] CPG Loaded."
  println s!"Queries loaded successfully. Total queries: {queries.length}"
  let uniqueFunctions ← collectAll E myCpg
  report E outputFile uniqueFunctions
  deleteProject projectName

/-- `execute` is its prologue, the import, and `afterImport`. Source: none: infrastructure.
Kind: L -/
theorem execute_eq (E : Engine) (inputPath outputFile : String) :
    execute E inputPath outputFile =
      (println s!"[-] Analyzing: {inputPath}" >>= fun _ => cleanup >>= fun _ =>
        println "[-] Importing code..." >>= fun _ =>
        importCode E inputPath projectName >>= afterImport E outputFile) := rfl

end Graphide.Joern
