import Mathlib.Data.List.Nodup
import Graphide.Json

/-!
# The graph engine as the scan script sees it

Package `Joern`, file 1. The scan script (`src/unnamed/part_001`, `@main def execute`) talks to
Joern through a handful of calls; this file fixes what each call can answer.

* `Throwable`, `tryGetOrElse` — a JVM throwable and `Try { e }.getOrElse(d)`: `Try` catches the
  non-fatal throwables only (`NonFatal`), so a fatal one passes through it.
* `StoredNode`, `Location`, `RawResult` — what a query hands back. `RawResult.resultList` is the
  script's materialisation `rawResult match { case t: IterableOnce[_] => ... collect
  { case n: StoredNode => n } ... case _ => List.empty }`.
* `Cpg` — the loaded CPG `myCpg` as three calls, each of which may throw: a query of the list,
  `node.location`, and `myCpg.method.fullNameExact(name).code.headOption`.
* `Graph`, `Cpg.AnswersFor` — the method that encloses a node, which the script reaches through
  `node.location.methodFullName`: a graph's methods in `cpg.method` order and the enclosing
  method of each node, and the promise that the engine, when it answers at all, answers from
  that graph.

What a query computes (the nineteen traversals of the list) is not modelled: a query is its
answer, `Cpg.runQuery name`, and every theorem quantifies over every answer.
-/

namespace Graphide.Joern

/-- A JVM throwable as `scala.util.Try` sees it: `Try` catches it iff it is non-fatal
(`scala.util.control.NonFatal`: not a `VirtualMachineError`, `InterruptedException`,
`LinkageError` or `ControlThrowable`).
Source: `src/unnamed/part_001` l. 401–408, 415 (`Try`)
Kind: D -/
structure Throwable where
  message : String
  nonFatal : Bool
  deriving DecidableEq, Repr

/-- `Try { e }.getOrElse(d)`: the value, or `d` when `e` throws non-fatally; a fatal
throwable propagates.
Source: `src/unnamed/part_001` l. 401–408, 415
Kind: D
Fidelity: exact -/
def tryGetOrElse {α : Type} (e : Except Throwable α) (d : α) : Except Throwable α :=
  match e with
  | .ok a => .ok a
  | .error t => if t.nonFatal then .ok d else .error t

section tryGetOrElse

variable {α : Type} (d : α)

/-- Equation lemma: unfolds the definition on a constructor. Source: none: infrastructure. Kind: L
-/
@[simp] theorem tryGetOrElse_ok (a : α) : tryGetOrElse (.ok a) d = .ok a := rfl

/-- Equation lemma: unfolds the definition on a constructor. Source: none: infrastructure. Kind: L
-/
@[simp] theorem tryGetOrElse_error (t : Throwable) :
    tryGetOrElse (.error t) d = if t.nonFatal then .ok d else .error t := rfl

/-- A `Try` returns its body's value or the default. Source: none: infrastructure. Kind: L -/
theorem tryGetOrElse_eq_ok {e : Except Throwable α} {a : α} (h : tryGetOrElse e d = .ok a) :
    e = .ok a ∨ a = d := by
  cases e with
  | ok b => exact .inl h
  | error t =>
    by_cases hf : t.nonFatal
    · simp only [tryGetOrElse_error, hf, if_true, Except.ok.injEq] at h
      exact .inr h.symm
    · simp [hf] at h

end tryGetOrElse

/-- A method node: its identity, `fullName` and `code`.
Source: `src/unnamed/part_001` l. 403, 406 (`m.code`, `fullNameExact`, `.code`)
Kind: D -/
structure Method where
  id : Nat
  fullName : String
  code : String
  deriving DecidableEq, Repr

/-- A node a query may return (`StoredNode`): a method, or any other node, by identity. The
script tells the two apart (`case m: Method`) and reads nothing else of a node directly.
Source: `src/unnamed/part_001` l. 390–393, 402–407
Kind: D -/
inductive StoredNode
  | method (m : Method)
  | other (id : Nat)
  deriving DecidableEq, Repr

/-- The fields of `node.location` the script reads. `lineNumber` is the result of
`l.lineNumber.toString`: the engine's text for the line number, or what that call throws.
Source: `src/unnamed/part_001` l. 405, 411–415
Kind: D -/
structure Location where
  filename : String
  methodFullName : String
  lineNumber : Except Throwable String

/-- One element of what a query returns: a stored node, or any other value (a pair, a
string, ...), which the script's `collect { case n: StoredNode => n }` drops.
Source: `src/unnamed/part_001` l. 391
Kind: D -/
inductive QueryValue
  | node (n : StoredNode)
  | other
  deriving DecidableEq, Repr

/-- The value a query returns: something iterable (a traversal, a list, an iterator) with its
elements in order, or anything else.
Source: `src/unnamed/part_001` l. 386–393
Kind: D -/
inductive RawResult
  | iterable (xs : List QueryValue)
  | other
  deriving DecidableEq, Repr

/-- The stored node of a query value, if it is one. Source: none: infrastructure. Kind: D -/
def QueryValue.node? : QueryValue → Option StoredNode
  | .node n => some n
  | .other => none

/-- `resultList`: the stored nodes of an iterable result, in order; nothing for any other value.
Source: `src/unnamed/part_001` l. 390–393
Kind: D
Fidelity: exact -/
def RawResult.resultList : RawResult → List StoredNode
  | .iterable xs => xs.filterMap QueryValue.node?
  | .other => []

/-- The loaded CPG `myCpg`, by the three calls the script makes on it. Each may throw.
Source: `src/unnamed/part_001` l. 386, 405–406, 411
Kind: D -/
structure Cpg where
  /-- `query(myCpg)` for the query of this name, its result forced by `.toList`. -/
  runQuery : String → Except Throwable RawResult
  /-- `node.location`. -/
  location : StoredNode → Except Throwable Location
  /-- `myCpg.method.fullNameExact(name).code.headOption`. -/
  methodCodeHead : String → Except Throwable (Option String)

/-- The methods of a code property graph, in `cpg.method` order, and the method enclosing
each node (a method encloses itself; nodes outside every method have none).
Source: Joern's `METHOD` nodes and the `CONTAINS` edges `node.location` follows;
`src/unnamed/part_001` l. 402–406
Kind: D -/
structure Graph where
  methods : List Method
  enclosing : StoredNode → Option Method
  enclosing_mem : ∀ n m, enclosing n = some m → m ∈ methods
  enclosing_self : ∀ m ∈ methods, enclosing (.method m) = some m

/-- The first method of the graph with this full name: what `cpg.method.fullNameExact(name)`
followed by `headOption` reaches. Source: none: infrastructure. Kind: D -/
def Graph.firstByFullName (g : Graph) (name : String) : Option Method :=
  g.methods.find? (·.fullName == name)

/-- The engine answers from the graph `g`, whenever it answers: a method a query returns is
one of `g`'s, a location names the enclosing method's full name, and the full-name lookup
returns the code of the first method with that name; a node outside every method has a
location that names no method.
Source: Joern's contract for `node.location` and `fullNameExact`, as the script relies on it
(`src/unnamed/part_001` l. 405–406)
Kind: D -/
structure Cpg.AnswersFor (c : Cpg) (g : Graph) : Prop where
  query_methods : ∀ name raw m, c.runQuery name = .ok raw →
    StoredNode.method m ∈ raw.resultList → m ∈ g.methods
  location_fullName : ∀ n l m, c.location n = .ok l → g.enclosing n = some m →
    l.methodFullName = m.fullName
  location_outside : ∀ n l, c.location n = .ok l → g.enclosing n = none →
    g.firstByFullName l.methodFullName = none
  methodCodeHead_eq : ∀ name h, c.methodCodeHead name = .ok h →
    h = (g.firstByFullName name).map (·.code)

/-- With unique full names, the lookup by a method's full name finds that method. Source: none:
infrastructure. Kind: L -/
theorem Graph.firstByFullName_of_mem (g : Graph) (huniq : (g.methods.map (·.fullName)).Nodup)
    {m : Method} (hm : m ∈ g.methods) : g.firstByFullName m.fullName = some m := by
  unfold firstByFullName
  cases hf : g.methods.find? (·.fullName == m.fullName) with
  | none => exact absurd (List.find?_eq_none.mp hf m hm) (by simp)
  | some m' =>
    have hname : m'.fullName = m.fullName := by simpa using List.find?_some hf
    rw [List.inj_on_of_nodup_map huniq (List.mem_of_find?_eq_some hf) hm hname]

end Graphide.Joern
