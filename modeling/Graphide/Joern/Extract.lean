import Mathlib.Data.List.Nodup
import Graphide.Joern.Cpg

/-!
# Collecting the parent functions of flagged nodes

Package `Joern`, file 3. The body of `queries.foreach` in the scan script
(`src/unnamed/part_001` l. 384–420), without the query call itself, which talks to the engine
and lives in `Script.lean`.

* `LinkedMap` — `scala.collection.mutable.LinkedHashMap[String, _]`: entries in insertion order,
  keys distinct (`keys_nodup`); `update` replaces in place or appends.
* `Entry`, `Entry.toJson` — the `ujson.Obj` written per function.
* `parentMethodCode` — the `Try { node match ... }.getOrElse("N/A")` of l. 401–408.
* `collectNode`, `collectResults` — one node, and one query's `resultList`
  (`if (resultList.nonEmpty) resultList.foreach ...`).
* Step facts: how a node's parent code is found
  (`parentMethodCode_other`, for a node that is not a method). `Findings.lean` builds the loop's
  invariant and the output's specification on them.
-/

namespace Graphide.Joern

/-! ## `LinkedHashMap[String, _]` -/

/-- An insertion-ordered map with string keys.
Source: `src/unnamed/part_001` l. 382 (`scala.collection.mutable.LinkedHashMap`)
Kind: D -/
structure LinkedMap (α : Type) where
  entries : List (String × α)
  keys_nodup : (entries.map Prod.fst).Nodup

namespace LinkedMap

variable {α : Type}

/-- The empty map. Source: `src/unnamed/part_001` l. 382. Kind: D -/
def empty : LinkedMap α := ⟨[], List.nodup_nil⟩

/-- The keys, in insertion order. Source: none: infrastructure. Kind: D -/
def keys (m : LinkedMap α) : List String := m.entries.map Prod.fst

/-- `values`, in insertion order. Source: `src/unnamed/part_001` l. 422. Kind: D -/
def values (m : LinkedMap α) : List α := m.entries.map Prod.snd

/-- `size`. Source: `src/unnamed/part_001` l. 427. Kind: D -/
def size (m : LinkedMap α) : Nat := m.entries.length

/-- `contains`. Source: `src/unnamed/part_001` l. 410. Kind: D -/
def contains (m : LinkedMap α) (k : String) : Bool := m.keys.contains k

/-- `update`: the entry of `k` gets the new value in place, or `(k, v)` is appended.
Source: `src/unnamed/part_001` l. 412 (`uniqueFunctions(parentMethodCode) = ...`)
Kind: D
Fidelity: exact -/
def update (m : LinkedMap α) (k : String) (v : α) : LinkedMap α :=
  if h : m.contains k then
    ⟨m.entries.map (fun e => if e.1 = k then (k, v) else e), by
      have hk : (m.entries.map (fun e => if e.1 = k then (k, v) else e)).map Prod.fst =
          m.entries.map Prod.fst := by
        rw [List.map_map]
        exact List.map_congr_left fun e _ => by by_cases he : e.1 = k <;> simp [he]
      rw [hk]
      exact m.keys_nodup⟩
  else
    ⟨m.entries ++ [(k, v)], by
      rw [List.map_append, List.nodup_append]
      refine ⟨m.keys_nodup, List.nodup_singleton _, ?_⟩
      simpa only [List.map_cons, List.map_nil, List.disjoint_singleton, contains, keys,
        List.elem_eq_mem, decide_eq_true_eq] using h⟩

/-- The empty map has no key. Source: none: infrastructure. Kind: L -/
@[simp] theorem keys_empty : (empty : LinkedMap α).keys = [] := rfl

/-- The size of a map is the number of its keys. Source: none: infrastructure. Kind: L -/
@[simp] theorem size_eq_length_keys (m : LinkedMap α) : m.size = m.keys.length := by
  simp [size, keys]

/-- A map contains exactly its keys. Source: none: infrastructure. Kind: L -/
theorem contains_iff (m : LinkedMap α) (k : String) : m.contains k = true ↔ k ∈ m.keys := by
  simp [contains]

/-- A map does not contain what is not one of its keys. Source: none: infrastructure. Kind: L -/
theorem contains_eq_false (m : LinkedMap α) (k : String) :
    m.contains k = false ↔ k ∉ m.keys := by
  rw [← contains_iff]; simp

/-- Updating an absent key appends it. Source: none: infrastructure. Kind: L -/
theorem entries_update_of_not_contains {m : LinkedMap α} {k : String} (h : m.contains k = false)
    (v : α) : (m.update k v).entries = m.entries ++ [(k, v)] := by
  simp [update, h]

/-- Updating an absent key appends it to the keys. Source: none: infrastructure. Kind: L -/
theorem keys_update_of_not_contains {m : LinkedMap α} {k : String} (h : m.contains k = false)
    (v : α) : (m.update k v).keys = m.keys ++ [k] := by
  simp [keys, entries_update_of_not_contains h]

/-- The key of every entry is a key. Source: none: infrastructure. Kind: L -/
theorem mem_keys_of_mem {m : LinkedMap α} {k : String} {v : α} (h : (k, v) ∈ m.entries) :
    k ∈ m.keys :=
  List.mem_map.mpr ⟨(k, v), h, rfl⟩

/-- A map whose entries extend another's has all of its keys. Source: none: infrastructure. Kind: L
-/
theorem mem_keys_of_prefix {m m' : LinkedMap α} (h : m.entries <+: m'.entries) {k : String}
    (hk : k ∈ m.keys) : k ∈ m'.keys :=
  (h.map Prod.fst).subset hk

/-- When every value records its own key, the values' keys are the keys, in order. Source: none:
infrastructure. Kind: L -/
theorem map_values_eq_keys {m : LinkedMap α} {f : α → String}
    (h : ∀ k v, (k, v) ∈ m.entries → f v = k) : m.values.map f = m.keys := by
  simp only [values, keys, List.map_map]
  exact List.map_congr_left fun e he => h e.1 e.2 he

/-- A key has one value. Source: none: infrastructure. Kind: L -/
theorem eq_of_mem_of_mem {m : LinkedMap α} {k : String} {v v' : α} (h : (k, v) ∈ m.entries)
    (h' : (k, v') ∈ m.entries) : v = v' :=
  (Prod.ext_iff.mp (List.inj_on_of_nodup_map m.keys_nodup h h' rfl)).2

end LinkedMap

/-! ## One function entry -/

/-- The object written per parent function.
Source: `src/unnamed/part_001` l. 412–416
Kind: D -/
structure Entry where
  parentFunctionCode : String
  filename : String
  lineNumber : String
  deriving DecidableEq, Repr

/-- `ujson.Obj("parentFunctionCode" -> ..., "filename" -> ..., "lineNumber" -> ...)`.
Source: `src/unnamed/part_001` l. 412–416
Kind: D
Fidelity: exact -/
def Entry.toJson (e : Entry) : Json :=
  .obj [("parentFunctionCode", .str e.parentFunctionCode), ("filename", .str e.filename),
    ("lineNumber", .str e.lineNumber)]

/-! ## The loop body -/

/-- The sentinel for "no parent function". Source: `src/unnamed/part_001` l. 406–410. Kind: D -/
def notAvailable : String := "N/A"

/-- `parentMethodCode`: a method's own code; for any other node, the code of the first method
whose full name is the node's location's method full name, or `"N/A"`; `"N/A"` as well when
this throws non-fatally.
Source: `src/unnamed/part_001` l. 401–408
Kind: D
Fidelity: exact -/
def parentMethodCode (myCpg : Cpg) (node : StoredNode) : Except Throwable String :=
  tryGetOrElse
    (match node with
      | .method m => pure m.code
      | other => do
        let methodName := (← myCpg.location other).methodFullName
        return (← myCpg.methodCodeHead methodName).getD notAvailable)
    notAvailable

/-- A method node's parent code is its own code. Source: `src/unnamed/part_001` l. 403. Kind: L -/
@[simp] theorem parentMethodCode_method (myCpg : Cpg) (m : Method) :
    parentMethodCode myCpg (.method m) = .ok m.code := rfl

/-- Any other node has a parent code other than `"N/A"` only through its location's method full
name, whose lookup found that code. Source: `src/unnamed/part_001` l. 404–406. Kind: L -/
theorem parentMethodCode_other {myCpg : Cpg} {i : Nat} {c : String}
    (h : parentMethodCode myCpg (.other i) = .ok c) (hna : c ≠ notAvailable) :
    ∃ l, myCpg.location (.other i) = .ok l ∧
      myCpg.methodCodeHead l.methodFullName = .ok (some c) := by
  rcases tryGetOrElse_eq_ok _ h with h | rfl
  · obtain ⟨l, hl, h⟩ := except_bind_eq_ok.mp h
    obtain ⟨hd, hh, h⟩ := except_bind_eq_ok.mp h
    cases hd with
    | none => exact absurd (Except.ok.inj h).symm hna
    | some d =>
      have hdc : d = c := Except.ok.inj h
      exact ⟨l, hl, hdc ▸ hh⟩
  · exact absurd rfl hna

/-- One node of a result list: when its parent code is new, record it with the node's
location (an unguarded call) and line number text (guarded).
Source: `src/unnamed/part_001` l. 400–418
Kind: D
Fidelity: exact -/
def collectNode (myCpg : Cpg) (uniqueFunctions : LinkedMap Entry) (node : StoredNode) :
    Except Throwable (LinkedMap Entry) := do
  let parentMethodCode ← parentMethodCode myCpg node
  if parentMethodCode != notAvailable && !uniqueFunctions.contains parentMethodCode then
    let l ← myCpg.location node
    let lineNumber ← tryGetOrElse l.lineNumber "unknown"
    return uniqueFunctions.update parentMethodCode ⟨parentMethodCode, l.filename, lineNumber⟩
  else
    return uniqueFunctions

/-- One query's result: every node of its `resultList`, in order.
Source: `src/unnamed/part_001` l. 388–419
Kind: D
Fidelity: exact -/
def collectResults (myCpg : Cpg) (uniqueFunctions : LinkedMap Entry) (rawResult : RawResult) :
    Except Throwable (LinkedMap Entry) :=
  let resultList := rawResult.resultList
  if resultList ≠ [] then resultList.foldlM (collectNode myCpg) uniqueFunctions
  else pure uniqueFunctions

end Graphide.Joern
