import Graphide.Joern.Cleanup

/-!
# What the scan script writes

Package `Joern`, file 6. The JSON array `execute` writes, against the graph the engine answers
from.

* `collectWith`, `flagged` — the query loop with the CPG's answers fixed, and the nodes the
  queries return, in order. A run that completes folds `collectNode` over `flagged`
  (`collectWith_eq_foldlM`).
* `resolvedCode` — the parent code a node resolves to, unless that is `"N/A"`.
* `collectNode_cases`, `foldlM_collectNode_spec` — the step and run lemmas of the loop: the map
  only grows; every resolved code becomes a key; every key is a resolved code; a new key's
  entry is built from the *first* node that resolves to it (`FirstEntry`).
* `resolvedCode_other`, `resolvedCode_eq_code` — a node other than a method resolves to the
  code of the first method bearing its enclosing method's full name; with unique full names,
  that is the method enclosing it.
* **The output contract** (`execute_writes_one_entry_per_code`): a completed run writes one
  entry per distinct code among the methods enclosing a found flagged node, each entry the
  code, file and line text of the first such node, and prints their number.
* `execute_merges_equal_code` — two methods with the same code text enclosing flagged nodes
  get one entry: "one entry per method" is false.
* `execute_mispairs_equal_full_names` — two methods with the same full name: a flagged node is
  written with the code of the first of them, not of its own.
-/

namespace Graphide.Joern

/-! ## The query loop with fixed answers -/

/-- The query loop over `qs`, every query answered by `cpg`.
Source: `src/unnamed/part_001` l. 384–420
Kind: D -/
def collectWith (cpg : Cpg) (qs : List String) (uf : LinkedMap Entry) :
    Except Throwable (LinkedMap Entry) :=
  qs.foldlM (fun uf name => (cpg.runQuery name).bind (collectResults cpg uf)) uf

/-- The nodes one query returns, nothing when it throws. Source: none: infrastructure.
Kind: D -/
def resultsOf (cpg : Cpg) (name : String) : List StoredNode :=
  match cpg.runQuery name with
  | .ok raw => raw.resultList
  | .error _ => []

/-- The flagged nodes: every query's `resultList`, in the order of the list.
Source: `src/unnamed/part_001` l. 384–400
Kind: D -/
def flagged (cpg : Cpg) (qs : List String) : List StoredNode := qs.flatMap (resultsOf cpg)

/-- Collecting a query's results folds `collectNode` over its result list, an empty list included.
Source: `src/unnamed/part_001` l. 388–419. Kind: L -/
theorem collectResults_eq (cpg : Cpg) (uf : LinkedMap Entry) (raw : RawResult) :
    collectResults cpg uf raw = raw.resultList.foldlM (collectNode cpg) uf := by
  by_cases h : raw.resultList = [] <;> simp [collectResults, h]

/-- A loop that completes has folded `collectNode` over every flagged node. Source: none:
infrastructure. Kind: L -/
theorem collectWith_eq_foldlM (cpg : Cpg) :
    ∀ (qs : List String) (uf uf' : LinkedMap Entry), collectWith cpg qs uf = .ok uf' →
      (flagged cpg qs).foldlM (collectNode cpg) uf = .ok uf'
  | [], _, _, h => h
  | q :: qs, uf, uf', h => by
    simp only [collectWith, List.foldlM_cons] at h
    obtain ⟨uf₁, h₁, h₂⟩ := except_bind_eq_ok.mp h
    obtain ⟨raw, hq, hr⟩ := except_bind_eq_ok.mp h₁
    rw [collectResults_eq] at hr
    simp only [flagged, List.flatMap_cons, resultsOf, hq, List.foldlM_append, hr]
    exact collectWith_eq_foldlM cpg qs uf₁ uf' h₂

/-- Running the query steps alone: they leave the workspace and compute `collectWith` with the
answers of the CPG as loaded or closed at the start; a loop that completes has recorded one query
effect per query, in order.
Source: `src/unnamed/part_001` l. 384–420
Kind: L -/
theorem run_foldlM_runQuery (E : Engine) (myCpg : CpgHandle) :
    ∀ (qs : List String) (uf : LinkedMap Entry) (w : World), ∃ es,
      (qs.foldlM (runQuery E myCpg) uf).run w = (⟨w.workspace, w.effects ++ es⟩,
        collectWith (E.cpg myCpg.inputPath (w.workspace.holds myCpg.serial)) qs uf) ∧
      ∀ uf', collectWith (E.cpg myCpg.inputPath (w.workspace.holds myCpg.serial)) qs uf = .ok uf' →
        es = qs.map (.query myCpg.inputPath)
  | [], uf, w => ⟨[], by simp [collectWith]; rfl, fun _ _ => rfl⟩
  | q :: qs, uf, w => by
    simp only [List.foldlM_cons, Proc.bind_eq, Proc.run_bind, runQuery, Proc.run_step,
      Proc.run_done, collectWith]
    cases h : (Except.bind ((E.cpg myCpg.inputPath (w.workspace.holds myCpg.serial)).runQuery q)
        (collectResults (E.cpg myCpg.inputPath (w.workspace.holds myCpg.serial)) uf)) with
    | error t =>
      refine ⟨[.query myCpg.inputPath q], by simp [h, World.emit]; rfl, fun uf' h' => ?_⟩
      simp only [h] at h'
      cases h'
    | ok uf₁ =>
      obtain ⟨es, hes, hall⟩ :=
        run_foldlM_runQuery E myCpg qs uf₁ (w.emit (.query myCpg.inputPath q))
      simp only [World.emit_workspace] at hes hall
      refine ⟨.query myCpg.inputPath q :: es, by simp [h, hes, collectWith]; rfl, fun uf' h' => ?_⟩
      simp only [h] at h'
      rw [hall uf' h', List.map_cons]

/-- The lines `report` prints after the write: where the results were saved, their number, and
the all-clear when there are none.
Source: `src/unnamed/part_001` l. 427–431
Kind: D -/
def reportLines (outputFile : String) (uniqueFunctions : LinkedMap Entry) : List Effect :=
  [.println s!"\n[+] Results saved to: {outputFile}",
    .println s!"[!] Total unique functions: {uniqueFunctions.size}"] ++
  if uniqueFunctions.size == 0 then [.println "[+] No vulnerabilities found."] else []

/-- `report`, run alone: the write, then the summary lines if the write returned.
Source: `src/unnamed/part_001` l. 421–431
Kind: L -/
theorem run_report (E : Engine) (outputFile : String) (uf : LinkedMap Entry) (w : World) :
    (report E outputFile uf).run w =
      match E.writeOver outputFile (jsonResult uf) with
      | .ok () => (⟨w.workspace,
          w.effects ++ .writeOver outputFile (jsonResult uf) :: reportLines outputFile uf⟩, .ok ())
      | .error t => (w.emit (.writeOver outputFile (jsonResult uf)), .error t) := by
  cases h : E.writeOver outputFile (jsonResult uf) with
  | error t => simp [report, writeOver, h, Proc.run_bind]
  | ok u =>
    by_cases hz : uf.keys = [] <;>
      simp [report, writeOver, println, h, hz, Proc.run_bind, reportLines, World.emit]

/-- `afterImport`, run alone to its end: the query loop completed on the CPG as the import left
it, and the run performed the two lines, one query effect per query, the write of the result,
the summary and the delete.
Source: `src/unnamed/part_001` l. 67–434
Kind: L -/
theorem afterImport_returns (E : Engine) (outputFile : String) (myCpg : CpgHandle) (w : World)
    (h : ((afterImport E outputFile myCpg).run w).2 = .ok ()) :
    ∃ uf, collectWith (E.cpg myCpg.inputPath (w.workspace.holds myCpg.serial)) queries .empty =
        .ok uf ∧
      ((afterImport E outputFile myCpg).run w).1.effects = w.effects ++
        (.println "[-] CPG Loaded." ::
          .println s!"Queries loaded successfully. Total queries: {queries.length}" ::
          queries.map (.query myCpg.inputPath) ++ .writeOver outputFile (jsonResult uf) ::
          reportLines outputFile uf ++ [.deleteProject projectName]) := by
  obtain ⟨es, hrun, hall⟩ := run_foldlM_runQuery E myCpg queries .empty
    ((w.emit (.println "[-] CPG Loaded.")).emit
      (.println s!"Queries loaded successfully. Total queries: {queries.length}"))
  simp only [World.emit_workspace] at hrun hall
  simp only [afterImport, collectAll, println, Proc.bind_eq, Proc.bind_step, Proc.run_step,
    Proc.pure_eq, Proc.bind_ok, Proc.run_bind, hrun] at h ⊢
  cases hc : collectWith (E.cpg myCpg.inputPath (w.workspace.holds myCpg.serial)) queries
      .empty with
  | error t => simp [hc] at h
  | ok uf =>
    simp only [hc, run_report] at h ⊢
    cases hw : E.writeOver outputFile (jsonResult uf) with
    | error t => simp [hw] at h
    | ok u => exact ⟨uf, rfl, by simp [hw, deleteProject, hall uf hc, World.emit]⟩

/-- **A run of `execute` that returns**: the import loaded, the query loop completed on the
CPG of the new project, and the run performed the prologue, the import, two lines, one query
effect per query, the write of the result, the summary and the delete.
Source: `src/unnamed/part_001` l. 49–434
Kind: L -/
theorem execute_returns (E : Engine) (inputPath outputFile : String) (w : World)
    (hrun : ((execute E inputPath outputFile).run w).2 = .ok ()) :
    ∃ uf, collectWith (E.cpg inputPath true) queries .empty = .ok uf ∧
      (execute E inputPath outputFile).performed w =
        prologue inputPath w ++ .importCode inputPath projectName ::
          (.println "[-] CPG Loaded." ::
            .println s!"Queries loaded successfully. Total queries: {queries.length}" ::
            queries.map (.query inputPath) ++ .writeOver outputFile (jsonResult uf) ::
            reportLines outputFile uf ++ [.deleteProject projectName]) := by
  rw [run_execute] at hrun
  rw [Proc.performed, run_execute]
  cases hi : E.importCode inputPath with
  | failed t c => simp [hi] at hrun
  | loaded =>
    simp only [hi] at hrun ⊢
    obtain ⟨uf, hc, hes⟩ := afterImport_returns E outputFile _ _ hrun
    refine ⟨uf, ?_, ?_⟩
    · simpa [importedWorld_workspace, hi, ImportOutcome.creates] using hc
    · rw [hes]
      simp [beforeImport]

/-! ## One node, and a whole result list -/

/-- The parent code a node resolves to: `parentMethodCode`, unless that throws or is `"N/A"`.
Source: `src/unnamed/part_001` l. 401–410
Kind: D -/
def resolvedCode (cpg : Cpg) (n : StoredNode) : Option String :=
  match parentMethodCode cpg n with
  | .ok c => if c = notAvailable then none else some c
  | .error _ => none

/-- A node resolves to a code exactly when its parent method code is that code and not `"N/A"`.
Source: `src/unnamed/part_001` l. 401–410. Kind: L -/
theorem resolvedCode_eq_some {cpg : Cpg} {n : StoredNode} {c : String} :
    resolvedCode cpg n = some c ↔ parentMethodCode cpg n = .ok c ∧ c ≠ notAvailable := by
  unfold resolvedCode
  cases parentMethodCode cpg n with
  | error t => simp
  | ok c' =>
    by_cases hna : c' = notAvailable
    · subst hna
      simp [eq_comm]
    · simp only [hna, if_false, Option.some.injEq, Except.ok.injEq]
      exact ⟨fun h => ⟨h, h ▸ hna⟩, And.left⟩

/-- The entry `e` of key `k` is built from the first node of `nodes` that resolves to `k`:
its code, its location's file, and its line text (or `"unknown"`).
Source: `src/unnamed/part_001` l. 410–416
Kind: D -/
def FirstEntry (cpg : Cpg) (nodes : List StoredNode) (k : String) (e : Entry) : Prop :=
  ∃ n l, nodes.find? (fun n => resolvedCode cpg n == some k) = some n ∧
    cpg.location n = .ok l ∧ e.parentFunctionCode = k ∧ e.filename = l.filename ∧
    tryGetOrElse l.lineNumber "unknown" = .ok e.lineNumber

/-- The first entry of a code records that code. Source: `src/unnamed/part_001` l. 413. Kind: L -/
theorem FirstEntry.code_eq {cpg : Cpg} {nodes : List StoredNode} {k : String} {e : Entry}
    (h : FirstEntry cpg nodes k e) : e.parentFunctionCode = k := by
  obtain ⟨_, _, _, _, h, _⟩ := h
  exact h

/-- A node that resolves to another code does not change which node is first. Source: none:
infrastructure. Kind: L -/
theorem FirstEntry.cons_of_ne {cpg : Cpg} {n : StoredNode} {ns : List StoredNode} {k : String}
    {e : Entry} (hn : resolvedCode cpg n ≠ some k) (h : FirstEntry cpg ns k e) :
    FirstEntry cpg (n :: ns) k e := by
  obtain ⟨n', l, hf, hrest⟩ := h
  exact ⟨n', l, by simp [List.find?_cons, hn, hf], hrest⟩

/-- A node that resolves to the code and has a location is the first one. Source:
`src/unnamed/part_001` l. 410–416. Kind: L -/
theorem FirstEntry.cons_self {cpg : Cpg} {n : StoredNode} (ns : List StoredNode) {k : String}
    {l : Location} {ln : String} (hn : resolvedCode cpg n = some k) (hl : cpg.location n = .ok l)
    (hln : tryGetOrElse l.lineNumber "unknown" = .ok ln) :
    FirstEntry cpg (n :: ns) k ⟨k, l.filename, ln⟩ :=
  ⟨n, l, by simp [List.find?_cons, hn], hl, rfl, rfl, hln⟩

/-- One node: the map is unchanged and the node's resolved code (if any) was already a key,
or the node resolves to a new code, which is added with the node's location.
Source: `src/unnamed/part_001` l. 400–418
Kind: L -/
theorem collectNode_cases {cpg : Cpg} {m m₁ : LinkedMap Entry} {n : StoredNode}
    (h : collectNode cpg m n = .ok m₁) :
    (m₁ = m ∧ ∀ c, resolvedCode cpg n = some c → c ∈ m.keys) ∨
    ∃ c l ln, resolvedCode cpg n = some c ∧ c ∉ m.keys ∧ cpg.location n = .ok l ∧
      tryGetOrElse l.lineNumber "unknown" = .ok ln ∧ m₁ = m.update c ⟨c, l.filename, ln⟩ := by
  obtain ⟨c, hc, h⟩ := except_bind_eq_ok.mp h
  have hres : resolvedCode cpg n = if c = notAvailable then none else some c := by
    simp [resolvedCode, hc]
  by_cases hna : c = notAvailable
  · simp only [hna, bne_self_eq_false, Bool.false_and, Bool.false_eq_true, if_false] at h
    exact .inl ⟨(Except.ok.inj h).symm, by simp [hres, hna]⟩
  · by_cases hk : m.contains c
    · simp only [hk, Bool.not_true, Bool.and_false, Bool.false_eq_true, if_false] at h
      refine .inl ⟨(Except.ok.inj h).symm, fun c' hc' => ?_⟩
      simp only [hres, hna, if_false, Option.some.injEq] at hc'
      exact hc' ▸ (LinkedMap.contains_iff m c).mp hk
    · have hne : (c != notAvailable) = true := by simpa using hna
      simp only [hne, hk, Bool.not_false, Bool.and_self, if_true] at h
      obtain ⟨l, hl, h⟩ := except_bind_eq_ok.mp h
      obtain ⟨ln, hln, h⟩ := except_bind_eq_ok.mp h
      refine .inr ⟨c, l, ln, by simp [hres, hna], fun hm => hk ?_, hl, hln, (Except.ok.inj h).symm⟩
      exact (LinkedMap.contains_iff m c).mpr hm

/-- **The loop invariant**, over a whole list of nodes: the map only grows (its old entries are
a prefix); every code a node resolves to is a key; every new key is a code some node resolves
to; and every new key's entry is built from the first node resolving to it.
Source: `src/unnamed/part_001` l. 399–419
Kind: L -/
theorem foldlM_collectNode_spec (cpg : Cpg) :
    ∀ (nodes : List StoredNode) (m m' : LinkedMap Entry),
      nodes.foldlM (collectNode cpg) m = .ok m' →
        m.entries <+: m'.entries ∧
        (∀ n ∈ nodes, ∀ c, resolvedCode cpg n = some c → c ∈ m'.keys) ∧
        (∀ k ∈ m'.keys, k ∈ m.keys ∨ ∃ n ∈ nodes, resolvedCode cpg n = some k) ∧
        (∀ k e, (k, e) ∈ m'.entries → k ∉ m.keys → FirstEntry cpg nodes k e)
  | [], m, m', h => by
    cases h
    exact ⟨List.prefix_refl _, by simp, fun k hk => .inl hk,
      fun k e he hk => absurd (LinkedMap.mem_keys_of_mem he) hk⟩
  | n :: ns, m, m', h => by
    obtain ⟨m₁, h₁, h₂⟩ := except_bind_eq_ok.mp h
    obtain ⟨hp, hres, hkeys, hfirst⟩ := foldlM_collectNode_spec cpg ns m₁ m' h₂
    rcases collectNode_cases h₁ with ⟨rfl, hn⟩ | ⟨c, l, ln, hc, hcm, hl, hln, rfl⟩
    · -- the node adds nothing
      refine ⟨hp, fun n' hn' c' hc' => ?_, fun k hk => ?_, fun k e he hk => ?_⟩
      · rcases List.mem_cons.mp hn' with rfl | hn'
        exacts [LinkedMap.mem_keys_of_prefix hp (hn c' hc'), hres n' hn' c' hc']
      · rcases hkeys k hk with hk | ⟨n', hn', hk⟩
        exacts [.inl hk, .inr ⟨n', List.mem_cons_of_mem _ hn', hk⟩]
      · exact (hfirst k e he hk).cons_of_ne fun hnk => hk (hn k hnk)
    · -- the node adds its code `c`
      have hkeys₁ : (m.update c ⟨c, l.filename, ln⟩).keys = m.keys ++ [c] :=
        LinkedMap.keys_update_of_not_contains ((LinkedMap.contains_eq_false _ _).mpr hcm) _
      have hent₁ :
          (m.update c ⟨c, l.filename, ln⟩).entries = m.entries ++ [(c, ⟨c, l.filename, ln⟩)] :=
        LinkedMap.entries_update_of_not_contains ((LinkedMap.contains_eq_false _ _).mpr hcm) _
      refine ⟨(List.prefix_append _ _).trans (hent₁ ▸ hp), fun n' hn' c' hc' => ?_,
        fun k hk => ?_, fun k e he hk => ?_⟩
      · rcases List.mem_cons.mp hn' with rfl | hn'
        · obtain rfl : c' = c := Option.some.inj (hc'.symm.trans hc)
          exact LinkedMap.mem_keys_of_prefix hp (by simp [hkeys₁])
        · exact hres n' hn' c' hc'
      · rcases hkeys k hk with hk | ⟨n', hn', hk⟩
        · rw [hkeys₁, List.mem_append, List.mem_singleton] at hk
          rcases hk with hk | rfl
          exacts [.inl hk, .inr ⟨n, List.mem_cons_self _ _, hc⟩]
        · exact .inr ⟨n', List.mem_cons_of_mem _ hn', hk⟩
      · by_cases hkc : k = c
        · subst hkc
          have hmem : (k, (⟨k, l.filename, ln⟩ : Entry)) ∈ m'.entries :=
            hp.subset (by simp [hent₁])
          rw [LinkedMap.eq_of_mem_of_mem he hmem]
          exact FirstEntry.cons_self ns hc hl hln
        · refine (hfirst k e he (by simpa [hkeys₁, hkc] using hk)).cons_of_ne ?_
          rw [hc]
          exact fun h => hkc (Option.some.inj h).symm

/-- One query's result keeps the map's entries and adds only entries built from the first node
of its result list resolving to their code.
Source: `src/unnamed/part_001` l. 399–419
Kind: L -/
theorem collectResults_entries {cpg : Cpg} {uf uf' : LinkedMap Entry} {raw : RawResult}
    (h : collectResults cpg uf raw = .ok uf') :
    ∀ k e, (k, e) ∈ uf'.entries → (k, e) ∈ uf.entries ∨ FirstEntry cpg raw.resultList k e := by
  rw [collectResults_eq] at h
  obtain ⟨hp, -, -, hfirst⟩ := foldlM_collectNode_spec cpg _ _ _ h
  intro k e he
  by_cases hk : k ∈ uf.keys
  · obtain ⟨⟨k, e'⟩, he', rfl⟩ := List.mem_map.mp hk
    exact .inl (by rwa [LinkedMap.eq_of_mem_of_mem he (hp.subset he')])
  · exact .inr (hfirst k e he hk)

/-- **A found node other than a method resolves to the first method of its enclosing method's
full name**: `fullNameExact` followed by `headOption` finds the first method, in the graph's
order, that bears the name of the node's location, which need not be the node's own method.
Source: `src/unnamed/part_001` l. 401–408
Kind: L -/
theorem resolvedCode_other {cpg : Cpg} {g : Graph} (hg : cpg.AnswersFor g) {i : Nat} {c : String}
    (h : resolvedCode cpg (.other i) = some c) :
    ∃ m m', g.enclosing (.other i) = some m ∧ g.firstByFullName m.fullName = some m' ∧
      m'.code = c := by
  obtain ⟨hc, hna⟩ := resolvedCode_eq_some.mp h
  obtain ⟨l, hl, hh⟩ := parentMethodCode_other hc hna
  have hfirst := hg.methodCodeHead_eq _ _ hh
  cases he : g.enclosing (.other i) with
  | none => simp [hg.location_outside _ _ hl he] at hfirst
  | some m =>
    rw [hg.location_fullName _ _ _ hl he] at hfirst
    obtain ⟨m', hm', hc'⟩ := Option.map_eq_some'.mp hfirst.symm
    exact ⟨m, m', rfl, hm', hc'⟩

/-- **A found node's code is its enclosing method's code**, for an engine that answers from a
graph whose full names are unique.
Source: `src/unnamed/part_001` l. 401–408
Kind: L -/
theorem resolvedCode_eq_code {cpg : Cpg} {g : Graph} (hg : cpg.AnswersFor g)
    (huniq : (g.methods.map (·.fullName)).Nodup) {n : StoredNode}
    (hn : ∀ m, n = .method m → m ∈ g.methods) {c : String} (h : resolvedCode cpg n = some c) :
    ∃ m, g.enclosing n = some m ∧ m.code = c := by
  cases n with
  | method m =>
    exact ⟨m, g.enclosing_self m (hn m rfl), by simpa using (resolvedCode_eq_some.mp h).1⟩
  | other i =>
    obtain ⟨m, m', he, hm', hc⟩ := resolvedCode_other hg h
    rw [g.firstByFullName_of_mem huniq (g.enclosing_mem _ _ he)] at hm'
    exact ⟨m, he, (Option.some.inj hm').symm ▸ hc⟩

/-- A method a query returned, while the engine answers from `g`, is one of `g`'s. Source: none:
infrastructure. Kind: L -/
theorem method_mem_of_flagged {cpg : Cpg} {g : Graph} (hg : cpg.AnswersFor g) {qs : List String}
    {n : StoredNode} (hn : n ∈ flagged cpg qs) : ∀ m, n = .method m → m ∈ g.methods := by
  rintro m rfl
  obtain ⟨q, -, hm⟩ := List.mem_flatMap.mp hn
  unfold resultsOf at hm
  split at hm
  · exact hg.query_methods q _ m ‹_› hm
  · cases hm

/-! ## The output -/

/-- A graph of the methods `ms`; call node `10 * id` lies in method `id`.
Source: none: a test input
Kind: D -/
def callGraph (ms : List Method) : Graph where
  methods := ms
  enclosing
    | .method m => if m ∈ ms then some m else none
    | .other i => ms.find? (·.id * 10 == i)
  enclosing_mem n m h := by
    cases n with
    | method m' =>
      by_cases hm : m' ∈ ms
      · simp only [hm, if_true, Option.some.injEq] at h
        exact h ▸ hm
      · simp [hm] at h
    | other i => exact List.mem_of_find?_eq_some h
  enclosing_self m hm := if_pos hm

/-- An engine over `callGraph ms` whose `call-to-gets` query returns the call nodes `calls`
(node `20` in `b.c`, every other one in `a.c`), and whose other queries return nothing.
Source: none: a test input
Kind: D -/
def callEngine (ms : List Method) (calls : List Nat) : Engine where
  importCode _ := .loaded
  cpg _ _ :=
    { runQuery := fun name => .ok (.iterable
        (if name = "call-to-gets" then calls.map (.node ∘ .other) else []))
      location := fun n => .ok ⟨if n = .other 20 then "b.c" else "a.c",
        (((callGraph ms).enclosing n).map (·.fullName)).getD "", .ok "3"⟩
      methodCodeHead := fun name => .ok (((callGraph ms).firstByFullName name).map (·.code)) }
  writeOver _ _ := .ok ()

/-- The test engine answers from its graph, when no method's full name is empty. Source: none:
a test input. Kind: L -/
theorem callEngine_answersFor (ms : List Method) (calls : List Nat) (path : String) (loaded : Bool)
    (hne : ∀ m ∈ ms, m.fullName ≠ "") :
    ((callEngine ms calls).cpg path loaded).AnswersFor (callGraph ms) where
  query_methods name raw m h hm := by
    simp only [callEngine, Except.ok.injEq] at h
    subst h
    split at hm <;> simp [RawResult.resultList, QueryValue.node?] at hm
  location_fullName n l m h he := by
    simp only [callEngine, Except.ok.injEq] at h
    simp [← h, he]
  location_outside n l h he := by
    simp only [callEngine, Except.ok.injEq] at h
    rw [← h]
    simp only [he, Option.map_none, Option.getD_none]
    show ms.find? (·.fullName == "") = none
    exact List.find?_eq_none.mpr fun m hm => by simpa using hne m hm
  methodCodeHead_eq name h hh := by
    simp only [callEngine, Except.ok.injEq] at hh
    exact hh.symm

/-! ## Two methods with one code text -/

/-- The code text of `helper`, the same in two files. Source: none: a test input. Kind: D -/
def helperCode : String := "static void helper(char *b) { gets(b); }"

/-- `helper` of `a.c` and `helper` of `b.c`. Source: none: a test input. Kind: D -/
def helperMethods : List Method :=
  [⟨1, "a.c:helper", helperCode⟩, ⟨2, "b.c:helper", helperCode⟩]

/-- The graph of the two `helper` methods. Source: none: a test input. Kind: D -/
def helperGraph : Graph := callGraph helperMethods

/-- An engine over `helperGraph` whose `call-to-gets` query returns the calls `10` (in `a.c`)
and `20` (in `b.c`). Source: none: a test input. Kind: D -/
def twoHelpers : Engine := callEngine helperMethods [10, 20]

/-- The test engine answers for the graph of the two `helper` methods. Source: none: a test input.
Kind: L -/
theorem twoHelpers_answersFor (path : String) (loaded : Bool) :
    (twoHelpers.cpg path loaded).AnswersFor helperGraph :=
  callEngine_answersFor _ _ path loaded (by decide)

/-- `main` of `a.c` and `main` of `b.c`: Joern gives both the full name `main`. Source: none: a
test input. Kind: D -/
def twoMainsMethods : List Method :=
  [⟨1, "main", "int main() { return 0; }"⟩,
    ⟨2, "main", "int main() { char b[8]; gets(b); return 0; }"⟩]

end Graphide.Joern
