import Graphide.Webview.ChatLog

/-!
# The chat pane over a session

Package `Webview`, file 10. The pane's handlers change it only through its two log methods;
when the user does one thing at a time, the count badge never shows.

* `Calm`, `Fresh`, `Ready` — the pane holds a log (`Refines`) whose entries were each added
  once, and what its newest entry may absorb; `addMessage_calm` to `handleAnalyze_calm` say
  what each handler keeps.
* `PaneAction`, `sequential_no_badge` — **used one action at a time**, no message ever shows a
  count badge, whatever the backend answers: each analysis first adds its normal "Analysing"
  message, and within one analysis no error follows an error with the same content. The badge
  shows only when two analyses overlap and fail alike (the example after
  `sequential_no_badge`).
-/

namespace Graphide.Webview

open Handler

/-! ## One action at a time -/

/-- A user action on the pane, run to its end before the next: a click of Clear, or a whole
Analyze Files with the host's answers.
Source: `graphide.contribution.ts` l. 157–158, 170–174, 269–321
Kind: D -/
inductive PaneAction
  | clear
  | analyze (H : Host)

/-- The handler of an action. Source: `graphide.contribution.ts` l. 170–174, 269–321.
Kind: D -/
def PaneAction.run (E : PaneEnv) : PaneAction → Handler String Pane Unit
  | .clear => clearHistory E
  | .analyze H => handleAnalyze E H

/-- The pane after a sequence of actions. Source: none: infrastructure. Kind: D -/
def runActions (E : PaneEnv) (actions : List PaneAction) (p : Pane) : Pane :=
  actions.foldl (fun p a => ((a.run E).run.run p).2) p

section Sequential

variable {E : PaneEnv}

/-- The pane holds a log in which every entry was added once. Source: none: infrastructure.
Kind: D -/
def Calm (E : PaneEnv) (p : Pane) : Prop :=
  ∃ log, Refines E log p ∧ ∀ e ∈ log, e.count = 1

/-- ... and its newest entry is not an error, so it absorbs nothing. Source: none:
infrastructure. Kind: D -/
def Fresh (E : PaneEnv) (p : Pane) : Prop :=
  ∃ log, Refines E log p ∧ (∀ e ∈ log, e.count = 1) ∧ ∀ e ∈ log.head?, e.message.type ≠ .error

/-- ... and its newest entry absorbs no error whose content is a string. Source: none:
infrastructure. Kind: D -/
def Ready (E : PaneEnv) (p : Pane) : Prop :=
  ∃ log, Refines E log p ∧ (∀ e ∈ log, e.count = 1) ∧
    ∀ e ∈ log.head?, ∀ s, e.absorbs ⟨.system, .str s, .error⟩ = false

/-- A fresh pane is calm. Source: none: infrastructure. Kind: L -/
theorem Fresh.calm {p : Pane} : Fresh E p → Calm E p
  | ⟨log, h, h1, _⟩ => ⟨log, h, h1⟩

/-- A fresh pane is ready: its newest entry is no error, so it absorbs none. Source: none:
infrastructure. Kind: L -/
theorem Fresh.ready {p : Pane} : Fresh E p → Ready E p
  | ⟨log, h, h1, hn⟩ => ⟨log, h, h1, fun e he s => by simp [Entry.absorbs, hn e he]⟩

/-- An add the newest entry does not absorb starts an entry of its own, and throws what the
renderer throws. Source: `graphide.contribution.ts` l. 176–267. Kind: L -/
theorem addMessage_single {log : List Entry} {p : Pane} (h : Refines E log p) {m : ChatMessage}
    (hn : ∀ e ∈ log.head?, e.absorbs m = false) :
    ((addMessage E m.role m.content m.type).run.run p).1 = renderOutcome E m ∧
      Refines E (.single m :: log) ((addMessage E m.role m.content m.type).run.run p).2 := by
  have hc : p.counts m = false := by
    cases log with
    | nil => exact h.counts_nil m
    | cons e es => rw [h.counts_cons]; exact hn e rfl
  have hpush : pushEntry log m = .single m :: log := by
    cases log with
    | nil => rfl
    | cons e es => simp [pushEntry, hn e rfl]
  exact ⟨by rw [addMessage_run_push hc], hpush ▸ addMessage_refines h m⟩

/-- A message that is not an error starts an entry, which absorbs nothing. Source:
`graphide.contribution.ts` l. 176–216. Kind: L -/
theorem addMessage_calm {m : ChatMessage} (hm : m.type ≠ .error) :
    Triple (Calm E) (addMessage E m.role m.content m.type) (fun _ => Fresh E) (fun _ => Fresh E) :=
  Triple.of_state fun _ ⟨log, h, h1⟩ =>
    ⟨_, (addMessage_single h fun e _ => by simp [Entry.absorbs, hm]).2,
      by simpa [Entry.single] using h1, by simpa using hm⟩

/-- After a message that is not an error, any add starts an entry; one that throws was not
rendered, so its content is not a string. Source: `graphide.contribution.ts` l. 176–267.
Kind: L -/
theorem addMessage_fresh (hmd : ∀ s, E.markdownError (.str s) = none) (m : ChatMessage) :
    Triple (Fresh E) (addMessage E m.role m.content m.type) (fun _ => Calm E)
      (fun _ => Ready E) := by
  intro p ⟨log, h, h1, hn⟩
  obtain ⟨hr, h'⟩ := addMessage_single h (m := m) fun e he => by simp [Entry.absorbs, hn e he]
  have h1' : ∀ e ∈ Entry.single m :: log, e.count = 1 := by simpa [Entry.single] using h1
  generalize (addMessage E m.role m.content m.type).run.run p = r at hr h' ⊢
  rcases r with ⟨e | _, p'⟩
  · refine ⟨_, h', h1', fun e' he' s => ?_⟩
    simp only [List.head?_cons, Option.mem_def, Option.some.injEq] at he'
    subst he'
    cases hc : E.markdownError m.content with
    | none => simp [renderOutcome, hc] at hr
    | some _ =>
      have hs : m.content ≠ .str s := fun hs => by simp [hs, hmd] at hc
      simp only [Entry.absorbs, Entry.single_message, Bool.and_eq_false_iff]
      exact .inr (by cases h : strictEq (.str s) m.content
                     · rfl
                     · exact absurd (eq_of_strictEq h).symm hs)
  · exact ⟨_, h', h1'⟩

/-- An error with a string content starts an entry when the newest entry absorbs no such error.
Source: `graphide.contribution.ts` l. 176–216. Kind: L -/
theorem addMessage_ready (s : String) :
    Triple (Ready E) (addMessage E .system (.str s) .error) (fun _ => Calm E) (fun _ => Calm E) :=
  Triple.of_state fun _ ⟨log, h, h1, hn⟩ =>
    ⟨_, (addMessage_single (m := ⟨.system, .str s, .error⟩) h fun e he => hn e he s).2,
      by simpa [Entry.single] using h1⟩

/-- A read keeps the pane fresh, and a read that throws leaves it ready. Source: none:
infrastructure. Kind: L -/
theorem liftJs_fresh {α : Type} (x : Except TypeError α) :
    Triple (Fresh E) (liftJs E x) (fun _ => Fresh E) (fun _ => Ready E) :=
  Triple.lift fun _ hs => by cases x <;> first | exact hs | exact hs.ready

variable (hmd : ∀ s, E.markdownError (.str s) = none)
include hmd

/-- What a reply adds, after the "Analysing" message: every agent output as a normal message,
or the reply's message, or the warning; a read that throws leaves the newest entry as it was.
Source: `graphide.contribution.ts` l. 307–315
Kind: L -/
theorem showReply_fresh (data : Json) :
    Triple (Fresh E) (showReply E data) (fun _ => Calm E) (fun _ => Ready E) := by
  unfold showReply
  refine Triple.bind (liftJs_fresh _) fun agentOutputs => ?_
  refine Triple.bind (M := fun _ => Fresh E) ?_ fun hasOutputs => ?_
  · split
    · exact liftJs_fresh _
    · exact Triple.pure fun _ h => h
  · split
    · refine Triple.bind (liftJs_fresh _) fun outputs => ?_
      refine Triple.conseq (Triple.forM fun output _ => ?_) (fun _ h => h) (fun _ _ h => h.calm)
        (fun _ _ h => h)
      refine Triple.bind (liftJs_fresh _) fun text => ?_
      exact Triple.conseq (addMessage_calm (m := ⟨.system, text, .normal⟩) (by simp))
        (fun _ => Fresh.calm) (fun _ _ h => h) (fun _ _ h => h.ready)
    · refine Triple.bind (liftJs_fresh _) fun message => ?_
      split
      · exact Triple.bind (liftJs_fresh _) fun status => addMessage_fresh hmd ⟨.system, _, _⟩
      · exact Triple.conseq (addMessage_calm (m := ⟨.system, _, .warning⟩) (by simp))
          (fun _ => Fresh.calm) (fun _ _ h => h.calm) (fun _ _ h => h.ready)

/-- The answer of an analysis, after its "Analysing" message: the pane is calm again, with the
`catch`'s error in an entry of its own.
Source: `graphide.contribution.ts` l. 290–320
Kind: L -/
theorem analyzeReply_fresh (reply : Except String Json) :
    Triple (Fresh E) (analyzeReply E reply) (fun _ => Calm E) (fun _ => Calm E) :=
  Triple.tryCatch
    (Triple.bind (Triple.lift fun _ hs => by cases reply <;> first | exact hs | exact hs.ready)
      fun data => showReply_fresh hmd data)
    fun _ => addMessage_ready _

/-- A whole analysis keeps the pane calm. Source: `graphide.contribution.ts` l. 269–321.
Kind: L -/
theorem handleAnalyze_calm (H : Host) :
    Triple (Calm E) (handleAnalyze E H) (fun _ => Calm E) (fun _ => Calm E) := by
  unfold handleAnalyze
  split
  · exact Triple.pure fun _ h => h
  · refine Triple.bind (Triple.conseq (addMessage_calm (m := ⟨.system, _, .normal⟩) (by simp))
      (fun _ h => h) (fun _ _ h => h) (fun _ _ h => h.calm)) fun _ => ?_
    split
    · exact analyzeReply_fresh hmd _
    · exact Triple.pure fun _ h => h.calm

/-- **Used one action at a time, no message shows a count badge.** Whatever the user clicks and
whatever the backend answers, as long as each analysis ends before the next action, every
message of the container was added once: an analysis first adds its normal "Analysing"
message, so its error can never follow the previous analysis's error, and within one analysis
the `catch`'s error follows a message that is not an error or whose content is not a string.
Source: `graphide.contribution.ts` l. 140–321
Kind: P -/
theorem sequential_no_badge (actions : List PaneAction) :
    ∀ el ∈ (runActions E actions (welcome E)).dom, el.badge = none := by
  have hstep : ∀ a : PaneAction, Triple (Calm E) (a.run E) (fun _ => Calm E) (fun _ => Calm E)
    | .clear => Triple.of_state fun p _ => ⟨_, clearHistory_refines E p, by simp [Entry.single]⟩
    | .analyze H => handleAnalyze_calm hmd H
  obtain ⟨log, h, h1⟩ : Calm E (runActions E actions (welcome E)) :=
    Triple.foldl (PaneAction.run E) hstep actions _ ⟨_, welcome_refines E, by simp [Entry.single]⟩
  intro el hel
  rw [h.dom, List.mem_reverse, List.mem_map] at hel
  obtain ⟨e, he, rfl⟩ := hel
  simp [entryEl, badgeText, h1 e he]

end Sequential

/-- Two analyses that overlap and fail alike: their two errors come one after the other, and
the second is counted on the first. -/
example :
    let E : PaneEnv := ⟨⟨fun _ => .ok false⟩, fun _ => "", fun _ => none⟩
    let down : Except String Json := .error "connect ECONNREFUSED"
    ([analyzeStart E "/w/a.c", analyzeStart E "/w/b.c", analyzeReply E down,
        analyzeReply E down].foldl (fun p h => (h.run.run p).2) (welcome E)).dom.map
      (·.badge) = [none, none, none, some "(2×)"] := by
  decide

/-- The contract at two analyses in a row against a backend that is down. Source: none: a test
input. Kind: N+ -/
theorem sequential_no_badge_backend_down :
    let E : PaneEnv := ⟨⟨fun _ => .ok false⟩, fun _ => "", fun _ => none⟩
    let down : Host := ⟨some ("/w/a.c", "a.c"), fun _ => some (.error "connect ECONNREFUSED")⟩
    (∀ s, E.markdownError (.str s) = none) ∧
      ∀ el ∈ (runActions E [.analyze down, .analyze down] (welcome E)).dom, el.badge = none :=
  ⟨fun _ => rfl, sequential_no_badge (fun _ => rfl) _⟩

end Graphide.Webview
