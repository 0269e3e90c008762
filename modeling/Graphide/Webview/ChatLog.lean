import Mathlib.Data.List.Chain
import Graphide.Webview.ChatPane

/-!
# What the chat log shows

Package `Webview`, file 9. What the pane's log is for, as an abstract log of entries, and that
the pane's fields and its container refine it over every sequence of adds and clears, whichever
handlers made them and however their `await`s interleaved.

* `Entry` — a message and how many times it was added in a row; the count is at least one.
* `Entry.absorbs`, `pushEntry`, `Call.apply`, `shownLog` — the abstract log, newest entry
  first: an error added right after an error entry with the same content counts on it, anything
  else starts a new entry, and a clear leaves its one message.
* `Refines` — the pane holds a log: its messages, its elements (`entryEl`, with the badge
  `(n×)` for a count `n ≥ 2`), and, while the last entry is an error, that error's content and
  count in `lastErrorContent` and `errorCount`.
* `addMessage_refines`, `clearHistory_refines` — **the step lemmas**.
* `runCalls_shows` — **the log over a run**: after the welcome and any sequence of adds and
  clears, the container shows `shownLog`, in which no entry would absorb the one after it, and
  whose counts spell out exactly the messages added since the last clear.
-/

namespace Graphide.Webview

/-! ## The abstract log -/

/-- A message of the log and how many times it was added in a row.
Source: `graphide.contribution.ts` l. 118–120, 178–200
Kind: D -/
structure Entry where
  message : ChatMessage
  count : Nat
  count_pos : 0 < count

/-- A new entry. Source: none: infrastructure. Kind: D -/
def Entry.single (m : ChatMessage) : Entry := ⟨m, 1, Nat.one_pos⟩

/-- A new entry holds its message. Source: none: infrastructure. Kind: L -/
@[simp] theorem Entry.single_message (m : ChatMessage) : (Entry.single m).message = m := rfl

/-- A new entry counts once. Source: none: infrastructure. Kind: L -/
@[simp] theorem Entry.single_count (m : ChatMessage) : (Entry.single m).count = 1 := rfl

/-- An entry takes an added message on its count: both are errors with the same content.
Source: `graphide.contribution.ts` l. 178–182
Kind: D -/
def Entry.absorbs (e : Entry) (m : ChatMessage) : Bool :=
  m.type == .error && e.message.type == .error && strictEq m.content e.message.content

/-- The log, newest entry first, after one more add.
Source: `graphide.contribution.ts` l. 176–216
Kind: D -/
def pushEntry : List Entry → ChatMessage → List Entry
  | e :: es, m =>
    if e.absorbs m then ⟨e.message, e.count + 1, Nat.succ_pos _⟩ :: es
    else .single m :: e :: es
  | [], m => [.single m]

/-- A call the pane's handlers make on the log. Source: `graphide.contribution.ts`
l. 167, 170–216, 285–319. Kind: D -/
inductive Call
  | add (m : ChatMessage)
  | clear

/-- The message `clearHistory` adds. Source: `graphide.contribution.ts` l. 173. Kind: D -/
def clearedMessage : ChatMessage :=
  ⟨.system, .str "Results cleared. Select a file to analyze.", .normal⟩

/-- The message `renderBody` adds. Source: `graphide.contribution.ts` l. 167. Kind: D -/
def welcomeMessage : ChatMessage :=
  ⟨.system, .str "Select a file to analyze for vulnerabilities.", .normal⟩

/-- A call on the abstract log. Source: none: the abstract model. Kind: D -/
def Call.apply (log : List Entry) : Call → List Entry
  | .add m => pushEntry log m
  | .clear => [.single clearedMessage]

/-- The log after the welcome and a sequence of calls. Source: none: the abstract model.
Kind: D -/
def shownLog (calls : List Call) : List Entry :=
  calls.foldl Call.apply [.single welcomeMessage]

/-- The messages added since the last clear, newest first, after one more call. Source: none:
the abstract model. Kind: D -/
def Call.recent (acc : List ChatMessage) : Call → List ChatMessage
  | .add m => m :: acc
  | .clear => [clearedMessage]

/-- The messages added since the last clear (or since the welcome), newest first.
Source: none: the abstract model
Kind: D -/
def addedSinceClear (calls : List Call) : List ChatMessage :=
  calls.foldl Call.recent [welcomeMessage]

/-- Each entry's message, as many times as its count, newest first, by content and type.
Source: none: the abstract model. Kind: D -/
def expand (log : List Entry) : List (Json × MessageType) :=
  log.flatMap fun e => List.replicate e.count (e.message.content, e.message.type)

/-- No entry would absorb the entry after it: every repetition was counted. Source: none: the
abstract model. Kind: D -/
def Consolidated (log : List Entry) : Prop :=
  log.Chain' fun newer older => older.absorbs newer.message = false

/-- An add keeps the log consolidated. Source: none: the abstract model. Kind: L -/
theorem pushEntry_consolidated {log : List Entry} (h : Consolidated log) (m : ChatMessage) :
    Consolidated (pushEntry log m) := by
  cases log with
  | nil => exact List.chain'_singleton _
  | cons e es =>
    by_cases ha : e.absorbs m
    · simp only [pushEntry, ha, if_true]
      cases es with
      | nil => exact List.chain'_singleton _
      | cons _ _ => exact List.chain'_cons.mpr (List.chain'_cons.mp h)
    · simp only [pushEntry, ha, Bool.false_eq_true, if_false]
      exact List.chain'_cons.mpr ⟨by simpa using ha, h⟩

/-- An add puts one more copy of its message at the front of the expansion. Source: none: the
abstract model. Kind: L -/
theorem expand_pushEntry (log : List Entry) (m : ChatMessage) :
    expand (pushEntry log m) = (m.content, m.type) :: expand log := by
  cases log with
  | nil => rfl
  | cons e es =>
    by_cases ha : e.absorbs m
    · have ha' := ha
      simp only [Entry.absorbs, Bool.and_eq_true, beq_iff_eq] at ha'
      obtain ⟨⟨hm, he⟩, hc⟩ := ha'
      simp only [pushEntry, ha, if_true, expand, List.flatMap_cons, List.replicate_succ,
        List.cons_append]
      rw [eq_of_strictEq hc, hm, he]
    · simp only [pushEntry, ha, Bool.false_eq_true, if_false]
      rfl

/-- Calls keep the log consolidated. Source: none: the abstract model. Kind: L -/
theorem foldl_apply_consolidated :
    ∀ (calls : List Call) {log : List Entry}, Consolidated log →
      Consolidated (calls.foldl Call.apply log)
  | [], _, h => h
  | .add m :: cs, _, h => foldl_apply_consolidated cs (pushEntry_consolidated h m)
  | .clear :: cs, _, _ => foldl_apply_consolidated cs (List.chain'_singleton _)

/-- Calls keep the expansion equal to the messages added since the last clear. Source: none:
the abstract model. Kind: L -/
theorem foldl_apply_expand :
    ∀ (calls : List Call) {log : List Entry} {acc : List ChatMessage},
      expand log = acc.map (fun m => (m.content, m.type)) →
      expand (calls.foldl Call.apply log) =
        (calls.foldl Call.recent acc).map fun m => (m.content, m.type)
  | [], _, _, h => h
  | .add m :: cs, _, _, h =>
    foldl_apply_expand cs (by rw [Call.apply, expand_pushEntry, h]; rfl)
  | .clear :: cs, _, _, _ => foldl_apply_expand cs rfl

/-! ## The pane holds a log -/

/-- The count badge of an entry: `(n×)` once the message came twice. Source:
`graphide.contribution.ts` l. 187–196. Kind: D -/
def badgeText (n : Nat) : Option String :=
  if 2 ≤ n then some s!"({n}×)" else none

/-- The element an entry shows as. Source: `graphide.contribution.ts` l. 186–197, 218–267.
Kind: D -/
def entryEl (E : PaneEnv) (e : Entry) : MessageEl :=
  { messageEl e.message (E.markdownError e.message.content).isNone with badge := badgeText e.count }

/-- The pane holds the log `log` (newest entry first).
Source: `graphide.contribution.ts` l. 117–120, 176–267
Kind: D -/
structure Refines (E : PaneEnv) (log : List Entry) (p : Pane) : Prop where
  messages : p.messages = (log.map (·.message)).reverse
  dom : p.dom = (log.map (entryEl E)).reverse
  lastError : ∀ e es, log = e :: es → e.message.type = .error →
    p.lastErrorContent = e.message.content ∧ p.errorCount = e.count

/-- A pane holding no entry counts no add. Source: none: infrastructure. Kind: L -/
theorem Refines.counts_nil {E : PaneEnv} {p : Pane} (h : Refines E [] p) (m : ChatMessage) :
    p.counts m = false := by
  simp [Pane.counts, h.messages]

/-- The pane counts an add exactly when the log's newest entry absorbs it. Source: none:
infrastructure. Kind: L -/
theorem Refines.counts_cons {E : PaneEnv} {e : Entry} {es : List Entry} {p : Pane}
    (h : Refines E (e :: es) p) (m : ChatMessage) : p.counts m = e.absorbs m := by
  have hl : p.messages.getLast? = some e.message := by simp [h.messages]
  by_cases he : e.message.type = .error
  · simp [Pane.counts, Entry.absorbs, hl, he, (h.lastError e es rfl he).1, h.messages]
  · have hne : (e.message.type == .error) = false := by simpa using he
    simp [Pane.counts, Entry.absorbs, hl, hne]

/-- **The step lemma of an add.** The pane after `addMessage` holds the log with the message
pushed. Source: `graphide.contribution.ts` l. 176–267. Kind: L -/
theorem addMessage_refines {E : PaneEnv} {log : List Entry} {p : Pane} (h : Refines E log p)
    (m : ChatMessage) :
    Refines E (pushEntry log m) ((addMessage E m.role m.content m.type).run.run p).2 := by
  cases hc : p.counts m
  · rw [addMessage_run_push hc]
    have hpush : pushEntry log m = .single m :: log := by
      cases log with
      | nil => rfl
      | cons e es => simp [pushEntry, ← h.counts_cons, hc]
    rw [hpush]
    refine ⟨by simp [Pane.push, h.messages], ?_, ?_⟩
    · simp [Pane.push, h.dom, entryEl, badgeText, messageEl]
    · rintro e es ⟨⟩ he
      rw [Entry.single_message] at he
      simp [Pane.push, he]
  · rw [addMessage_run_counts hc]
    cases log with
    | nil => rw [h.counts_nil] at hc; cases hc
    | cons e es =>
      rw [h.counts_cons] at hc
      have he : e.message.type = .error := by
        simp only [Entry.absorbs, Bool.and_eq_true, beq_iff_eq] at hc
        exact hc.1.2
      obtain ⟨hlast, hcount⟩ := h.lastError e es rfl he
      have hel : (entryEl E e).isError = true := by
        simp [entryEl, MessageEl.isError, messageEl, he]
      simp only [pushEntry, hc, if_true]
      refine ⟨by simpa using h.messages, ?_, ?_⟩
      · rw [h.dom, List.map_cons, List.reverse_cons, setLastErrorBadge_append hel, hcount]
        simp [entryEl, badgeText, Nat.succ_le_succ e.count_pos]
      · rintro e' es' ⟨⟩ -
        exact ⟨hlast, by rw [hcount]⟩

/-- **The step lemma of a clear.** Whatever the pane held, after `clearHistory` it holds the one
message of the clear. Source: `graphide.contribution.ts` l. 170–174. Kind: L -/
theorem clearHistory_refines (E : PaneEnv) (p : Pane) :
    Refines E [.single clearedMessage] ((clearHistory E).run.run p).2 := by
  have hempty : Refines E [] { p with messages := [], dom := [] } :=
    ⟨rfl, rfl, fun _ _ h => nomatch h⟩
  simpa [clearHistory] using addMessage_refines hempty clearedMessage

/-! ## Over a run -/

/-- A call of the pane's log methods. Source: `graphide.contribution.ts` l. 170–216.
Kind: D -/
def Call.run (E : PaneEnv) : Call → Handler String Pane Unit
  | .add m => addMessage E m.role m.content m.type
  | .clear => clearHistory E

/-- The pane after a sequence of calls; a call that throws has changed the pane all the same.
Source: none: infrastructure
Kind: D -/
def runCalls (E : PaneEnv) (calls : List Call) (p : Pane) : Pane :=
  calls.foldl (fun p c => ((c.run E).run.run p).2) p

/-- The pane once `renderBody` has added its welcome. Source: `graphide.contribution.ts`
l. 140–168. Kind: D -/
def welcome (E : PaneEnv) : Pane :=
  ((renderBody E).run.run Pane.empty).2

/-- A call keeps the pane holding the log, with the call applied. Source: none:
infrastructure. Kind: L -/
theorem Call.run_refines {E : PaneEnv} {log : List Entry} {p : Pane} (h : Refines E log p) :
    ∀ c : Call, Refines E (Call.apply log c) ((c.run E).run.run p).2
  | .add m => addMessage_refines h m
  | .clear => clearHistory_refines E p

/-- **Run lemma.** Over any sequence of calls the pane holds the log with the calls applied.
Source: none: infrastructure. Kind: L -/
theorem runCalls_refines {E : PaneEnv} :
    ∀ {log : List Entry} {p : Pane} (calls : List Call), Refines E log p →
      Refines E (calls.foldl Call.apply log) (runCalls E calls p)
  | _, _, [], h => h
  | _, _, c :: cs, h => runCalls_refines cs (Call.run_refines h c)

/-- The welcome's pane holds the welcome entry. Source: `graphide.contribution.ts` l. 167.
Kind: L -/
theorem welcome_refines (E : PaneEnv) : Refines E [.single welcomeMessage] (welcome E) :=
  addMessage_refines (⟨rfl, rfl, fun _ _ h => nomatch h⟩ : Refines E [] Pane.empty) welcomeMessage

/-- **The log over a run.** After the welcome and any sequence of adds and clears, the
container shows the abstract log: each entry once, with the badge `(n×)` for a count `n ≥ 2`;
no entry would absorb the one after it; and the counts spell out, in order, exactly the
messages added since the last clear.
Source: `graphide.contribution.ts` l. 140–267
Kind: P -/
theorem runCalls_shows (E : PaneEnv) (calls : List Call) :
    (runCalls E calls (welcome E)).dom = ((shownLog calls).map (entryEl E)).reverse ∧
      Consolidated (shownLog calls) ∧
      expand (shownLog calls) = (addedSinceClear calls).map fun m => (m.content, m.type) :=
  ⟨(runCalls_refines calls (welcome_refines E)).dom,
    foldl_apply_consolidated calls (List.chain'_singleton _), foldl_apply_expand calls rfl⟩

end Graphide.Webview
