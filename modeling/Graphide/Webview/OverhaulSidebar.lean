import Graphide.Webview.OverhaulInvariants

/-!
# The sidebar's highlighted icon

Package `Webview`, file 20. The overhauled pane's sidebar holds a brand icon and four navigation
icons. A click of a navigation icon takes the `active` class from every icon, gives it to the one
clicked, and switches the pane to that icon's view; Analyze Files, away from the editor, clicks
the editor's icon. The sidebar is modelled beside the session, over the same steps: its step
reads the pane's active view, and no handler of the pane reads the sidebar.

* `NavIcon`, `renderSidebar`, `clickIcon`, `sidebarStep`, `runWithSidebar` — the icons
  `renderSidebar` creates, what a click does to them, and the pane with its sidebar after a
  session's steps.
* `Highlights`, `Highlights.step` — exactly one icon, of a given view, has the `active` class; a
  step moves it to the view the step switches the pane to.
* `Session.step_activeView` — the view each step leaves the pane on: the icon's for a click,
  the editor for Analyze Files, the one it was on for every other step.
* `session_sidebar` — **the sidebar highlights the active view**: in every session the sidebar
  highlights exactly one icon, that of the view the pane is on, which is the last view switched
  to, by an icon or by Analyze Files.
-/

namespace Graphide.Webview.Overhaul

open Handler

/-! ## The icons -/

/-- A sidebar icon (`.graphide-nav-icon`): the view in its `data-view`, none for the brand icon,
and whether it has the `active` class. Source: `src/unnamed/part_003` l. 130–158. Kind: D -/
structure NavIcon where
  view : Option ViewType
  active : Bool
  deriving DecidableEq, Repr

/-- The icons `renderSidebar` creates, in order: the brand icon, then `createNavIcon`'s for the
editor (active), the dashboard, the graph and the settings.
Source: `src/unnamed/part_003` l. 130–158
Kind: D
Fidelity: exact -/
def renderSidebar : List NavIcon :=
  [⟨none, false⟩, ⟨some .editor, true⟩, ⟨some .dashboard, false⟩, ⟨some .graph, false⟩,
    ⟨some .settings, false⟩]

/-- The first two lines of a navigation icon's click listener: every `.graphide-nav-icon` of the
sidebar loses the `active` class, then the icon clicked, the `i`-th, gets it.
Source: `src/unnamed/part_003` l. 162–165
Kind: D
Fidelity: exact -/
def clickIcon (icons : List NavIcon) (i : Nat) : List NavIcon :=
  (icons.map fun icon => { icon with active := false }).modify
    (fun icon => { icon with active := true }) i

/-- The icon whose listener switches to `view`: the one `createNavIcon` made for it, the first
with `view` in its `data-view`. Source: `src/unnamed/part_003` l. 141–158. Kind: D -/
def navIndex (icons : List NavIcon) (view : ViewType) : Nat :=
  icons.findIdx fun icon => icon.view == some view

/-- What a step does to the sidebar, on a pane on `activeView`: a click of a navigation icon, and
Analyze Files away from the editor, which clicks the editor's icon (the first element with
`data-view="editor"`: the sidebar's, as `openEditor` has it).
Source: `src/unnamed/part_003` l. 161–167, 457–463
Kind: D -/
def sidebarStep (icons : List NavIcon) (activeView : ViewType) : Step → List NavIcon
  | .nav view => clickIcon icons (navIndex icons view)
  | .analyze => if activeView != .editor then clickIcon icons (navIndex icons .editor) else icons
  | _ => icons

/-- The views of the icons with the `active` class, in order. Source: none: what the sidebar
shows. Kind: D -/
def highlighted (icons : List NavIcon) : List (Option ViewType) :=
  (icons.filter (·.active)).map (·.view)

/-! ## What a click shows -/

/-- A click highlights the icon clicked and no other. Source: `src/unnamed/part_003` l. 162–165.
Kind: L -/
theorem highlighted_clickIcon :
    ∀ (icons : List NavIcon) (i : Nat) {icon : NavIcon}, icons[i]? = some icon →
      highlighted (clickIcon icons i) = [icon.view]
  | [], _, _, h => nomatch h
  | a :: rest, 0, _, h => by
    rw [List.getElem?_cons_zero, Option.some.injEq] at h
    subst h
    simp [clickIcon, highlighted, Function.comp_def]
  | a :: rest, i + 1, _, h => by
    rw [List.getElem?_cons_succ] at h
    simpa [clickIcon, highlighted] using highlighted_clickIcon rest i h

/-- A click changes no icon's view. Source: `src/unnamed/part_003` l. 162–165. Kind: L -/
theorem views_clickIcon : ∀ (icons : List NavIcon) (i : Nat),
    (clickIcon icons i).map (·.view) = icons.map (·.view)
  | [], i => by cases i <;> rfl
  | a :: rest, 0 => by simp [clickIcon, Function.comp_def]
  | a :: rest, i + 1 => by simpa [clickIcon] using views_clickIcon rest i

/-- The icon `navIndex` finds has the view looked for, when one has. Source: none:
infrastructure. Kind: L -/
theorem getElem?_navIndex {icons : List NavIcon} {view : ViewType}
    (h : some view ∈ icons.map (·.view)) :
    ∃ icon, icons[navIndex icons view]? = some icon ∧ icon.view = some view := by
  obtain ⟨icon, hmem, hv⟩ := List.mem_map.mp h
  have hlt := List.findIdx_lt_length_of_exists
    (p := fun icon : NavIcon => icon.view == some view) ⟨icon, hmem, by simp [hv]⟩
  exact ⟨_, List.getElem?_eq_getElem hlt, by simpa using List.findIdx_getElem (w := hlt)⟩

/-! ## The highlighted icon over a session -/

/-- The view a step switches the pane to: an icon's, and the editor for Analyze Files. Source:
`src/unnamed/part_003` l. 166, 457–463. Kind: D -/
def Step.switchesTo : Step → Option ViewType
  | .nav view => some view
  | .analyze => some .editor
  | _ => none

/-- The last view switched to, the editor before any switch. Source: none: the abstract model.
Kind: D -/
def lastShown (steps : List Step) : ViewType :=
  steps.foldl (fun view st => st.switchesTo.getD view) .editor

/-- The sidebar holds the icons `renderSidebar` made, and exactly one, of `view`, is
highlighted. Source: `src/unnamed/part_003` l. 130–167. Kind: D -/
structure Highlights (view : ViewType) (icons : List NavIcon) : Prop where
  views : icons.map (·.view) = renderSidebar.map (·.view)
  active : highlighted icons = [some view]

/-- A click of the icon of `view` highlights it. Source: `src/unnamed/part_003` l. 161–165.
Kind: L -/
theorem Highlights.click {v : ViewType} {icons : List NavIcon} (h : Highlights v icons)
    (view : ViewType) : Highlights view (clickIcon icons (navIndex icons view)) := by
  have hmem : some view ∈ icons.map (·.view) := by rw [h.views]; cases view <;> decide
  obtain ⟨icon, hi, hv⟩ := getElem?_navIndex hmem
  exact ⟨(views_clickIcon icons _).trans h.views,
    (highlighted_clickIcon icons _ hi).trans (by rw [hv])⟩

/-- **The step lemma of the sidebar.** A step moves the highlight to the view it switches the
pane to: a click's, and the editor's for Analyze Files, which clicks that icon unless the pane is
on the editor already. Source: `src/unnamed/part_003` l. 161–167, 457–463. Kind: L -/
theorem Highlights.step {view : ViewType} {icons : List NavIcon} (h : Highlights view icons) :
    ∀ st, Highlights (st.switchesTo.getD view) (sidebarStep icons view st)
  | .nav v => h.click v
  | .analyze => by
    by_cases he : view = .editor
    · subst he
      exact h
    · simpa [sidebarStep, Step.switchesTo, he] using h.click .editor
  | .clear | .chosen _ _ | .reply _ _ | .tick _ => h

/-- **Run lemma** of a step function simulated by another: a relation that each step keeps holds
after any sequence of steps. Source: none: infrastructure. Kind: L -/
theorem foldl_sim {α β : Type} {R : α → β → Prop} {f : α → Step → α} {g : β → Step → β}
    (hstep : ∀ a b st, R a b → R (f a st) (g b st)) :
    ∀ (steps : List Step) (a : α) (b : β), R a b → R (steps.foldl f a) (steps.foldl g b)
  | [], _, _, h => h
  | st :: steps, _, _, h => foldl_sim hstep steps _ _ (hstep _ _ st h)

/-! ## The view the pane is on -/

section ActiveView

variable (E : OverhaulEnv)

/-- An add, whether it returns or throws, leaves the pane on its view. Source:
`src/unnamed/part_003` l. 358–360. Kind: L -/
theorem addMessage_activeView (view : ViewType) (role : Role) (content : Json)
    (type : MessageType) :
    Triple (fun p : Pane => p.activeView = view) (addMessage E role content type)
      (fun _ p => p.activeView = view) (fun _ p => p.activeView = view) :=
  Triple.of_state fun p hp => by
    rw [addMessage_run_state]
    exact (congrArg Prod.fst
      (addMessageWithStreamOption_views E role content type false false p)).trans hp

/-- A switch leaves the pane on the view switched to, whether the settings view's warning is
added or throws. Source: `src/unnamed/part_003` l. 170–194. Kind: L -/
theorem switchView_activeView (view : ViewType) (p : Pane) :
    ((switchView E view).run.run p).2.activeView = view := by
  refine Triple.state_of (P := fun _ => True) (I := fun p : Pane => p.activeView = view) ?_ trivial
  unfold switchView
  refine Triple.bind (Triple.of_state fun _ _ => rfl) fun _ => ?_
  cases view with
  | settings =>
    exact Triple.bind (addMessage_activeView E _ _ _ _) fun _ => Triple.of_state fun _ h => h
  | _ => exact Triple.of_state fun _ h => h

/-- Analyze Files leaves the pane on the editor. Source: `src/unnamed/part_003` l. 457–463.
Kind: L -/
theorem openEditor_activeView (p : Pane) : ((openEditor E).run.run p).2.activeView = .editor := by
  simp only [openEditor, run_get_bind]
  split
  · rw [run_tryCatch]
    exact switchView_activeView E .editor p
  · simp_all

/-- **The step lemma of the active view.** Source: `src/unnamed/part_003` l. 154–194, 352–521.
Kind: L -/
theorem Session.step_activeView (s : Session) (st : Step) :
    (s.step E st).pane.activeView = st.switchesTo.getD s.pane.activeView := by
  have hC := views_contentStable E fun w => w.1 = s.pane.activeView
  cases st with
  | clear => exact hC.clear _ rfl
  | nav view => exact switchView_activeView E view s.pane
  | analyze => exact openEditor_activeView E s.pane
  | chosen filePath fileName =>
    rw [Session.step_chosen_pane, analyzeStart]
    exact congrArg Prod.fst (addMessageWithStreamOption_views E _ _ _ false true s.pane)
  | reply k answer =>
    simp only [Session.step]
    split
    · exact (analyzeReply_keeps hC _ answer).state_of rfl
    · rfl
  | tick j => exact hC.tick _ j rfl

/-- The pane and its sidebar after a sequence of steps. Source: none: infrastructure. Kind: D -/
def runWithSidebar (steps : List Step) : Session × List NavIcon :=
  steps.foldl (fun w st => (w.1.step E st, sidebarStep w.2 w.1.pane.activeView st))
    (Session.initial E, renderSidebar)

/-- The pane's part of the run is the session's. Source: none: infrastructure. Kind: L -/
theorem runWithSidebar_fst (steps : List Step) : (runWithSidebar E steps).1 = runSession E steps :=
  foldl_sim (R := fun (s : Session) (w : Session × List NavIcon) => w.1 = s) (f := Session.step E)
    (fun _ _ _ h => by rw [h]) steps _ _ rfl

/-- `renderBody` leaves the pane on the editor. Source: `src/unnamed/part_003` l. 60, 90–128.
Kind: L -/
theorem initial_activeView : (Session.initial E).pane.activeView = .editor := by
  refine Triple.state_of (P := fun p : Pane => p.activeView = .editor) (I := fun p : Pane =>
    p.activeView = .editor) ?_ (s := Pane.initial) rfl
  unfold renderBody
  exact Triple.bind (Triple.of_state fun _ h => h) fun _ =>
    Triple.bind (addMessage_activeView E _ _ _ _) fun _ => Triple.of_state fun _ h => h

/-- **Run lemma.** The pane is on the last view switched to, and its sidebar highlights that
view's icon. Source: none: infrastructure. Kind: L -/
theorem runWithSidebar_highlights (steps : List Step) :
    (runWithSidebar E steps).1.pane.activeView = lastShown steps ∧
      Highlights (lastShown steps) (runWithSidebar E steps).2 := by
  refine foldl_sim (R := fun view (w : Session × List NavIcon) =>
    w.1.pane.activeView = view ∧ Highlights view w.2) (f := fun view st => st.switchesTo.getD view)
    (fun _ w st h => ?_) steps _ _ ⟨initial_activeView E, rfl, rfl⟩
  rw [← h.1]
  exact ⟨Session.step_activeView E w.1 st, h.1 ▸ h.2.step st⟩

end ActiveView

/-- **The sidebar highlights the active view.** In every session, whatever the order of the
handlers and intervals and whatever the backend answers, the sidebar highlights exactly one icon,
that of the view the pane is on; and that view is the last one switched to, by an icon or by
Analyze Files (the editor before any switch).
Source: `src/unnamed/part_003` l. 130–194, 455–464
Kind: P -/
theorem session_sidebar (E : OverhaulEnv) (steps : List Step) :
    highlighted (runWithSidebar E steps).2 = [some (runSession E steps).pane.activeView] ∧
      (runSession E steps).pane.activeView = lastShown steps := by
  obtain ⟨hv, hh⟩ := runWithSidebar_highlights E steps
  rw [← runWithSidebar_fst, hv]
  exact ⟨hh.active, rfl⟩

end Graphide.Webview.Overhaul
