import Graphide.Joern.Script

/-!
# Two programs on one world

Package `Joern`, file 7. One Joern server (`./joern --server`, `src/README.md` l. 114–117)
keeps one workspace, and every scan run against it addresses that workspace. Here two `Proc`s
take turns on one world, a schedule choosing who takes each atomic step.

* `Config`, `Config.step`, `Config.run` — the two programs and the world; one scheduling
  decision; a whole schedule, with the `Move`s it made (who moved, the world before and after).
  A finished program's turns are skipped.
* `Config.run_obeys` — **the step logic is sound under interleaving**: whatever the schedule,
  each move satisfies the step predicate that its own program was proved to keep
  (`Proc.Sat`), so a fact proved of one program's steps holds against any partner. The step
  lemma is `Config.step_obeys`.
-/

namespace Graphide.Joern

namespace Proc

variable {α : Type} {P : World → World → Prop} {Q : α → Prop}

/-- Inversion of `Sat` at a step: the step satisfies `P` from every world, and so does every
continuation. Source: none: infrastructure. Kind: L -/
theorem Sat.of_step {act : World → World} {next : World → Proc α}
    (h : Sat P Q (.step act next)) : (∀ w, P w (act w)) ∧ ∀ w, Sat P Q (next w) := by
  cases h with
  | step _ _ hp hn => exact ⟨hp, hn⟩

/-- Whether the program has returned or thrown. Source: none: infrastructure. Kind: D -/
def isDone : Proc α → Bool
  | .done _ => true
  | .step _ _ => false

end Proc

/-- Two programs sharing one world. Source: none: infrastructure. Kind: D -/
structure Config (α β : Type) where
  left : Proc α
  right : Proc β
  world : World

/-- One atomic step of an interleaving: whether the left program made it, and the world before
and after. Source: none: infrastructure. Kind: D -/
structure Move where
  left : Bool
  before : World
  after : World

/-- A move satisfies the step predicate of the program that made it. Source: none:
infrastructure. Kind: D -/
def Move.Obeys (PL PR : World → World → Prop) (m : Move) : Prop :=
  if m.left then PL m.before m.after else PR m.before m.after

namespace Config

variable {α β : Type}

/-- One scheduling decision: `true` lets the left program take its next step, `false` the
right one; a finished program's turn changes nothing.
Source: none: infrastructure
Kind: D -/
def step (c : Config α β) : Bool → Config α β × Option Move
  | true =>
    match c.left with
    | .step act next => (⟨next c.world, c.right, act c.world⟩, some ⟨true, c.world, act c.world⟩)
    | .done _ => (c, none)
  | false =>
    match c.right with
    | .step act next => (⟨c.left, next c.world, act c.world⟩, some ⟨false, c.world, act c.world⟩)
    | .done _ => (c, none)

/-- A whole schedule: the configuration it reaches and the moves it made, in order.
Source: none: infrastructure
Kind: D -/
def run (c : Config α β) : List Bool → Config α β × List Move
  | [] => (c, [])
  | who :: s =>
    let r := (c.step who).1.run s
    (r.1, (c.step who).2.toList ++ r.2)

/-- No move is scheduled on an empty schedule. Source: none: the interleaving semantics. Kind: L -/
@[simp] theorem run_nil (c : Config α β) : c.run [] = (c, []) := rfl

/-- A schedule's head moves first, and the rest runs from where it left the configuration. Source:
none: the interleaving semantics. Kind: L -/
theorem run_cons (c : Config α β) (who : Bool) (s : List Bool) :
    c.run (who :: s) =
      (((c.step who).1.run s).1, (c.step who).2.toList ++ ((c.step who).1.run s).2) :=
  rfl

section Obeys

variable {PL PR : World → World → Prop} {QL : α → Prop} {QR : β → Prop}

/-- **Step lemma.** One scheduling decision keeps both programs' `Sat`, and its move obeys the
predicate of the program that made it.
Source: none: infrastructure
Kind: L -/
theorem step_obeys {c : Config α β} (hL : Proc.Sat PL QL c.left) (hR : Proc.Sat PR QR c.right)
    (who : Bool) :
    Proc.Sat PL QL (c.step who).1.left ∧ Proc.Sat PR QR (c.step who).1.right ∧
      ∀ m ∈ (c.step who).2, m.Obeys PL PR := by
  obtain ⟨a, b, w⟩ := c
  cases who with
  | true =>
    cases a with
    | done r => exact ⟨hL, hR, by simp [step]⟩
    | step act next =>
      obtain ⟨hp, hn⟩ := hL.of_step
      exact ⟨hn w, hR, by simp [step, Move.Obeys, hp]⟩
  | false =>
    cases b with
    | done r => exact ⟨hL, hR, by simp [step]⟩
    | step act next =>
      obtain ⟨hp, hn⟩ := hR.of_step
      exact ⟨hL, hn w, by simp [step, Move.Obeys, hp]⟩

/-- **Run lemma.** Under every schedule, every move obeys the step predicate of the program
that made it.
Source: none: infrastructure
Kind: L -/
theorem run_obeys : ∀ (s : List Bool) (c : Config α β), Proc.Sat PL QL c.left →
    Proc.Sat PR QR c.right → ∀ m ∈ (c.run s).2, m.Obeys PL PR
  | [], _, _, _ => by simp
  | who :: s, c, hL, hR => by
    obtain ⟨hL', hR', hm⟩ := step_obeys hL hR who
    intro m h
    rw [run_cons, List.mem_append, Option.mem_toList] at h
    rcases h with h | h
    exacts [hm m h, run_obeys s _ hL' hR' m h]

end Obeys

end Config

end Graphide.Joern
