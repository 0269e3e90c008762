import Mathlib.Data.Rat.Defs

/-!
# JSON values, as both ends of the pipeline hold them

The Joern script builds its result with `ujson` (`ujson.Arr` of `ujson.Obj`) and the webview
receives the backend's reply as the value `JSON.parse` (inside `asJson`) builds. Both are the
same tree:

* `Json` — null, booleans, numbers, strings, arrays and objects. Numbers are rationals: every
  finite IEEE double is one, and JSON has no `NaN` or infinities. Objects are the members in
  source order; a key may occur twice, and which occurrence is read is the reader's business
  (`JSON.parse` keeps the last one, see `Graphide.Webview.getProp`).
* `Json.member?` — the member of an object, as the webview reads it.
* `except_bind_eq_ok` — the inversion of a sequence of `Except` steps, which both the Scala
  script (`Try`, throwing engine calls) and the webview (`TypeError`s) are modelled in.

Nested inductives get no derived `DecidableEq` in this toolchain, so the model decides what
it needs (a member equal to a string, truthiness) by `Bool`-valued functions instead.
-/

namespace Graphide

/-- A JSON value.
Source: `ujson.Value` (`src/unnamed/part_001` l. 412–422); the webview's `msg.data`
(`src/ide/webview-ui/src/App.tsx` l. 103–109)
Kind: D
Fidelity: exact -/
inductive Json
  | null
  | bool (b : Bool)
  | num (x : ℚ)
  | str (s : String)
  | arr (xs : List Json)
  | obj (members : List (String × Json))
  deriving Repr, Inhabited

namespace Json

/-- The value of the last member named `k` of an object (the one `JSON.parse` keeps); `none`
for a missing key and for every value that is not an object.
Source: JavaScript's `JSON.parse`, which defines each member in turn, so a later one overwrites
Kind: D -/
def member? (v : Json) (k : String) : Option Json :=
  match v with
  | .obj ms => (ms.reverse.find? (·.1 == k)).map (·.2)
  | _ => none

end Json

/-- A sequence of `Except` steps returns iff its first part returns and the rest, on that
value, returns. Both packages peel apart a computation that returned with it.
Source: none: infrastructure
Kind: L -/
theorem except_bind_eq_ok {ε α β : Type} {x : Except ε α} {f : α → Except ε β} {b : β} :
    x >>= f = .ok b ↔ ∃ a, x = .ok a ∧ f a = .ok b := by
  cases x <;> simp [bind, Except.bind]

end Graphide
