import Mathlib.Algebra.Order.Ring.Rat
import Graphide.Json

/-!
# JavaScript on a parsed reply

Package `Webview`, file 1. The webview reads the backend's reply, a value `JSON.parse` built,
through a handful of JavaScript operations. This file gives each its ECMAScript meaning on
`Json`; a property that may be missing is an `Option Json`, `none` being `undefined`.

* `Json.truthy`, `truthy` — `ToBoolean`.
* `getProp` — `v.name`: an own member of an object (the last of equal keys, the one
  `JSON.parse` keeps), `length` of an array or a string (in UTF-16 code units), `undefined` for
  anything else, and a `TypeError` on `null` or `undefined`.
* `isStr`, `isZero` — `v === 'text'`, `v === 0`.
* `JsEngine`, `gtZero` — `v > 0`: exact for `undefined`, `null`, booleans and numbers. For a
  string, an array or an object the comparison goes through `ToPrimitive` and
  `StringToNumber`, which the model takes from the engine (`JsEngine.aboveZero`); every theorem
  holds for every engine.
* `mapList` — `v.map(f)` reaches the elements of an array; anything else has no callable `map`
  (a parsed value holds no function), and the call throws a `TypeError`.
* `jsOr`, `getPropOpt`, `strictEq` — `a || b`, `v?.name`, and `a === b` of two values read
  from replies.
* `iterate` — `for (const x of v)`: an array's elements, a string's code points; anything else
  a parsed value can be is not iterable.
* `Json.someLeaf`, `jsToString` — what an array's `join` (and React, for an array child)
  visits, and a template literal's `${v}`, which throws only for an object whose own
  `toString` member, never callable in a parsed value, hides `Object.prototype.toString`.

The errors React and `marked` raise on a value they cannot render are modelled where the view
renders (`AnalysisView`).
-/

namespace Graphide

/-- JavaScript's `ToBoolean` of a JSON value: `null`, `false`, `0` and `""` are falsy.
Source: ECMAScript `ToBoolean`, as the webview applies it (`src/ide/webview-ui/src/App.tsx`
l. 107, 308, 345, 352, 417)
Kind: D
Fidelity: exact -/
def Json.truthy : Json → Bool
  | .null => false
  | .bool b => b
  | .num x => x != 0
  | .str s => !s.isEmpty
  | .arr _ => true
  | .obj _ => true

mutual

/-- Whether `p` holds of `v` or, through arrays, of a value nested in it: the values an array's
`join` converts, and those React renders of an array child.
Source: ECMAScript `Array.prototype.join`; React's reconciliation of an array child
Kind: D -/
def Json.someLeaf (p : Json → Bool) : Json → Bool
  | .arr xs => Json.someLeafList p xs
  | v => p v

/-- `Json.someLeaf` over the elements of an array. Source: ECMAScript `Array.prototype.join`.
Kind: D -/
def Json.someLeafList (p : Json → Bool) : List Json → Bool
  | [] => false
  | x :: xs => x.someLeaf p || Json.someLeafList p xs

end

namespace Webview

/-- `ToBoolean` of a value that may be `undefined`. Source: ECMAScript `ToBoolean`. Kind: D -/
def truthy : Option Json → Bool
  | none => false
  | some v => v.truthy

/-- `undefined` is falsy. Source: ECMAScript `ToBoolean`. Kind: L -/
@[simp] theorem truthy_none : truthy none = false := rfl

/-- A present value is as truthy as it is. Source: ECMAScript `ToBoolean`. Kind: L -/
@[simp] theorem truthy_some (v : Json) : truthy (some v) = v.truthy := rfl

/-- A `TypeError` the webview's code can throw on a reply: a property read on `null` or
`undefined`, a call of something that is not a function, a value with no primitive form, or a
`for`-`of` over a value that is not iterable.
Source: ECMAScript `GetValue`, `Call`, `ToPrimitive`, `GetIterator`
Kind: D -/
inductive TypeError
  | readOfNullish (name : String)
  | notAFunction (name : String)
  | noPrimitive
  | notIterable
  deriving DecidableEq, Repr

/-- The length of a string in UTF-16 code units, JavaScript's `s.length`.
Source: ECMAScript `String.prototype.length`
Kind: D -/
def utf16Length (s : String) : Nat :=
  s.foldl (fun n c => n + if c.toNat < 0x10000 then 1 else 2) 0

/-- `v.name` on a value read from a reply.
Source: ECMAScript property access, as `results.status`, `results.vulnerabilities`,
`v.length`, ... read it (`src/ide/webview-ui/src/App.tsx` l. 355–413)
Kind: D
Fidelity: exact -/
def getProp : Option Json → String → Except TypeError (Option Json)
  | none, name => .error (.readOfNullish name)
  | some .null, name => .error (.readOfNullish name)
  | some (.obj ms), name => .ok ((Json.obj ms).member? name)
  | some (.arr xs), name => .ok (if name = "length" then some (.num xs.length) else none)
  | some (.str s), name => .ok (if name = "length" then some (.num (utf16Length s)) else none)
  | some (.num _), _ => .ok none
  | some (.bool _), _ => .ok none

/-- A property read on a truthy value never throws. Source: none: infrastructure. Kind: L -/
theorem getProp_of_truthy {v : Option Json} (hv : truthy v = true) (name : String) :
    ∃ p, getProp v name = .ok p := by
  rcases v with _ | ⟨_ | b | x | s | xs | ms⟩ <;> simp_all [getProp, Json.truthy]

/-- `v === 'text'`. Source: ECMAScript `IsStrictlyEqual`. Kind: D -/
def isStr (v : Option Json) (text : String) : Bool :=
  match v with
  | some (.str s) => s == text
  | _ => false

/-- `v === 0`. Source: ECMAScript `IsStrictlyEqual`. Kind: D -/
def isZero : Option Json → Bool
  | some (.num x) => x == 0
  | _ => false

/-- What the model takes from the JavaScript engine: `v > 0` for a string, an array or an
object `v`, which converts `v` by `ToPrimitive` and `StringToNumber`, and throws when an object
has no callable `toString` or `valueOf`.
Source: ECMAScript `IsLessThan`
Kind: D -/
structure JsEngine where
  aboveZero : Json → Except TypeError Bool

/-- `v > 0`.
Source: ECMAScript `IsLessThan`, as `results.vulnerabilities.length > 0` reads it
(`src/ide/webview-ui/src/App.tsx` l. 355–368, 401)
Kind: D
Fidelity: exact -/
def gtZero (J : JsEngine) : Option Json → Except TypeError Bool
  | none => .ok false
  | some .null => .ok false
  | some (.bool b) => .ok b
  | some (.num x) => .ok (decide (0 < x))
  | some v => J.aboveZero v

/-- `v.map(f)`: the elements of an array, in order; a `TypeError` for anything else.
Source: ECMAScript `Array.prototype.map`, as `results.vulnerabilities.map(...)` and its
siblings call it (`src/ide/webview-ui/src/App.tsx` l. 370, 387, 404)
Kind: D
Fidelity: exact -/
def mapList : Option Json → Except TypeError (List Json)
  | none => .error (.readOfNullish "map")
  | some .null => .error (.readOfNullish "map")
  | some (.arr xs) => .ok xs
  | some _ => .error (.notAFunction "map")

/-- `a || b`: `a` when it is truthy, `b` otherwise.
Source: ECMAScript `LogicalORExpression`, as `n.caption || n.code || n.id` and its siblings
evaluate it
Kind: D
Fidelity: exact -/
def jsOr (a b : Option Json) : Option Json :=
  if truthy a then a else b

/-- `v?.name`: `undefined` on `null` or `undefined`, `v.name` otherwise.
Source: ECMAScript `OptionalExpression`, as `data?.agentOutputs` reads it
(`graphide.contribution.ts` l. 307, 311)
Kind: D
Fidelity: exact -/
def getPropOpt (v : Option Json) (name : String) : Except TypeError (Option Json) :=
  match v with
  | none | some .null => .ok none
  | _ => getProp v name

/-- `a === b` for two values read from different parses: primitives compare by value, and an
array or an object is never the same object as another value.
Source: ECMAScript `IsStrictlyEqual`
Kind: D
Fidelity: exact -/
def strictEq : Json → Json → Bool
  | .null, .null => true
  | .bool a, .bool b => a == b
  | .num a, .num b => a == b
  | .str a, .str b => a == b
  | _, _ => false

/-- Strictly equal values are equal. Source: none: infrastructure. Kind: L -/
theorem eq_of_strictEq : ∀ {a b : Json}, strictEq a b = true → a = b
  | .null, .null, _ => rfl
  | .bool _, .bool _, h => by simp_all [strictEq]
  | .num _, .num _, h => by simp_all [strictEq]
  | .str _, .str _, h => by simp_all [strictEq]

/-- The values `for (const x of v)` visits: an array's elements, a string's code points (each a
string of its own); anything else a parsed value can be has no `Symbol.iterator` and throws.
Source: ECMAScript `ForIn/OfHeadEvaluation`, `GetIterator`, `String.prototype[@@iterator]`
Kind: D
Fidelity: exact -/
def iterate : Option Json → Except TypeError (List Json)
  | some (.arr xs) => .ok xs
  | some (.str s) => .ok (s.toList.map fun c => .str (String.singleton c))
  | _ => .error .notIterable

/-- `${v}` in a template literal: `ToString`, which throws a `TypeError` exactly for a value that
is, or holds through arrays, an object with an own `toString` member. A parsed value holds no
function, so that member hides `Object.prototype.toString`, and `Object.prototype.valueOf`
returns the object itself; every other value converts.
Source: ECMAScript `ToString`, `OrdinaryToPrimitive`, `Array.prototype.join`, as
`` `severity-${v.severity}` `` evaluates it (`src/ide/webview-ui/src/App.tsx` l. 371–377)
Kind: D
Fidelity: exact -/
def jsToString : Option Json → Except TypeError Unit
  | some v =>
    if v.someLeaf (fun x => match x with | .obj ms => ms.any (·.1 == "toString") | _ => false)
    then .error .noPrimitive else .ok ()
  | none => .ok ()

end Webview

end Graphide