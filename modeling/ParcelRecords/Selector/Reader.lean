import ParcelRecords.Selector.Token

/-!
# Reading selectors

Puts the parts of a selector together. A selector that is not well formed is refused as a whole;
only lists of the forgiving kind take an alternative that is missing or cut short for one that no
element meets.

## Main definitions

* `Selector.Alternatives` is what was read of a list of alternatives.
* `Selector.alternatives?` reads alternatives on one element, `Selector.onwards?` those on elements
  it leads to.
* `Selector.read?` reads a selector.
-/

namespace ParcelRecords.Selector

/-- Where a list of alternatives ends: with the text, or at a closing parenthesis. -/
inductive Extent where
  | whole
  | enclosed (forgiving : Bool)

/-- Whether missing alternatives are forgiven. -/
def Extent.forgives : Extent → Bool
  | .whole => false
  | .enclosed forgiving => forgiving

/-! ## Alternatives on one element -/

/-- What was read of a list of alternatives: those complete, what stands left of the current
element, and the conditions on it. -/
structure Alternatives where
  complete : List Complex := []
  left : Option (Complex × Combinator) := none
  here : List Simple := []

namespace Alternatives

/-- Adds conditions on the current element. -/
def add (conditions : List Simple) (a : Alternatives) : Alternatives :=
  { a with here := a.here ++ conditions }

/-- The current alternative. -/
def current (a : Alternatives) : Complex :=
  match a.left with
  | none => .compound a.here
  | some (left, c) => .related left c a.here

/-- An alternative that no element meets. -/
def unmet : Complex :=
  .compound [.never]

/-- Goes on to the next alternative. -/
def comma? (extent : Extent) (a : Alternatives) : Option Alternatives :=
  if !a.here.isEmpty then some { complete := a.complete ++ [a.current] }
  else if extent.forgives then some { complete := a.complete ++ [unmet] }
  else none

/-- Goes on to a related element. -/
def relate? (c : Combinator) (a : Alternatives) : Option Alternatives :=
  if a.here.isEmpty then none else some { a with left := some (a.current, c), here := [] }

/-- The alternatives at the end. A last one that is cut short is forgiven only if it is the first.
-/
def finish? (extent : Extent) (a : Alternatives) : Option (List Complex) :=
  if !a.here.isEmpty then some (a.complete ++ [a.current])
  else if extent.forgives && (a.complete.isEmpty || a.left.isNone) then some (a.complete ++ [unmet])
  else none

end Alternatives

/-! ## Alternatives on other elements -/

/-- What was read of a list of ways onward: those complete, the steps of the current one, and the
combinator and the conditions of its last step. -/
structure Onwards where
  complete : List Onward := []
  steps : List (Combinator × List Simple) := []
  combinator : Combinator := .inside
  here : List Simple := []

namespace Onwards

/-- Adds conditions on the element of the last step. -/
def add (conditions : List Simple) (o : Onwards) : Onwards :=
  { o with here := o.here ++ conditions }

/-- Steps one after another. -/
def chain : List (Combinator × List Simple) → Onward
  | [] => .stop
  | (c, conditions) :: rest => .go c conditions (chain rest)

/-- The ways onward at the end of the current one, which needs conditions on its last element. -/
def finish? (o : Onwards) : Option (List Onward) :=
  if o.here.isEmpty then none
  else some (o.complete ++ [chain (o.steps ++ [(o.combinator, o.here)])])

/-- Goes on to the next way. -/
def comma? (o : Onwards) : Option Onwards :=
  o.finish?.map fun complete => { complete }

/-- Goes on by a combinator; the first one of a way may stand at its beginning. -/
def relate? (c : Combinator) (o : Onwards) : Option Onwards :=
  if !o.here.isEmpty then
    some { o with steps := o.steps ++ [(o.combinator, o.here)], combinator := c, here := [] }
  else if o.combinator = .inside then some { o with combinator := c }
  else none

end Onwards

/-! ## Lists -/

mutual

/-- Reads a list that was begun, as one condition. -/
def opened? (kind : Opening) : Nat → List Token → Option (Simple × List Token)
  | 0, _ => none
  | fuel + 1, ts =>
    match kind with
    | .anyOf forgiving =>
      (alternatives? (.enclosed forgiving) {} fuel ts).map fun r => (.anyOf r.1, r.2)
    | .noneOf => (alternatives? (.enclosed false) {} fuel ts).map fun r => (.noneOf r.1, r.2)
    | .leadsTo => (onwards? {} fuel ts).map fun r => (.leadsTo r.1, r.2)
    | .position fromLast rule =>
      (alternatives? (.enclosed false) {} fuel ts).map fun r => (.position fromLast rule r.1, r.2)

/-- Reads alternatives on one element. -/
def alternatives? (extent : Extent) (a : Alternatives) :
    Nat → List Token → Option (List Complex × List Token)
  | 0, _ => none
  | _ + 1, [] =>
    match extent with
    | .whole => (a.finish? extent).map (·, [])
    | .enclosed _ => none
  | fuel + 1, t :: ts =>
    match t with
    | .conditions conditions => alternatives? extent (a.add conditions) fuel ts
    | .type condition =>
      if a.here.isEmpty then alternatives? extent (a.add [condition]) fuel ts else none
    | .opening kind => do
      let (condition, ts) ← opened? kind fuel ts
      alternatives? extent (a.add [condition]) fuel ts
    | .close =>
      match extent with
      | .whole => none
      | .enclosed _ => (a.finish? extent).map (·, ts)
    | .comma => do alternatives? extent (← a.comma? extent) fuel ts
    | .combinator c => do alternatives? extent (← a.relate? c) fuel ts

/-- Reads ways onward from an element, up to a closing parenthesis. -/
def onwards? (o : Onwards) : Nat → List Token → Option (List Onward × List Token)
  | 0, _ | _ + 1, [] => none
  | fuel + 1, t :: ts =>
    match t with
    | .conditions conditions => onwards? (o.add conditions) fuel ts
    | .type condition => if o.here.isEmpty then onwards? (o.add [condition]) fuel ts else none
    | .opening kind => do
      let (condition, ts) ← opened? kind fuel ts
      onwards? (o.add [condition]) fuel ts
    | .close => o.finish?.map (·, ts)
    | .comma => do onwards? (← o.comma?) fuel ts
    | .combinator c => do onwards? (← o.relate? c) fuel ts

end

/-- **Reading a selector**; nothing if it is not well formed. Every part takes two steps at most, so
that twice their number is fuel enough. -/
def read? (selector : String) : Option Selector := do
  let ts ← tokens? selector
  let (alternatives, _) ← alternatives? .whole {} (2 * ts.length + 1) ts
  pure ⟨alternatives⟩

end ParcelRecords.Selector
