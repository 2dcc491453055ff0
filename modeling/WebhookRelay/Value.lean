import WebhookRelay.Binary64.Basic
import WebhookRelay.Text.Wide

/-! # Payload values

A payload is a JSON value.  Integers and binary64 numbers are kept apart: `5` and
`5.0` are equal as numbers but print differently inside containers.  Texts that are
garbled are kept apart from the others.  An object is the list of its entries in the
order in which their keys first appeared.

A container is met at a **place**, the list of steps that lead to it from the
root of the payload.  Since no container of a payload occurs at two places, the
place also stands for the identity of the container.
-/

namespace WebhookRelay

/-- A JSON value. -/
inductive Value where
  | null
  | bool (b : Bool)
  | int (n : Int)
  | float (x : Binary64)
  | text (s : String)
  /-- A text that holds half of a surrogate pair. -/
  | garbled (g : Garbled)
  | list (items : List Value)
  | object (entries : List (Wide × Value))

namespace Value

instance : Inhabited Value := ⟨null⟩

/-- Is the value a list or an object? -/
def isContainer : Value → Bool
  | list _ | object _ => true
  | _ => false

/-- Is the value a number of either kind? -/
def isNumber : Value → Bool
  | int _ | float _ => true
  | _ => false

/-- A text as a value. -/
def ofWide : Wide → Value
  | .text s => text s
  | .garbled g => garbled g

/-- The text that a value is. -/
def wide? : Value → Option Wide
  | text s => some s
  | garbled g => some (.garbled g)
  | _ => none

@[simp] theorem wide?_ofWide (s : Wide) : (ofWide s).wide? = some s := by cases s <;> rfl

theorem wide?_eq_some_iff {v : Value} {s : Wide} : v.wide? = some s ↔ v = ofWide s := by
  constructor
  · intro h
    cases v with
    | text t =>
      obtain rfl := Option.some.inj h
      rfl
    | garbled g =>
      obtain rfl := Option.some.inj h
      rfl
    | _ => cases h
  · rintro rfl
    exact wide?_ofWide s

/-- The entries of an object; every other value has none. -/
def entries : Value → List (Wide × Value)
  | object entries => entries
  | _ => []

/-- The value under a key of an object. -/
def field? (v : Value) (key : String) : Option Value := v.entries.lookup (key : Wide)

/-- The value under a key, null if there is none. -/
def fieldOrNull (v : Value) (key : String) : Value := (v.field? key).getD null

/-! ## Parts of a value -/

mutual
/-- Does something hold of a value, or in a container of some key or some value in it? -/
def anyPart (ofLeaf : Value → Bool) (ofKey : Wide → Bool) : Value → Bool
  | list items => anyItem ofLeaf ofKey items
  | object entries => anyEntry ofLeaf ofKey entries
  | v => ofLeaf v

/-- `anyPart` for some item of a list. -/
def anyItem (ofLeaf : Value → Bool) (ofKey : Wide → Bool) : List Value → Bool
  | [] => false
  | v :: rest => anyPart ofLeaf ofKey v || anyItem ofLeaf ofKey rest

/-- `anyPart` for some entry of an object. -/
def anyEntry (ofLeaf : Value → Bool) (ofKey : Wide → Bool) : List (Wide × Value) → Bool
  | [] => false
  | (key, v) :: rest => ofKey key || anyPart ofLeaf ofKey v || anyEntry ofLeaf ofKey rest
end

theorem anyPart_leaf {ofLeaf : Value → Bool} {ofKey : Wide → Bool} {v : Value}
    (h : v.isContainer = false) : anyPart ofLeaf ofKey v = ofLeaf v := by
  cases v with
  | list items => cases h
  | object entries => cases h
  | _ => simp only [anyPart]

/-- Is the value a number that is not finite? -/
def isNonFinite : Value → Bool
  | float x => !x.isFinite
  | _ => false

/-- Is the value a garbled text? -/
def isGarbled : Value → Bool
  | garbled _ => true
  | _ => false

/-- Does a number that is not finite occur in the value? -/
def hasNonFinite : Value → Bool := anyPart isNonFinite fun _ => false

/-- Does a garbled text occur in the value, as a key or under one? -/
def hasGarbled : Value → Bool := anyPart isGarbled Wide.isGarbled

end Value

/-- One step from a container to something it holds. -/
inductive Step where
  | key (name : Wide)
  | index (i : Nat)
  deriving DecidableEq, Repr

/-- A place in a payload: the steps that lead there from the root. -/
abbrev Place := List Step

namespace Value

/-- What a container holds under a step. -/
def child? : Value → Step → Option Value
  | object entries, .key name => entries.lookup name
  | list items, .index i => items[i]?
  | _, _ => none

/-- What a payload holds at a place. -/
def at? (root : Value) (place : Place) : Option Value :=
  place.foldlM child? root

@[simp] theorem at?_nil (root : Value) : root.at? [] = some root := rfl

@[simp] theorem at?_cons (root : Value) (step : Step) (rest : Place) :
    root.at? (step :: rest) = (root.child? step).bind (·.at? rest) := by
  simp [at?, List.foldlM_cons, bind]

end Value
end WebhookRelay
