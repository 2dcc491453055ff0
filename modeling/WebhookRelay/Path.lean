import WebhookRelay.Numeral
import WebhookRelay.Text.Split
import WebhookRelay.Value

/-! # Dotted paths

A path such as `repo.owners.0` names a place in a payload.  Its text consists of
letters and digits of the basic alphabet, underscores and points, and its
segments, the parts between the points, are neither empty nor reserved.  These
conditions are checked for the whole path before anything is looked up.

A segment leads from an object to the value under that key, and from a list to
the item whose position it denotes; the numeral has to be canonical, so that a
place has only one path.  From any other value nothing is reached.
-/

namespace WebhookRelay

/-- A value of a payload together with its place there. -/
structure Located where
  place : Place
  value : Value

namespace Path

/-- The characters of paths. -/
def isPathChar (c : Char) : Bool := c.isAlphanum || c = '_' || c = '.'

/-- Has the text the form of a path? -/
def isPathText (s : List Char) : Bool := !s.isEmpty && s.all isPathChar

/-- The segments that no path may contain. -/
def reserved : List String := ["__proto__", "constructor", "prototype"]

/-- May the segment occur in a path? -/
def isSegment (segment : List Char) : Bool :=
  !segment.isEmpty && !reserved.contains (String.ofList segment)

/-- The segments of a path. -/
def segments (s : List Char) : List (List Char) := Text.splitOn '.' s

/-- The step that a segment takes from a value.  A numeral too long to be read is
refused, but only where a list is to be indexed. -/
def step? (v : Value) (segment : List Char) : Except Fault (Option Step) :=
  match v with
  | .object _ => .ok (some (.key (.text (String.ofList segment))))
  | .list _ =>
    if segment.all Char.isDigit then
      (Numeral.toNat segment).map fun i =>
        if Numeral.ofNat i = segment then some (.index i) else none
    else .ok none
  | _ => .ok none

/-- Follows segments from a located value. -/
def walk : List (List Char) → Located → Except Fault (Option Located)
  | [], here => .ok (some here)
  | segment :: rest, here => do
    match ← step? here.value segment with
    | none => .ok none
    | some step =>
      match here.value.child? step with
      | none => .ok none
      | some v => walk rest ⟨here.place ++ [step], v⟩

/-- What a path leads to from the root of a payload. -/
def locate (root : Value) (path : List Char) : Except Fault (Option Located) :=
  if isPathText path && (segments path).all isSegment then walk (segments path) ⟨[], root⟩
  else .ok none

/-- The value that a path leads to, null if there is none. -/
def resolve (root : Value) (path : List Char) : Except Fault Value :=
  (locate root path).map fun found => (found.map (·.value)).getD .null

/-- `resolve` for a path that comes as a value: only a text can be a path. -/
def resolveValue (root : Value) : Value → Except Fault Value
  | .text path => resolve root path.toList
  | _ => .ok .null

end Path
end WebhookRelay
