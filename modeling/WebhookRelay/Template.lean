import WebhookRelay.Expression.Evaluation
import WebhookRelay.Value.Shown

/-! # Templates

A template is literal text with placeholders `${body}`.  A placeholder reaches
from a `${` to the next closing brace; its body may contain further `${`.  A `${`
without a closing brace after it is literal.

Rendering replaces each placeholder once, from left to right; what is inserted is
not looked at again.  A body that has the form of a path shows the value there,
any other body the value of the expression if that is truthy and nothing
otherwise.
-/

namespace WebhookRelay
namespace Template

/-- A piece of a template. -/
inductive Segment where
  | literal (text : List Char)
  | placeholder (body : List Char)
  /-- A `${` that is never closed, with everything after it. -/
  | unclosed (body : List Char)
  deriving DecidableEq, Repr

/-- What a template is read as so far: a literal or an open placeholder, each with
its characters in reverse. -/
inductive Open where
  | literal (reversed : List Char)
  | placeholder (reversed : List Char)

/-- A literal segment for a text that is not empty. -/
def literal? (text : List Char) : List Segment :=
  if text.isEmpty then [] else [.literal text]

/-- The segments of a template, given the one that is open at its start. -/
def segmentsFrom : Open → List Char → List Segment
  | .literal reversed, '$' :: '{' :: rest =>
    literal? reversed.reverse ++ segmentsFrom (.placeholder []) rest
  | .literal reversed, c :: rest => segmentsFrom (.literal (c :: reversed)) rest
  | .literal reversed, [] => literal? reversed.reverse
  | .placeholder reversed, '}' :: rest =>
    .placeholder reversed.reverse :: segmentsFrom (.literal []) rest
  | .placeholder reversed, c :: rest => segmentsFrom (.placeholder (c :: reversed)) rest
  | .placeholder reversed, [] => [.unclosed reversed.reverse]

/-- The segments of a template. -/
def segments (template : List Char) : List Segment := segmentsFrom (.literal []) template

/-- What a placeholder is replaced by. -/
def fill (body : List Char) (data : Value) : Except Fault Wide := do
  if Path.isPathText body then (← Path.resolve data body).shown
  else
    let v := Expression.evaluate body data
    if ← v.truthy then v.shown else .ok ""

namespace Segment

/-- How a segment is written in a template. -/
def written : Segment → List Char
  | literal text => text
  | placeholder body => '$' :: '{' :: (body ++ ['}'])
  | unclosed body => '$' :: '{' :: body

/-- What a segment is rendered to. -/
def render (data : Value) : Segment → Except Fault Wide
  | placeholder body => fill body data
  | segment => .ok (.text (String.ofList segment.written))

end Segment

/-- Renders a template over a payload, or the fault of the first placeholder that
cannot be filled. -/
def render (template : String) (data : Value) : Except Fault Wide :=
  (segments template.toList).foldlM
    (fun (done : Wide) segment => (segment.render data).map (done ++ ·)) ""

end Template
end WebhookRelay
