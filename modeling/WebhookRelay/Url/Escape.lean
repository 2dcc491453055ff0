import WebhookRelay.Text.Percent

/-! # Escaping in URLs

Each part of a URL has its own set of characters that stand for themselves; every
other character is percent encoded.  The percent sign is in all of these sets, so
escaping keeps the escapes that are there, and escaping twice is escaping once.
-/

namespace WebhookRelay
namespace Url

/-- A visible ASCII character. -/
def isVisible (c : Char) : Bool := '!' ≤ c && c ≤ '~'

/-- The characters that stand for themselves in a query. -/
def isQueryChar (c : Char) : Bool := isVisible c && !"\"#<>".toList.contains c

/-- The characters that stand for themselves in a path. -/
def isPathChar (c : Char) : Bool := isQueryChar c && !"?\x60\x7b\x7d".toList.contains c

/-- The characters that stand for themselves in user information. -/
def isUserChar (c : Char) : Bool := isPathChar c && !"/;=@[\\]^|".toList.contains c

/-- The characters that stand for themselves in a fragment. -/
def isFragmentChar (c : Char) : Bool := isVisible c && !"\"<>\x60".toList.contains c

/-- The characters that stand for themselves in the name of a host. -/
def isNameChar (c : Char) : Bool :=
  c.isAlphanum || "-._~!$&'()*+,;=\"\x60\x7b\x7d%|\\".toList.contains c

/-- A text in which all but the plain characters are percent encoded. -/
def escape (isPlain : Char → Bool) (s : List Char) : List Char :=
  s.flatMap fun c => if isPlain c then [c] else Percent.encodeChar c

/-- A text of plain characters is its own escaped form. -/
theorem escape_eq_self {isPlain : Char → Bool} {s : List Char} (h : ∀ c ∈ s, isPlain c = true) :
    escape isPlain s = s := by
  induction s with
  | nil => rfl
  | cons c rest ih =>
    have hc := h c (by simp)
    have hr := ih fun d hd => h d (by simp [hd])
    simp only [escape, List.flatMap_cons, hc, if_true] at hr ⊢
    simp [hr]

example : escape isPathChar "/a b/é%2f%".toList = "/a%20b/%C3%A9%2f%".toList := by decide

end Url
end WebhookRelay
