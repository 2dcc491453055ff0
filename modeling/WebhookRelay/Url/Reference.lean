import WebhookRelay.Url.Parts

/-! # References

A reference is resolved against a base text: what it leaves out comes from the
base, and its path continues the path of the base.  Which parts a text has depends
on its scheme: paths are resolved for some schemes only, some have a site behind
two slashes, and for some the last segment of a path may end in parameters behind a
semicolon.  Here a part that is empty is the same as one that is not there.
-/

namespace WebhookRelay
namespace Url
open Text

/-- A text as a reference, part by part. -/
structure Reference where
  scheme : String
  site : List Char
  path : List Char
  parameters : List Char
  query : List Char
  fragment : List Char
  deriving DecidableEq, Repr

namespace Reference

/-! ## Schemes -/

/-- The schemes whose paths are resolved. -/
def relativeSchemes : List String :=
  ["", "ftp", "http", "gopher", "nntp", "imap", "wais", "file", "https", "shttp", "mms",
    "prospero", "rtsp", "rtsps", "rtspu", "sftp", "svn", "svn+ssh", "ws", "wss"]

/-- The schemes with sites. -/
def siteSchemes : List String :=
  ["", "ftp", "http", "gopher", "nntp", "telnet", "imap", "wais", "file", "mms", "https",
    "shttp", "snews", "prospero", "rtsp", "rtsps", "rtspu", "rsync", "svn", "svn+ssh", "sftp",
    "nfs", "git", "git+ssh", "ws", "wss"]

/-- The schemes with parameters. -/
def parameterSchemes : List String :=
  ["", "ftp", "hdl", "prospero", "http", "imap", "https", "shttp", "rtsp", "rtsps", "rtspu",
    "sip", "sips", "mms", "sftp", "tel"]

/-! ## Texts -/

/-- Splits off parameters: what follows the first semicolon in the last segment. -/
def splitParameters (path : List Char) : List Char × List Char :=
  let last := (cutLast '/' path).2
  let (name, parameters) := cutChar ';' last
  (path.take (path.length - last.length) ++ name, parameters)

/-- Reads a reference; without a scheme of its own it has the one given. -/
def ofText (scheme : String) (s : List Char) : Reference :=
  let (name, rest) := splitScheme s
  let scheme := if name.isEmpty then scheme else String.ofList (name.map Char.toLower)
  let (site, rest) := splitAuthority (if name.isEmpty then s else rest)
  let (rest, fragment) := cutChar '#' rest
  let (path, query) := cutChar '?' rest
  let (path, parameters) :=
    if parameterSchemes.contains scheme then splitParameters path else (path, [])
  ⟨scheme, site, path, parameters, query, fragment⟩

/-- A part behind its mark, unless it is empty. -/
def marked (mark : Char) (s : List Char) : List Char := if s.isEmpty then [] else mark :: s

/-- A reference as text. -/
def toText (r : Reference) : List Char :=
  let path := r.path ++ marked ';' r.parameters
  let located :=
    if !r.site.isEmpty || (r.scheme ≠ "" && siteSchemes.contains r.scheme)
        || ['/', '/'].isPrefixOf path then
      '/' :: '/' :: r.site
        ++ (if path.isEmpty || path.head? = some '/' then path else '/' :: path)
    else path
  (if r.scheme = "" then [] else r.scheme.toList ++ [':'])
    ++ located ++ marked '?' r.query ++ marked '#' r.fragment

/-! ## Resolution -/

/-- Removes the segments `.` and `..`, the latter together with the one before it.
Where one was the last segment a slash stays. -/
def removeDots (segments : List (List Char)) : List (List Char) :=
  let kept := segments.foldl (fun kept segment =>
    if segment = ['.', '.'] then kept.dropLast
    else if segment = ['.'] then kept
    else kept ++ [segment]) []
  match segments.getLast? with
  | some last => if last = ['.'] || last = ['.', '.'] then kept ++ [[]] else kept
  | none => kept

/-- Removes the empty segments between the first and the last one. -/
def removeEmpty : List (List Char) → List (List Char)
  | [] => []
  | first :: rest => first :: (rest.dropLast.filter (!·.isEmpty) ++ rest.getLast?.toList)

/-- The path of a reference, given the path of the base.  It continues the base from
its last slash on, unless it starts with a slash itself. -/
def joinPath (base path : List Char) : List Char :=
  let segments := splitOn '/' path
  let parts := splitOn '/' base
  let above := if parts.getLast? = some [] then parts else parts.dropLast
  let resolved := ['/'].intercalate <| removeDots <|
    if path.head? = some '/' then segments else removeEmpty (above ++ segments)
  if resolved.isEmpty then ['/'] else resolved

/-- A reference resolved against a base of the same scheme. -/
def resolve (base r : Reference) : Reference :=
  if siteSchemes.contains r.scheme && !r.site.isEmpty then r
  else
    let site := if siteSchemes.contains r.scheme then base.site else r.site
    if r.path.isEmpty && r.parameters.isEmpty then
      { r with
        site, path := base.path, parameters := base.parameters
        query := if r.query.isEmpty then base.query else r.query }
    else { r with site, path := joinPath base.path r.path }

end Reference

/-- What a text stands for against a base. -/
def resolveText (base s : List Char) : List Char :=
  if base.isEmpty then s
  else if s.isEmpty then base
  else
    let origin := Reference.ofText "" base
    let reference := Reference.ofText origin.scheme s
    if reference.scheme = origin.scheme && Reference.relativeSchemes.contains origin.scheme then
      (origin.resolve reference).toText
    else s

example : resolveText "https://x/a/b?t=1".toList "c?d=e".toList = "https://x/a/c?d=e".toList := by
  decide +kernel
example : resolveText "https://x/a/b?t=1".toList "../c/./d".toList = "https://x/c/d".toList := by
  decide +kernel
example : resolveText "https://x?t=1".toList "b//c".toList = "https://x/b/c".toList := by
  decide +kernel
example : resolveText "https://x/a".toList "//y".toList = "https://y".toList := by
  decide +kernel

end Url
end WebhookRelay
