import WebhookRelay.Form

/-! # Queries

A form is appended to the text of a URL as its query, or as the rest of a query
that is there already.  Parameters are appended as the form that they make. -/

namespace WebhookRelay
namespace Url

/-- Appends a form to the query of a URL text: behind `&` if the text has a
question mark already, else behind `?`. -/
def withQuery (url : String) (form : Form) : String :=
  url ++ (if url.toList.contains '?' then "&" else "?") ++ String.ofList form.encode

/-- Appends parameters to the query of a URL text, unless one of them is garbled. -/
def withParameters (url : String) (parameters : Parameters) : Except Garbled String :=
  parameters.toForm.map (withQuery url)

end Url
end WebhookRelay
