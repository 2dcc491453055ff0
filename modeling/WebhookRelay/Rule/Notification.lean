import WebhookRelay.Form
import WebhookRelay.Rule.Basic
import WebhookRelay.Template

/-! # Notifications

A rule renders each template that it defines over the payload.  The results are
the parameters of the notification, in the order title, body, group, icon, link,
sound; a template that renders to nothing still gives a parameter.
-/

namespace WebhookRelay
namespace Rule

/-- The parameters of the notification of a payload, or the fault of the first
template that cannot be rendered. -/
def parameters (r : Rule) (payload : Value) : Except Fault Parameters :=
  r.mapping.templates.mapM fun (key, template) =>
    (Template.render template payload).map fun text => (key, text)

end Rule
end WebhookRelay
