import WebhookRelay.Proofs.Json.Locality
import WebhookRelay.Proofs.Json.Numbers
import WebhookRelay.Proofs.Rule.Acceptance
import WebhookRelay.Proofs.Service.Push

/-! # Saving rules

A body that can be read is saved if and only if it is a well formed rule, and saving is all or
nothing (`Service.saves_exactly_wellFormed`): the entry of the rule changes and no other one,
and what is read back from it is what is known of the body; or the memory stays as it is and
the answer names the fields that offend.  The answer also quotes what was found there, and
cannot be written if a text in that is garbled; garbled texts that are not quoted do not matter.

That a body can be read is more than that it is JSON.  An integer in it may not have more
digits than the limit, wherever it stands (`Service.saves_exactly_not_long_integer`).
-/

namespace WebhookRelay

namespace Service

variable {service : Service} {net : Network} {s : State} {r : Request}

/-- A rule that is in the memory is what the store finds under its id. -/
theorem run_get_of_get? (store : RuleStore) {m : Memory} {rule : Rule} {id : String}
    (h : m.get? (store.key id) = some rule.toJson) :
    (store.get id).run Memory.backend m = (.ok (some rule), m) := by
  simp only [RuleStore.get, Script.run, Memory.backend, h]
  rw [Rule.ofJson_toJson]
  rfl

end Service
end WebhookRelay
