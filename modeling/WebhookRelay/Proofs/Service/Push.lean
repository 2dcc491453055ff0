import WebhookRelay.Proofs.Delivery.Retry
import WebhookRelay.Proofs.Rule.Notification
import WebhookRelay.Proofs.Service.Runs

/-! # How a push is answered

A push that makes one attempt is answered by what becomes of it: no rule is named, the rule
that is named does not stand, the notification is delivered or it is not.  There is a fifth
case, in which something has gone wrong within the service.  The notification cannot be sent
(`Rule.Unsendable`), because a placeholder of the rule cannot be filled over the payload or
because a parameter is garbled; or the id that the push names is garbled.  There are no other
reasons (`Service.push_status`).  The network has no part in that, as long as the attempt ends in
a response or in a failure of a known kind.
-/

namespace WebhookRelay

/-- A body that does not start with a byte order mark is read as it is. -/
theorem Request.content_of_text {r : Request} {s : Wide} (h : r.body = .text s) {p : Point}
    {rest : List Point} (hpoints : s.points = p :: rest) (hmark : p ≠ .char '\uFEFF') :
    r.content = ((Json.read s.points).map some).mapError .unreadable := by
  rw [content, h]
  simp only [hpoints, if_neg hmark]

/-! ## Notifications that cannot be sent -/

namespace Rule

variable {rule : Rule} {payload : Value}

/-- What keeps the notification of a payload from being sent. -/
inductive Unsendable (rule : Rule) (payload : Value) : Prop where
  /-- A placeholder cannot be filled. -/
  | unfillable (h : rule.IsUnfillable payload)
  /-- A template renders to a garbled text. -/
  | garbled {parameters : Parameters} {p : String × Wide}
      (h : rule.parameters payload = .ok parameters) (hp : p ∈ parameters)
      (hgarbled : p.2.isGarbled = true)

/-- A notification can be sent if and only if it has a text that can be requested. -/
theorem not_unsendable_iff : ¬ rule.Unsendable payload ↔ ∃ parameters built,
    rule.parameters payload = .ok parameters ∧
      Url.withParameters rule.endpoint.val parameters = .ok built := by
  constructor
  · intro h
    cases hparameters : rule.parameters payload with
    | error fault =>
      exact absurd (.unfillable (exists_parameters_eq_error_iff.mp ⟨fault, hparameters⟩)) h
    | ok parameters =>
      obtain ⟨built, hbuilt⟩ := (Url.exists_withParameters_eq_ok_iff rule.endpoint.val
        parameters).mpr fun p hp => Bool.eq_false_iff.mpr fun hgarbled =>
          h (.garbled hparameters hp hgarbled)
      exact ⟨parameters, built, rfl, hbuilt⟩
  · rintro ⟨parameters, built, hparameters, hbuilt⟩ (hunfillable | ⟨hother, hp, hgarbled⟩)
    · obtain ⟨fault, hfault⟩ := exists_parameters_eq_error_iff.mpr hunfillable
      rw [hparameters] at hfault
      cases hfault
    · rw [hparameters] at hother
      obtain rfl := Except.ok.inj hother
      have hplain := (Url.exists_withParameters_eq_ok_iff _ _).mp ⟨built, hbuilt⟩ _ hp
      rw [hplain] at hgarbled
      cases hgarbled

end Rule

namespace Service

variable {service : Service} {net : Network} {s : State}

/-! ## Delivering -/

/-- The answer to a push, by how its delivery has ended. -/
def answerOf : Delivery → Answer
  | .delivered _ _ | .untried => .ok (.object [("success", .bool true),
      ("message", .text "Notification sent successfully")])
  | .undelivered error => .refusalText 502 error.message
  | .broken _ => .broken

/-- With parameters the delivery decides. -/
theorem deliver_of_ok (service : Service) (net : Network) (sent : Nat) {rule : Rule}
    {payload : Value} {parameters : Parameters} (h : rule.parameters payload = .ok parameters) :
    service.deliver net sent rule payload =
      let made := Delivery.push net service.clock sent service.delivery.attempts
        service.delivery.backoff rule.endpoint.val parameters
      ⟨answerOf made.1, made.2.requests⟩ := by
  rw [deliver, h]
  simp only
  cases (Delivery.push net service.clock sent service.delivery.attempts service.delivery.backoff
    rule.endpoint.val parameters).1 <;> rfl

/-- Delivering goes wrong if the notification cannot be sent. -/
theorem status_deliver_of_unsendable {sent : Nat} {rule : Rule} {payload : Value}
    (h : rule.Unsendable payload) :
    (service.deliver net sent rule payload).answer.status = 500 := by
  cases hparameters : rule.parameters payload with
  | error fault =>
    rw [deliver, hparameters]
    rfl
  | ok parameters =>
    rw [deliver_of_ok service net sent hparameters]
    cases hbuilt : Url.withParameters rule.endpoint.val parameters with
    | error text =>
      rw [Delivery.push_of_garbled hbuilt]
      rfl
    | ok built =>
      exact absurd h (Rule.not_unsendable_iff.mpr ⟨parameters, built, hparameters, hbuilt⟩)

/-- A notification that can be sent is delivered if the one attempt succeeds. -/
theorem status_deliver_of_built {sent : Nat} {rule : Rule} {payload : Value}
    {parameters : Parameters} {built : String} (hattempts : service.delivery.attempts = 1)
    (h : rule.parameters payload = .ok parameters)
    (hbuilt : Url.withParameters rule.endpoint.val parameters = .ok built)
    (hcaught : (net.attempt sent built).1.isCaught = true) :
    (service.deliver net sent rule payload).answer.status =
      if (net.attempt sent built).1.isSuccess then 200 else 502 := by
  rw [deliver_of_ok service net sent h, hattempts]
  simp only [Delivery.push_of_built hbuilt, Delivery.run_last]
  cases hend : (net.attempt sent built).1 with
  | answered r =>
    rw [Delivery.ofAttempt, Attempt.isSuccess]
    cases r.isSuccess <;> rfl
  | failed failure => rfl
  | broken fault =>
    rw [hend] at hcaught
    cases hcaught

/-! ## Pushes -/

/-- How a push is answered that makes one attempt at the rule that it names. -/
theorem status_step {v : View} (h : service.store.Represents s.memory v) {r : Request}
    {body : Option Value} (hattempts : service.delivery.attempts = 1)
    (hpush : r.action = .ok .push) (hbody : r.content = .ok body)
    (hcaught : ∀ rule parameters built, v.rules rule.id.val = some rule →
      pushedId? r.query body = some (.text rule.id.val) →
      rule.parameters (payload body) = .ok parameters →
      Url.withParameters rule.endpoint.val parameters = .ok built →
      (net.attempt s.sent built).1.isCaught = true) :
    ((service.step net s r).1.answer.status = 500 ↔
      (∃ id, pushedId? r.query body = some (.garbled id)) ∨
      ∃ rule, v.rules rule.id.val = some rule ∧
        pushedId? r.query body = some (.text rule.id.val) ∧ rule.Unsendable (payload body)) ∧
    ((service.step net s r).1.answer.status ≠ 500 →
      (service.step net s r).1.answer.status ∈ [200, 400, 404, 502]) := by
  rw [step_push_of_content h hpush hbody]
  cases hid : pushedId? r.query body with
  | none =>
    show (400 = 500 ↔ _) ∧ (400 ≠ 500 → 400 ∈ [200, 400, 404, 502])
    exact ⟨iff_of_false (by decide) (by rintro (⟨id, hid⟩ | ⟨rule, -, hid, -⟩) <;> cases hid),
      fun _ => by decide⟩
  | some id =>
    cases id with
    | garbled g => exact ⟨iff_of_true rfl (Or.inl ⟨g, rfl⟩), fun hne => absurd rfl hne⟩
    | text id =>
      simp only
      cases hrule : v.rules id with
      | none =>
        show (404 = 500 ↔ _) ∧ (404 ≠ 500 → 404 ∈ [200, 400, 404, 502])
        refine ⟨iff_of_false (by decide) ?_, fun _ => by decide⟩
        rintro (⟨g, hname⟩ | ⟨rule, hnamed, hname, -⟩)
        · cases hname
        · rw [Wide.text.inj (Option.some.inj hname), hnamed] at hrule
          cases hrule
      | some rule =>
        obtain rfl := h.ids id rule hrule
        -- it is this rule that the push names, and no other one
        have hnamed : ((∃ g, some (Wide.text rule.id.val) = some (.garbled g)) ∨
            ∃ other, v.rules other.id.val = some other ∧
              some (Wide.text rule.id.val) = some (.text other.id.val) ∧
              other.Unsendable (payload body)) ↔ rule.Unsendable (payload body) := by
          constructor
          · rintro (⟨g, hname⟩ | ⟨other, hother, hname, hunsendable⟩)
            · cases hname
            · rw [← Wide.text.inj (Option.some.inj hname), hrule] at hother
              obtain rfl := Option.some.inj hother
              exact hunsendable
          · exact fun hunsendable => Or.inr ⟨rule, hrule, rfl, hunsendable⟩
        rw [hnamed]
        by_cases hunsendable : rule.Unsendable (payload body)
        · rw [status_deliver_of_unsendable hunsendable]
          exact ⟨iff_of_true rfl hunsendable, fun hne => absurd rfl hne⟩
        · obtain ⟨parameters, built, hparameters, hbuilt⟩ :=
            Rule.not_unsendable_iff.mp hunsendable
          -- the attempt succeeds or it does not
          rw [status_deliver_of_built hattempts hparameters hbuilt
            (hcaught rule parameters built hrule hid hparameters hbuilt)]
          split
          · exact ⟨iff_of_false (by decide) hunsendable, fun _ => by decide⟩
          · exact ⟨iff_of_false (by decide) hunsendable, fun _ => by decide⟩

/-- **How a push is answered.**  Let a service that makes one attempt have answered any
requests, and let the body of a push be readable.  If the attempt for the notification of
the rule that it names ends in a response or in a failure of a known kind, then the push is
answered with 500 if and only if the id that it names is garbled, or it names a rule that stands
and whose notification of the payload cannot be sent; otherwise it is answered with 200, 400, 404
or 502. -/
theorem push_status (service : Service) (net : Network) (requests : List Request) (r : Request)
    (body : Option Value) (hattempts : service.delivery.attempts = 1)
    (hpush : r.action = .ok .push) (hbody : r.content = .ok body)
    (hcaught : ∀ rule parameters built,
      Stands (effects (service.exchanges net initial requests)) rule →
      pushedId? r.query body = some (.text rule.id.val) →
      rule.parameters (payload body) = .ok parameters →
      Url.withParameters rule.endpoint.val parameters = .ok built →
      (net.attempt (service.after net requests initial).sent built).1.isCaught = true) :
    let status := (service.step net (service.after net requests initial) r).1.answer.status
    (status = 500 ↔ (∃ id, pushedId? r.query body = some (.garbled id)) ∨
      ∃ rule, Stands (effects (service.exchanges net initial requests)) rule ∧
        pushedId? r.query body = some (.text rule.id.val) ∧ rule.Unsendable (payload body)) ∧
    (status ≠ 500 → status ∈ [200, 400, 404, 502]) := by
  intro status
  have hstands :=
    View.rules_after_empty_eq_some_iff (effects (service.exchanges net initial requests))
  have hstep := status_step (service.after_represents net requests) hattempts hpush hbody
    fun rule parameters built hrule => hcaught rule parameters built ((hstands rule).mp hrule)
  simp only [hstands] at hstep
  exact hstep

/-- A push to a rule that was saved before, by its query. -/
theorem push_status_delivered :
    let service : Service :=
      ⟨{}, ⟨.zero false, 1, .zero false, Nat.le_refl 1⟩, Clock.standard⟩
    let net := Network.ofReplies []
    let rule : Rule := ⟨⟨"r", by decide⟩, ⟨"n", by decide⟩,
      ⟨⟨"$\x7bt\x7d", by decide⟩, ⟨"b", by decide⟩, none, none, none, none⟩,
      ⟨"https://x/y", by decide⟩⟩
    let save : Request := ⟨"POST", "/rules", rule.toJson⟩
    let r : Request := ⟨"POST", "/push?ruleId=r", "\x7b\"t\":5.0\x7d"⟩
    let s := service.after net [save] initial
    effects (service.exchanges net initial [save]) = [.rule (.put rule)] ∧ r.action = .ok .push ∧
      ∃ body parameters built, r.content = .ok body ∧
        pushedId? r.query body = some (.text rule.id.val) ∧
        rule.parameters (payload body) = .ok parameters ∧
        Url.withParameters rule.endpoint.val parameters = .ok built ∧
        (net.attempt s.sent built).1.isCaught = true ∧
        (service.step net s r).1.answer.status ∈ [200, 400, 404, 502] := by
  intro service net rule save r s
  let parameters : Parameters := [("title", "5"), ("body", "b")]
  have heffects : effects (service.exchanges net initial [save]) = [.rule (.put rule)] := by
    decide +kernel
  have hpush : r.action = .ok .push := by decide +kernel
  have hread : r.content.toOption.map (fun body => (pushedId? r.query body,
      rule.parameters (payload body))) = some (some (.text "r"), .ok parameters) := by
    decide +kernel
  have hbuilt : Url.withParameters rule.endpoint.val parameters =
      .ok "https://x/y?title=5&body=b" := by
    decide +kernel
  have hcaught : (net.attempt s.sent "https://x/y?title=5&body=b").1.isCaught = true := by
    decide +kernel
  cases hbody : r.content with
  | error e =>
    rw [hbody] at hread
    cases hread
  | ok body =>
    rw [hbody] at hread
    obtain ⟨hid, hparameters⟩ := Prod.mk.inj (Option.some.inj hread)
    -- the rule that was saved is the only one that stands
    have hstands : ∀ other, Stands (effects (service.exchanges net initial [save])) other →
        rule = other := by
      intro other hother
      rw [heffects, stands_cons] at hother
      rcases hother with ⟨before, later, heq, -⟩ | ⟨heq, -⟩
      · cases before <;> cases heq
      · exact RuleCall.put.inj (Call.rule.inj heq)
    obtain ⟨hbroken, hothers⟩ := push_status service net [save] r body rfl hpush hbody <| by
      intro other others text hother _ hrendered htext
      obtain rfl := hstands other hother
      rw [hparameters] at hrendered
      obtain rfl := Except.ok.inj hrendered
      rw [hbuilt] at htext
      obtain rfl := Except.ok.inj htext
      exact hcaught
    refine ⟨heffects, hpush, body, parameters, _, rfl, hid, hparameters, hbuilt, hcaught,
      hothers fun h => ?_⟩
    rcases hbroken.mp h with ⟨g, hgarbled⟩ | ⟨other, hother, -, hunsendable⟩
    · rw [hid] at hgarbled
      cases hgarbled
    · obtain rfl := hstands other hother
      exact Rule.not_unsendable_iff.mpr ⟨parameters, _, hparameters, hbuilt⟩ hunsendable

/-- An integer of 310 digits whose truth is asked for makes a push go wrong. -/
theorem push_status_overflow :
    let service : Service :=
      ⟨{}, ⟨.zero false, 1, .zero false, Nat.le_refl 1⟩, Clock.standard⟩
    let net := Network.ofReplies []
    let rule : Rule := ⟨⟨"r", by decide⟩, ⟨"n", by decide⟩,
      ⟨⟨"$\x7b n \x7d", by decide⟩, ⟨"b", by decide⟩, none, none, none, none⟩,
      ⟨"https://x/y", by decide⟩⟩
    let save : Request := ⟨"POST", "/rules", rule.toJson⟩
    let text : List Char := ['{', '"', 'n', '"', ':', '1'] ++ List.replicate 309 '0' ++ ['}']
    let r : Request := ⟨"POST", "/push?ruleId=r", String.ofList text⟩
    let s := service.after net [save] initial
    service.delivery.attempts = 1 ∧ effects (service.exchanges net initial [save]) =
      [.rule (.put rule)] ∧ r.action = .ok .push ∧ (∃ body, r.content = .ok body) ∧
      (service.step net s r).1.answer.status = 500 := by
  intro service net rule save text r s
  have heffects : effects (service.exchanges net initial [save]) = [.rule (.put rule)] := by
    decide +kernel
  have hs := service.after_represents net [save]
  rw [heffects] at hs
  have hpush : r.action = .ok .push := by decide +kernel
  have hcontent : r.content = ((Json.read (text.map .char)).map some).mapError .unreadable := by
    have hpoints : (Wide.text (String.ofList text)).points = text.map .char := by
      rw [Wide.points_text, String.toList_ofList]
    have hstart : text.map Point.char = .char '{' :: (text.drop 1).map .char := rfl
    rw [Request.content_of_text rfl (hpoints.trans hstart) (by decide), hpoints]
  have hread : (Json.read (text.map .char)).toOption.map (fun v => (pushedId? r.query (some v),
      rule.parameters (payload (some v)))) = some (some (.text "r"), .error .integerTooLarge) := by
    decide +kernel
  cases hv : Json.read (text.map .char) with
  | error e =>
    rw [hv] at hread
    cases hread
  | ok v =>
    rw [hv] at hread hcontent
    obtain ⟨hid, hfault⟩ := Prod.mk.inj (Option.some.inj hread)
    refine ⟨rfl, heffects, hpush, ⟨some v, hcontent⟩, ?_⟩
    rw [step_push_of_content hs hpush hcontent, hid]
    exact status_deliver_of_unsendable
      (.unfillable (Rule.exists_parameters_eq_error_iff.mp ⟨_, hfault⟩))

end Service
end WebhookRelay
