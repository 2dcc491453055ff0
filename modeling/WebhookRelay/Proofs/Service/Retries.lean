import WebhookRelay.Proofs.Delivery.Exhaustion
import WebhookRelay.Proofs.Service.Push

/-! # What a push answers when its delivery fails

A push that is not delivered is to be answered with 502.  It is, if the end of its delivery
surfaces, and that takes two things besides a notification that can be requested at all: the
delivery is not exhausted, and the clock makes every pause that it is asked for
(`Service.failure_told_iff`).  The settings put no bound on the attempts, so deliveries can be
exhausted.  An exhausted one breaks off where the error should be told, and the push is answered
with 500 (`Service.failure_lost`).
-/

namespace WebhookRelay

/-! ## Networks that give one reply -/

namespace Network

variable (reply : Reply)

theorem follow_const (redirects sent earlier : Nat) (url : Url) :
    follow (fun _ => reply) sent redirects url = follow (fun _ => reply) earlier redirects url := by
  induction redirects generalizing sent earlier url with
  | zero => rw [follow, follow]
  | succ redirects ih =>
    rw [follow, follow]
    simp only [ih (sent + 1) (earlier + 1)]

/-- All attempts end alike. -/
theorem attempt_const (sent : Nat) (endpoint : String) :
    attempt (fun _ => reply) sent endpoint = attempt (fun _ => reply) 0 endpoint := by
  simp only [attempt, follow_const reply redirectLimit sent 0]

end Network

namespace Delivery

theorem eq_attempt_of_mem_tries {reply : Reply} {endpoint : String} {attempts sent : Nat}
    {a : Attempt × List Url} (h : a ∈ tries (fun _ => reply) endpoint attempts sent) :
    a = Network.attempt (fun _ => reply) 0 endpoint := by
  induction attempts generalizing sent with
  | zero => exact absurd h List.not_mem_nil
  | succ attempts ih =>
    rw [tries] at h
    rcases List.mem_cons.mp h with rfl | h
    · exact Network.attempt_const reply sent endpoint
    · exact ih h

/-- If one attempt fails, then all of them do. -/
theorem tries_const {reply : Reply} {endpoint : String}
    (h : (Network.attempt (fun _ => reply) 0 endpoint).1.isCaught = true ∧
      (Network.attempt (fun _ => reply) 0 endpoint).1.isSuccess = false) (attempts sent : Nat) :
    let all := tries (fun _ => reply) endpoint attempts sent
    (∀ a ∈ failures all, a.1.isCaught = true) ∧ failures all = all := by
  refine ⟨fun a ha => ?_, failures_eq_self_iff.mpr fun a ha => ?_⟩
  · rw [eq_attempt_of_mem_tries (mem_of_mem_failures ha)]
    exact h.1
  · rw [eq_attempt_of_mem_tries ha]
    exact h.2

end Delivery

namespace Service
open Delivery

variable {all : List (Attempt × List Url)} {delivery : Delivery}

/-- A success is answered with 200, and a failure that surfaces with 502. -/
theorem status_answerOf (h : Surfaces all delivery) :
    (answerOf delivery).status = if (failures all).length < all.length then 200 else 502 := by
  cases h with
  | delivered hall hsuccess =>
    have hlength := congrArg List.length hall
    rw [List.length_append, List.length_cons] at hlength
    exact (if_pos (by omega)).symm
  | undelivered hfailed hall hreports =>
    rw [hfailed]
    exact (if_neg (Nat.lt_irrefl _)).symm

section Settings

variable (settings : DeliverySettings) (clock : Clock) {net : Network} {sent : Nat}
  {endpoint built : String} {parameters : Parameters}
  (hbuilt : Url.withParameters endpoint parameters = .ok built)
  (hcaught : ∀ a ∈ failures (tries net built settings.attempts sent), a.1.isCaught = true)
include hbuilt hcaught

/-- The end of a delivery with given settings surfaces if it makes all of its pauses. -/
theorem surfaces_push_iff :
    Surfaces (tries net built settings.attempts sent) (Delivery.push net clock sent
        settings.attempts settings.backoff endpoint parameters).1 ↔
      ¬ Exhausted (tries net built settings.attempts sent) ∧ clock.Makes settings.backoff
        (pauseCount (tries net built settings.attempts sent)) := by
  rw [push_of_built hbuilt]
  exact surfaces_iff hcaught settings.one_le_attempts

/-- Otherwise the delivery breaks off. -/
theorem exists_broken_push
    (h : ¬ Surfaces (tries net built settings.attempts sent) (Delivery.push net clock sent
      settings.attempts settings.backoff endpoint parameters).1) :
    ∃ fault, (Delivery.push net clock sent settings.attempts settings.backoff endpoint
      parameters).1 = .broken fault := by
  rw [push_of_built hbuilt] at h ⊢
  exact exists_broken_of_not_surfaces hcaught settings.one_le_attempts h

end Settings

/-- A push that names a rule that stands delivers to it. -/
theorem step_push_of_stands (service : Service) (net : Network) (requests : List Request)
    {r : Request} {body : Option Value} {rule : Rule} (hpush : r.action = .ok .push)
    (hbody : r.content = .ok body)
    (hstands : Stands (effects (service.exchanges net initial requests)) rule)
    (hid : pushedId? r.query body = some (.text rule.id.val)) :
    (service.step net (service.after net requests initial) r).1 =
      service.deliver net (service.after net requests initial).sent rule (payload body) := by
  rw [step_push_of_content (service.after_represents net requests) hpush hbody, hid]
  simp only [(View.rules_after_empty_eq_some_iff _ rule).mpr hstands]

/-- **When a failure is told.**  Let each attempt of a delivery before the first success end in a
response or in a failure of a known kind.

* If no parameter is garbled, the end of the delivery surfaces, by the response of the first
  success or by an error about the last attempt, if and only if the delivery is not exhausted and
  the clock makes its pauses: the base times the powers of two, one pause behind each failure
  before the last attempt.  Otherwise it breaks off.  A delivery that is exhausted, and whose other
  pauses are made, does so because the factor of its next pause cannot be computed.
* If a parameter is garbled, it breaks off before anything is requested.
* A push to a rule that stands is answered accordingly: with 200 if the end of its delivery
  surfaces after a success, with 502 if it surfaces without one, and with 500 if the delivery
  breaks off. -/
theorem failure_told_iff (settings : DeliverySettings) (net : Network) (clock : Clock) :
    (∀ (sent : Nat) (endpoint : String) (parameters : Parameters) (built : String),
      let all := tries net built settings.attempts sent
      let made :=
        Delivery.push net clock sent settings.attempts settings.backoff endpoint parameters
      Url.withParameters endpoint parameters = .ok built →
      (∀ a ∈ failures all, a.1.isCaught = true) → all.length = settings.attempts ∧
        (Surfaces all made.1 ↔
          ¬ Exhausted all ∧ clock.Makes settings.backoff (pauseCount all)) ∧
        (¬ Surfaces all made.1 → ∃ fault, made.1 = .broken fault) ∧
        (Exhausted all → clock.Makes settings.backoff 1024 →
          made.1 = .broken (.pause .integerTooLarge))) ∧
    (∀ (sent : Nat) (endpoint : String) (parameters : Parameters) (text : Garbled),
      Url.withParameters endpoint parameters = .error text →
        Delivery.push net clock sent settings.attempts settings.backoff endpoint parameters =
          (.broken (.garbled text), ⟨[], []⟩)) ∧
    ∀ (store : RuleStore) (requests : List Request) (r : Request) (body : Option Value)
      (rule : Rule) (parameters : Parameters),
      let service : Service := ⟨store, settings, clock⟩
      let s := service.after net requests initial
      let status := (service.step net s r).1.answer.status
      r.action = .ok .push → r.content = .ok body →
      Stands (effects (service.exchanges net initial requests)) rule →
      pushedId? r.query body = some (.text rule.id.val) →
      rule.parameters (payload body) = .ok parameters →
        (∀ text, Url.withParameters rule.endpoint.val parameters = .error text → status = 500) ∧
        ∀ built, let all := tries net built settings.attempts s.sent
          Url.withParameters rule.endpoint.val parameters = .ok built →
          (∀ a ∈ failures all, a.1.isCaught = true) →
            (¬ Exhausted all ∧ clock.Makes settings.backoff (pauseCount all) →
              status = if (failures all).length < settings.attempts then 200 else 502) ∧
            (¬ (¬ Exhausted all ∧ clock.Makes settings.backoff (pauseCount all)) →
              status = 500) := by
  refine ⟨?_, fun sent endpoint parameters text htext => push_of_garbled htext, ?_⟩
  · intro sent endpoint parameters built all made hbuilt hcaught
    exact ⟨length_tries _ _ _ _, surfaces_push_iff settings clock hbuilt hcaught,
      exists_broken_push settings clock hbuilt hcaught, fun hexhausted hmakes => by
        rw [← broken_of_exhausted hcaught hmakes hexhausted, ← push_of_built hbuilt]⟩
  · intro store requests r body rule parameters service s status hpush hbody hstands hid
      hparameters
    have houtcome := (step_push_of_stands service net requests hpush hbody hstands hid).trans
      (deliver_of_ok service net s.sent hparameters)
    have hstatus : status = (answerOf (Delivery.push net clock s.sent settings.attempts
        settings.backoff rule.endpoint.val parameters).1).status :=
      congrArg (fun outcome => outcome.answer.status) houtcome
    constructor
    · intro text htext
      rw [hstatus, push_of_garbled htext]
      rfl
    · intro built all hbuilt hcaught
      have hlength : all.length = settings.attempts := length_tries _ _ _ _
      have hsurfaces := surfaces_push_iff settings clock hbuilt hcaught
      constructor
      · intro hmakes
        rw [hstatus, status_answerOf (hsurfaces.mpr hmakes), hlength]
      · intro hmakes
        obtain ⟨fault, hbroken⟩ :=
          exists_broken_push settings clock hbuilt hcaught fun hends => hmakes (hsurfaces.mp hends)
        rw [hstatus, hbroken]
        rfl

/-- With 1025 attempts that fail the last pause still has a factor, and the failure is told. -/
theorem failure_told_iff_last_pause :
    let settings : DeliverySettings := ⟨Binary64.ofInt 5, 1025, .zero false, by decide⟩
    let net : Network := fun _ => .response { status := 503, text := "busy" }
    let rule : Rule := ⟨⟨"r", by decide⟩, ⟨"n", by decide⟩,
      ⟨⟨"t", by decide⟩, ⟨"b", by decide⟩, none, none, none, none⟩, ⟨"https://x/y", by decide⟩⟩
    let parameters : Parameters := [("title", "t"), ("body", "b")]
    let save : Request := ⟨"POST", "/rules", rule.toJson⟩
    let r : Request := ⟨"POST", "/push?ruleId=r", ""⟩
    let service : Service := ⟨{}, settings, Clock.standard⟩
    let s := service.after net [save] initial
    let all := tries net "https://x/y?title=t&body=b" 1025 s.sent
    Url.withParameters "https://x/y" parameters = .ok "https://x/y?title=t&body=b" ∧
      (∀ a ∈ failures all, a.1.isCaught = true) ∧ failures all = all ∧
      Clock.standard.Makes settings.backoff (pauseCount all) ∧
      Surfaces all (Delivery.push net Clock.standard s.sent 1025 (.zero false) "https://x/y"
        parameters).1 ∧
      r.action = .ok .push ∧ r.content = .ok none ∧
      effects (service.exchanges net initial [save]) = [.rule (.put rule)] ∧
      pushedId? r.query none = some (.text "r") ∧ rule.parameters .null = .ok parameters ∧
      (service.step net s r).1.answer.status = 502 := by
  intro settings net rule parameters save r service s all
  have hone : (net.attempt 0 "https://x/y?title=t&body=b").1.isCaught = true ∧
      (net.attempt 0 "https://x/y?title=t&body=b").1.isSuccess = false := by decide +kernel
  obtain ⟨hcaught, hfailed⟩ := tries_const hone 1025 s.sent
  have hexhausted : ¬ Exhausted all := by
    rw [Exhausted, length_tries]
    omega
  have hbuilt : Url.withParameters "https://x/y" parameters = .ok "https://x/y?title=t&body=b" := by
    decide +kernel
  have hmakes : Clock.standard.Makes settings.backoff (pauseCount all) :=
    Clock.makes_standard_zero _
  have hpush : r.action = .ok .push := by decide +kernel
  have hid : pushedId? r.query none = some (.text "r") := by decide +kernel
  have hparameters : rule.parameters .null = .ok parameters := by decide +kernel
  have heffects : effects (service.exchanges net initial [save]) = [.rule (.put rule)] := by
    decide +kernel
  have hstands : Stands (effects (service.exchanges net initial [save])) rule := by
    rw [heffects]
    exact stands_singleton rule
  obtain ⟨hdelivery, -, hanswer⟩ := failure_told_iff settings net Clock.standard
  obtain ⟨hlength, hiff, -⟩ := hdelivery s.sent "https://x/y" parameters _ hbuilt hcaught
  have hsurfaces := hiff.mpr ⟨hexhausted, hmakes⟩
  obtain ⟨-, htold⟩ := hanswer {} [save] r none rule parameters hpush rfl hstands hid hparameters
  obtain ⟨hstatus, -⟩ := htold _ hbuilt hcaught
  have hlast := hstatus ⟨hexhausted, hmakes⟩
  rw [if_neg (by rw [hfailed, hlength]; exact Nat.lt_irrefl _)] at hlast
  exact ⟨hbuilt, hcaught, hfailed, hmakes, hsurfaces, hpush, rfl, heffects, hid, hparameters,
    hlast⟩

/-- With one more attempt, as the environment may ask for, and without any pause, the failure is
lost: the delivery breaks off and the push is answered with 500. -/
theorem failure_lost :
    let env : Environment := [("BARK_MAX_ATTEMPTS", "1026"), ("BARK_RETRY_BACKOFF_BASE", "0")]
    let net : Network := fun _ => .response { status := 503, text := "busy" }
    let parameters : Parameters := [("title", "t"), ("body", "b")]
    let all := tries net "https://x/y?title=t&body=b" 1026 0
    let rule : Rule := ⟨⟨"r", by decide⟩, ⟨"n", by decide⟩,
      ⟨⟨"t", by decide⟩, ⟨"b", by decide⟩, none, none, none, none⟩, ⟨"https://x/y", by decide⟩⟩
    let save : Request := ⟨"POST", "/rules", rule.toJson⟩
    let r : Request := ⟨"POST", "/push?ruleId=r", ""⟩
    ∃ service, Service.ofEnvironment env = .ok service ∧ service.delivery.attempts = 1026 ∧
      service.delivery.backoff = .zero false ∧ service.clock = Clock.standard ∧
      (∀ a ∈ failures all, a.1.isCaught = true) ∧
      (Delivery.push net service.clock 0 1026 (.zero false) "https://x/y" parameters).1 =
        .broken (.pause .integerTooLarge) ∧
      (service.step net (service.after net [save] initial) r).1.answer.status = 500 := by
  intro env net parameters all rule save r
  let settings : DeliverySettings := ⟨Binary64.ofInt 5, 1026, .zero false, by decide⟩
  let service : Service := ⟨(StoreSettings.ofEnvironment env).store, settings, Clock.standard⟩
  let s := service.after net [save] initial
  have htimeout : env.number "BARK_TIMEOUT_SECONDS" "5" = .ok (Binary64.ofInt 5) := by
    decide +kernel
  have hattempts : env.integer "BARK_MAX_ATTEMPTS" "1" = .ok 1026 := by decide +kernel
  have hbackoff : env.number "BARK_RETRY_BACKOFF_BASE" "0.5" = .ok (.zero false) := by
    decide +kernel
  have hservice : Service.ofEnvironment env = .ok service := by
    rw [Service.ofEnvironment, DeliverySettings.ofEnvironment, htimeout, hattempts, hbackoff]
    rfl
  -- whatever the network has answered before, all attempts fail
  have hone : (net.attempt 0 "https://x/y?title=t&body=b").1.isCaught = true ∧
      (net.attempt 0 "https://x/y?title=t&body=b").1.isSuccess = false := by decide +kernel
  have hcaught : ∀ sent, ∀ a ∈ failures (tries net "https://x/y?title=t&body=b" 1026 sent),
      a.1.isCaught = true := fun sent => (tries_const hone 1026 sent).1
  have hexhausted : ∀ sent, Exhausted (tries net "https://x/y?title=t&body=b" 1026 sent) := by
    intro sent
    rw [Exhausted, (tries_const hone 1026 sent).2, length_tries]
    decide
  have hmakes : Clock.standard.Makes (.zero false) 1024 := Clock.makes_standard_zero 1024
  have hbuilt : Url.withParameters "https://x/y" parameters = .ok "https://x/y?title=t&body=b" := by
    decide +kernel
  have hbroken : ∀ sent, (Delivery.push net Clock.standard sent 1026 (.zero false) "https://x/y"
      parameters).1 = .broken (.pause .integerTooLarge) := by
    intro sent
    rw [push_of_built hbuilt]
    exact broken_of_exhausted (hcaught sent) hmakes (hexhausted sent)
  have heffects : effects (service.exchanges net initial [save]) = [.rule (.put rule)] := by
    decide +kernel
  have hstands : Stands (effects (service.exchanges net initial [save])) rule := by
    rw [heffects]
    exact stands_singleton rule
  have hparameters : rule.parameters (payload none) = .ok parameters := by decide +kernel
  refine ⟨service, hservice, rfl, rfl, rfl, hcaught 0, hbroken 0, ?_⟩
  rw [step_push_of_stands service net [save] (by decide +kernel) rfl hstands (by decide +kernel),
    deliver_of_ok service net s.sent hparameters]
  exact congrArg (fun delivery => (answerOf delivery).status) (hbroken s.sent)

end Service
end WebhookRelay
