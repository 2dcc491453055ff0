import WebhookRelay.Proofs.Delivery.Requests
import WebhookRelay.Proofs.Store.Refinement
import WebhookRelay.Service.Handler

/-! # Runs of the service

A fresh service answers one request after the other.  Of all that goes on only two things
matter to its memory: a rule was saved, or a rule was deleted, and the answer told so.
`Request.effects` reads these off a request and its answer, as calls of the rule store.
One step leaves the memory that its effects leave (`Service.step_memory`), so a run does,
and what is known of a store and its catalog holds of every state that the service can
reach (`Service.reachable_states`).
-/

namespace WebhookRelay

namespace Request

/-- The rule that a body holds, if it holds one. -/
def rule? (r : Request) : Option Rule :=
  match r.content with
  | .ok (some v) => (Rule.ofValue v).toOption
  | _ => none

/-- What a request with this answer does to the rules. -/
def effects (r : Request) (answer : Answer) : List RuleCall :=
  if answer.status = 200 then
    match r.action with
    | .ok .saveRule => (r.rule?.map .put).toList
    | .ok (.deleteRule id) => [.delete id]
    | _ => []
  else []

theorem effects_of_status_ne {r : Request} {answer : Answer} (h : answer.status ≠ 200) :
    r.effects answer = [] := if_neg h

/-- Only saving and deleting have effects. -/
theorem effects_of_action_ne {r : Request} {answer : Answer} (hsave : r.action ≠ .ok .saveRule)
    (hdelete : ∀ id, r.action ≠ .ok (.deleteRule id)) : r.effects answer = [] := by
  rw [effects]
  split
  · split
    · exact absurd ‹_› hsave
    · exact absurd ‹_› (hdelete _)
    · rfl
  · rfl

/-- A `GET` neither saves nor deletes. -/
theorem action_of_get {r : Request} (h : r.method = "GET") :
    r.action ≠ .ok .saveRule ∧ ∀ id, r.action ≠ .ok (.deleteRule id) := by
  rw [action, h]
  cases Resource.ofPath? r.path with
  | none => exact ⟨nofun, nofun⟩
  | some resource =>
    cases resource <;> exact ⟨by simp [Resource.action?], by simp [Resource.action?]⟩

end Request

namespace Service

/-- One request with its answer. -/
abbrev Exchange := Request × Answer

/-- The exchanges of a run, oldest first. -/
def exchanges (service : Service) (net : Network) (s : State) : List Request → List Exchange
  | [] => []
  | r :: rest =>
    let (outcome, next) := service.step net s r
    (r, outcome.answer) :: exchanges service net next rest

/-- The state after a run. -/
def after (service : Service) (net : Network) (requests : List Request) (s : State) : State :=
  requests.foldl (fun s r => (service.step net s r).2) s

/-- What exchanges do to the rules. -/
def effects (history : List Exchange) : List Call :=
  history.flatMap fun (r, answer) => (r.effects answer).map .rule

variable {service : Service} {net : Network} {s : State}

/-! ## One step -/

theorem status_ofBodyError_ne (e : BodyError) : (Answer.ofBodyError e).status ≠ 200 := by
  have h : (Answer.ofBodyError e).status = 422 ∨ (Answer.ofBodyError e).status = 400 := by
    cases e with
    | undecodable => exact Or.inr rfl
    | unreadable error =>
      cases error with
      | malformed => exact Or.inl rfl
      | refused fault => exact Or.inr rfl
  omega

theorem status_ofFieldErrors_ne (errors : List FieldError) :
    (Answer.ofFieldErrors errors).status ≠ 200 := by
  have h : (Answer.ofFieldErrors errors).status = 500 ∨
      (Answer.ofFieldErrors errors).status = 422 := by
    rw [Answer.ofFieldErrors]
    split
    · exact Or.inl rfl
    · exact Or.inr rfl
  omega

theorem step_memory_eq (r : Request) :
    (service.step net s r).2.memory =
      ((service.handle net s.sent r).run Memory.backend s.memory).2 := rfl

theorem step_outcome_eq (r : Request) :
    (service.step net s r).1 =
      ((service.handle net s.sent r).run Memory.backend s.memory).1 := rfl

/-- Saving is refused and leaves the memory as it is, or it puts the rule of the body. -/
theorem step_saveRule {r : Request} (h : r.action = .ok .saveRule) :
    ((service.step net s r).1.answer.status ≠ 200 ∧ (service.step net s r).2.memory = s.memory) ∨
      ∃ rule, r.rule? = some rule ∧ (service.step net s r).1.answer.status = 200 ∧
        (service.step net s r).2.memory = service.store.step s.memory (.rule (.put rule)) := by
  rw [step_memory_eq, step_outcome_eq, handle, h]
  simp only [withBody, Request.rule?]
  cases r.content with
  | error e => exact Or.inl ⟨status_ofBodyError_ne e, rfl⟩
  | ok body =>
    cases body with
    | none => exact Or.inl ⟨status_ofFieldErrors_ne _, rfl⟩
    | some v =>
      simp only [saveRule]
      cases Rule.ofValue v with
      | error errors => exact Or.inl ⟨status_ofFieldErrors_ne errors, rfl⟩
      | ok rule => exact Or.inr ⟨rule, rfl, rfl, rfl⟩

/-- Deleting is refused and leaves the memory as it is, or it deletes what was named. -/
theorem step_deleteRule {r : Request} {id : String} (h : r.action = .ok (.deleteRule id)) :
    ((service.step net s r).1.answer.status ≠ 200 ∧ (service.step net s r).2.memory = s.memory) ∨
      ((service.step net s r).1.answer.status = 200 ∧
        (service.step net s r).2.memory = service.store.step s.memory (.rule (.delete id))) := by
  rw [step_memory_eq, step_outcome_eq, handle, h]
  simp only [deleteRule, Script.run_map]
  cases hfound : ((service.store.delete id).run Memory.backend s.memory).1 with
  | false => exact Or.inl ⟨by decide, service.store.run_delete_snd id s.memory hfound⟩
  | true => exact Or.inr ⟨rfl, rfl⟩

/-- Whatever else is asked for leaves the memory as it is. -/
theorem step_memory_of_action_ne {r : Request} (hsave : r.action ≠ .ok .saveRule)
    (hdelete : ∀ id, r.action ≠ .ok (.deleteRule id)) :
    (service.step net s r).2.memory = s.memory := by
  rw [step_memory_eq, handle]
  cases haction : r.action with
  | error e => rfl
  | ok action =>
    cases action with
    | greet => rfl
    | saveRule => exact absurd haction hsave
    | deleteRule id => exact absurd haction (hdelete id)
    | listRules =>
      simp only [listRules, Script.run_map]
      exact service.store.run_list_snd s.memory
    | showRule id =>
      simp only [showRule, Script.run_map]
      exact service.store.run_get_snd id s.memory
    | push =>
      simp only [withBody, push]
      cases r.content with
      | error e => rfl
      | ok body =>
        simp only
        cases pushedId? r.query body with
        | none => rfl
        | some id =>
          cases id with
          | garbled g => rfl
          | text id =>
            simp only [Script.run_map]
            exact service.store.run_get_snd id s.memory

/-- **One step leaves the memory that its effects leave.** -/
theorem step_memory (service : Service) (net : Network) (s : State) (r : Request) :
    (service.step net s r).2.memory =
      service.store.after ((r.effects (service.step net s r).1.answer).map .rule) s.memory := by
  by_cases hsave : r.action = .ok .saveRule
  · rcases step_saveRule hsave with ⟨hstatus, hleft⟩ | ⟨rule, hrule, hstatus, hleft⟩
    · rw [Request.effects_of_status_ne hstatus]
      exact hleft
    · rw [Request.effects, if_pos hstatus, hsave, hrule]
      exact hleft
  · by_cases hdelete : ∃ id, r.action = .ok (.deleteRule id)
    · obtain ⟨id, hid⟩ := hdelete
      rcases step_deleteRule hid with ⟨hstatus, hleft⟩ | ⟨hstatus, hleft⟩
      · rw [Request.effects_of_status_ne hstatus]
        exact hleft
      · rw [Request.effects, if_pos hstatus, hid]
        exact hleft
    · have hdelete : ∀ id, r.action ≠ .ok (.deleteRule id) := fun id h => hdelete ⟨id, h⟩
      rw [Request.effects_of_action_ne hsave hdelete]
      exact step_memory_of_action_ne hsave hdelete

/-- A list shows what the store lists. -/
theorem answer_listRules {r : Request} (h : r.action = .ok .listRules) {rules : List Rule}
    (hlist : service.store.list.run Memory.backend s.memory = (.ok rules, s.memory)) :
    (service.step net s r).1.answer = .ok (.list (rules.map Rule.toValue)) := by
  rw [step_outcome_eq, handle, h]
  simp only [listRules, Script.run_map, hlist]
  rfl

/-- Only pushing requests anything from the network. -/
theorem step_requests_of_action_ne {r : Request} (hpush : r.action ≠ .ok .push) :
    (service.step net s r).1.requests = [] := by
  rw [step_outcome_eq, handle]
  cases haction : r.action with
  | error e => rfl
  | ok action =>
    cases action with
    | greet => rfl
    | saveRule =>
      simp only [withBody]
      cases r.content with
      | error e => rfl
      | ok body =>
        simp only [Script.run_map]
        rfl
    | listRules | showRule id | deleteRule id =>
      simp only [Script.run_map]
      rfl
    | push => exact absurd haction hpush

/-- A push whose body can be read names no rule, names one that no catalog or this one does
not have, or delivers to the one that it names. -/
theorem step_push_of_content {v : View} (h : service.store.Represents s.memory v) {r : Request}
    (hpush : r.action = .ok .push) {body : Option Value} (hbody : r.content = .ok body) :
    (service.step net s r).1 = match pushedId? r.query body with
      | none => .quiet (.refusalText 400 "Rule ID is required")
      | some (.garbled _) => .quiet .broken
      | some (.text id) => match v.rules id with
        | none => .quiet (.refusalText 404 ("Rule not found with ID: " ++ id))
        | some rule => service.deliver net s.sent rule (payload body) := by
  rw [step_outcome_eq, handle, hpush]
  simp only [withBody, hbody, push]
  cases pushedId? r.query body with
  | none => rfl
  | some id =>
    cases id with
    | garbled g => rfl
    | text id =>
      simp only [Script.run_map, h.run_get]
      cases v.rules id <;> rfl

/-- A push requests nothing, or it delivers to a rule that the catalog has under the id
that it names. -/
theorem step_push {v : View} (h : service.store.Represents s.memory v) {r : Request}
    (hpush : r.action = .ok .push) :
    (service.step net s r).1.requests = [] ∨ ∃ body rule, r.content = .ok body ∧
      pushedId? r.query body = some (.text rule.id.val) ∧ v.rules rule.id.val = some rule ∧
      (service.step net s r).1 = service.deliver net s.sent rule (payload body) := by
  cases hbody : r.content with
  | error e =>
    rw [step_outcome_eq, handle, hpush]
    simp only [withBody, hbody]
    exact Or.inl rfl
  | ok body =>
    rw [step_push_of_content h hpush hbody]
    cases hid : pushedId? r.query body with
    | none => exact Or.inl rfl
    | some id =>
      cases id with
      | garbled g => exact Or.inl rfl
      | text id =>
        simp only
        cases hrule : v.rules id with
        | none => exact Or.inl rfl
        | some rule =>
          have hruleId := h.ids id rule hrule
          exact Or.inr ⟨body, rule, rfl, by rw [hid, hruleId], by rw [hruleId, hrule], rfl⟩

/-- Delivering requests nothing, or it requests what its delivery does with the parameters
of the notification. -/
theorem requests_deliver (service : Service) (net : Network) (sent : Nat) (rule : Rule)
    (payload : Value) :
    (service.deliver net sent rule payload).requests = [] ∨
      ∃ parameters, rule.parameters payload = .ok parameters ∧
        (service.deliver net sent rule payload).requests =
          (Delivery.push net service.clock sent service.delivery.attempts
            service.delivery.backoff rule.endpoint.val parameters).2.requests := by
  rw [deliver]
  cases rule.parameters payload with
  | error fault => exact Or.inl rfl
  | ok parameters =>
    refine Or.inr ⟨parameters, rfl, ?_⟩
    simp only
    split <;> rfl

/-- A request to the network comes from a push, for a rule that the catalog has under the
id that the push names. -/
theorem step_requests {v : View} (h : service.store.Represents s.memory v) {r : Request}
    (hrequests : (service.step net s r).1.requests ≠ []) :
    r.action = .ok .push ∧ ∃ body rule parameters built, r.content = .ok body ∧
      pushedId? r.query body = some (.text rule.id.val) ∧ v.rules rule.id.val = some rule ∧
      rule.parameters (payload body) = .ok parameters ∧
      Url.withParameters rule.endpoint.val parameters = .ok built ∧
      Delivery.StartAt built (service.step net s r).1.requests := by
  by_cases hpush : r.action = .ok .push
  · rcases step_push h hpush with hnone | ⟨body, rule, hbody, hid, hrule, houtcome⟩
    · exact absurd hnone hrequests
    · rw [houtcome] at hrequests ⊢
      rcases service.requests_deliver net s.sent rule (payload body) with
        hnone | ⟨parameters, hparameters, hpushed⟩
      · exact absurd hnone hrequests
      · rw [hpushed] at hrequests ⊢
        obtain ⟨built, hbuilt, hstart⟩ := Delivery.startAt_push hrequests
        exact ⟨hpush, body, rule, parameters, built, hbody, hid, hrule, hparameters, hbuilt,
          hstart⟩
  · exact absurd (step_requests_of_action_ne hpush) hrequests

/-! ## Runs -/

/-- A run leaves the memory that its effects leave. -/
theorem after_memory (service : Service) (net : Network) (s : State) (requests : List Request) :
    (service.after net requests s).memory =
      service.store.after (effects (service.exchanges net s requests)) s.memory := by
  induction requests generalizing s with
  | nil => rfl
  | cons r rest ih =>
    have heffects : effects (service.exchanges net s (r :: rest)) =
        (r.effects (service.step net s r).1.answer).map .rule ++
          effects (service.exchanges net (service.step net s r).2 rest) := by
      rw [exchanges, effects, List.flatMap_cons, ← effects]
    rw [after, List.foldl_cons, ← after, ih, step_memory, heffects, RuleStore.after,
      RuleStore.after, RuleStore.after, List.foldl_append]

/-- Nothing is done past the store. -/
theorem not_mem_effects (history : List Exchange) (call : EntryCall) :
    .entry call ∉ effects history := by
  simp [effects]

/-- What a fresh service has come to represent after a run. -/
theorem after_represents (service : Service) (net : Network) (requests : List Request) :
    service.store.Represents (service.after net requests initial).memory
      (View.after (effects (service.exchanges net initial requests)) ⟨.empty, fun _ => none⟩) := by
  have hinitial : service.store.Represents initial.memory ⟨.empty, fun _ => none⟩ :=
    RuleStore.represents_of_fresh fun _ _ => rfl
  rw [after_memory]
  exact hinitial.after _ fun call hcall => absurd hcall (not_mem_effects _ call)

/-- **The states that a service can reach.**  After any requests to a fresh service,
whatever the network replies, the memory holds the rules that stand, each once and as it
came in the last successful request to save it, and nothing else.  Whatever is asked for
next: a request that is not answered with success, a `GET` and a push leave the memory as
it is; a list shows exactly these rules, without the templates that they do not define; and
the network is only requested for a push that names one of them, first of all at the
endpoint of that rule with the parameters of its notification. -/
theorem reachable_states (service : Service) (net : Network) (requests : List Request) :
    let s := service.after net requests initial
    ∃ rules : List Rule, rules.Pairwise (fun a b => a.id.val < b.id.val) ∧
      (∀ rule, rule ∈ rules ↔ Stands (effects (service.exchanges net initial requests)) rule) ∧
      s.memory.entries = rules.map (fun rule => (service.store.key rule.id.val, rule.toJson)) ∧
      ∀ r : Request, let (outcome, next) := service.step net s r
        (outcome.answer.status ≠ 200 ∨ r.method = "GET" ∨ r.action = .ok .push →
          next.memory = s.memory) ∧
        (outcome.answer.status = 200 → r.action = .ok .saveRule → ∃ rule, r.rule? = some rule) ∧
        (r.action = .ok .listRules → outcome.answer = .ok (.list (rules.map Rule.toValue)) ∧
          ∀ rule ∈ rules, ∀ key template, (key, template) ∈ rule.mapping.options →
            rule.mapping.toValue.field? key = template.map .text) ∧
        (outcome.requests ≠ [] → r.action = .ok .push ∧ ∃ body rule parameters built url,
          r.content = .ok body ∧ pushedId? r.query body = some (.text rule.id.val) ∧ rule ∈ rules ∧
          rule.parameters (payload body) = .ok parameters ∧
          Url.withParameters rule.endpoint.val parameters = .ok built ∧
          Url.ofEndpoint built.toList = .ok url ∧
          outcome.requests.head? = some (String.ofList url.toText)) := by
  intro s
  have hs := service.after_represents net requests
  obtain ⟨rules, hrules, hlist⟩ := hs.run_list
  have hstands : ∀ rule, rule ∈ rules ↔
      Stands (effects (service.exchanges net initial requests)) rule := by
    intro rule
    rw [hrules.mem_iff, View.rules_after_empty_eq_some_iff]
  have hothers : ∀ key, (View.after (effects (service.exchanges net initial requests))
      ⟨.empty, fun _ => none⟩).others key = none := by
    intro key
    rw [View.others_after _ _ (not_mem_effects _)]
  -- what a single step can do is all that is left
  refine ⟨rules, hrules.ascending, hstands, hs.entries_eq hothers hrules,
    fun r => ⟨?_, ?_, ?_, ?_⟩⟩
  · intro hquiet
    have heffects : r.effects (service.step net s r).1.answer = [] := by
      rcases hquiet with hstatus | hget | hpush
      · exact Request.effects_of_status_ne hstatus
      · exact Request.effects_of_action_ne (Request.action_of_get hget).1
          (Request.action_of_get hget).2
      · exact Request.effects_of_action_ne (hpush ▸ nofun) (hpush ▸ nofun)
    have hstep := step_memory service net s r
    rw [heffects] at hstep
    exact hstep
  · intro hstatus hsave
    rcases step_saveRule hsave with ⟨hne, -⟩ | ⟨rule, hrule, -⟩
    · exact absurd hstatus hne
    · exact ⟨rule, hrule⟩
  · exact fun hlistRules => ⟨answer_listRules hlistRules hlist, fun rule _ key template hmem =>
      rule.mapping.field?_toValue hmem⟩
  · intro hrequests
    obtain ⟨hpush, body, rule, parameters, built, hbody, hid, hrule, hparameters, hbuilt,
      hstart⟩ := step_requests hs hrequests
    obtain ⟨url, hurl, hhead⟩ := hstart hrequests
    exact ⟨hpush, body, rule, parameters, built, url, hbody, hid, (hrules.mem_iff rule).mpr hrule,
      hparameters, hbuilt, hurl, hhead⟩

end Service
end WebhookRelay
