import WebhookRelay.Delivery.Retry

/-! # What a delivery requests

All attempts of a delivery start at the same URL, which does not depend on the network.
So if anything is requested at all, the first request is for that URL
(`Delivery.startAt_push`); redirects only come after it.
-/

namespace WebhookRelay

namespace Network

/-- Following starts with the URL itself. -/
theorem exists_follow_eq_cons (net : Network) (sent redirects : Nat) (url : Url) :
    ∃ later, (net.follow sent redirects url).2 = url :: later := by
  fun_cases follow net sent redirects url <;> exact ⟨_, rfl⟩

/-- An attempt requests nothing, or first of all the URL of its endpoint. -/
theorem attempt_requests (net : Network) (sent : Nat) (endpoint : String) :
    (net.attempt sent endpoint).2 = [] ∨
      ∃ url later, Url.ofEndpoint endpoint.toList = .ok url ∧
        (net.attempt sent endpoint).2 = url :: later := by
  rw [attempt]
  split
  · exact Or.inl rfl
  · rename_i url hurl
    split
    · exact Or.inl rfl
    · obtain ⟨later, hlater⟩ := net.exists_follow_eq_cons sent redirectLimit url
      exact Or.inr ⟨url, later, hurl, hlater⟩

end Network

namespace Delivery

/-- Do these requests start with the one that an endpoint stands for, if there are any? -/
def StartAt (endpoint : String) (requests : List String) : Prop :=
  requests ≠ [] → ∃ url, Url.ofEndpoint endpoint.toList = .ok url ∧
    requests.head? = some (String.ofList url.toText)

/-- What is requested in one attempt goes in front of what is requested in later ones. -/
theorem StartAt.attempt {net : Network} {sent : Nat} {endpoint : String} {result : Attempt}
    {urls : List Url} (hattempt : net.attempt sent endpoint = (result, urls)) {later : List String}
    (hlater : StartAt endpoint later) :
    StartAt endpoint ((urls.map fun url => String.ofList url.toText) ++ later) := by
  have hurls := net.attempt_requests sent endpoint
  rw [hattempt] at hurls
  rcases hurls with hnone | ⟨url, others, hurl, hothers⟩
  · -- an endpoint that is refused is refused in every attempt
    rw [show urls = [] from hnone]
    exact hlater
  · rw [show urls = url :: others from hothers]
    exact fun _ => ⟨url, hurl, rfl⟩

/-- However many attempts are made at an endpoint, the requests start at it. -/
theorem startAt_run (net : Network) (clock : Clock) (base : Binary64) (endpoint : String)
    (attempts earlier sent : Nat) :
    StartAt endpoint (run net clock base endpoint attempts earlier sent).2.requests := by
  have hnone : StartAt endpoint [] := fun h => absurd rfl h
  fun_induction run net clock base endpoint attempts earlier sent with
  | case1 => exact hnone
  | case2 earlier sent result urls hattempt =>
    have hstart := StartAt.attempt hattempt hnone
    rw [List.append_nil] at hstart
    exact hstart
  | case3 earlier sent result urls hattempt _ _ _ _ wait _ outcome later hrun ih =>
    rw [hrun] at ih
    exact StartAt.attempt hattempt ih
  | case4 attempts earlier sent result urls hattempt =>
    have hstart := StartAt.attempt hattempt hnone
    rw [List.append_nil] at hstart
    exact hstart

variable {net : Network} {clock : Clock} {sent attempts : Nat} {base : Binary64}
  {endpoint : String} {parameters : Parameters}

/-- What is delivered is the text of a URL with the parameters behind it. -/
theorem push_of_built {built : String} (h : Url.withParameters endpoint parameters = .ok built) :
    push net clock sent attempts base endpoint parameters =
      run net clock base built attempts 0 sent := by
  rw [push, h]

/-- A garbled text breaks a delivery off before anything is requested. -/
theorem push_of_garbled {text : Garbled}
    (h : Url.withParameters endpoint parameters = .error text) :
    push net clock sent attempts base endpoint parameters =
      (.broken (.garbled text), ⟨[], []⟩) := by
  rw [push, h]

/-- **The first request of a delivery**, if there is one, is for the URL that the endpoint
with the parameters behind it stands for; without such a text nothing is requested. -/
theorem startAt_push (h : (push net clock sent attempts base endpoint parameters).2.requests ≠ []) :
    ∃ built, Url.withParameters endpoint parameters = .ok built ∧
      StartAt built (push net clock sent attempts base endpoint parameters).2.requests := by
  cases hbuilt : Url.withParameters endpoint parameters with
  | error text =>
    rw [push_of_garbled hbuilt] at h
    exact absurd rfl h
  | ok built =>
    rw [push_of_built hbuilt]
    exact ⟨built, rfl, startAt_run net clock base built attempts 0 sent⟩

end Delivery
end WebhookRelay
