import Mathlib.Data.List.Forall2
import WebhookRelay.Proofs.Delivery.Clock
import WebhookRelay.Proofs.Delivery.Requests

/-! # The retry protocol

The attempts that a delivery could make at an endpoint are known in advance, because each
of them only depends on how many requests the network has answered before
(`Delivery.tries`).  A delivery makes them in order until one succeeds or none is left.
In between it pauses, for the base, twice the base, four times the base, and so on.

What one attempt leads to is said by four lemmas: a success ends the delivery, the last
attempt ends it, and after any other failure it goes on with what is left, unless the pause
cannot be made (`Delivery.run_of_success`, `Delivery.run_last`, `Delivery.run_retry`,
`Delivery.run_broken`).  From them follows, by induction on the failures, where a delivery stands
after so many failures (`Delivery.run_of_failures`); what comes next decides how it ends
(`Delivery.retry_protocol`).

There are two reasons why a pause cannot be made.  The power of two in it has to be a binary64
number, which it is as long as there are no more than 1025 attempts.  And the system may refuse
the pause, which is a matter of its clock (`Clock.Makes`).
-/

namespace WebhookRelay

/-- Does an attempt end with a successful status? -/
def Attempt.isSuccess : Attempt → Bool
  | .answered r => r.isSuccess
  | .failed _ | .broken _ => false

/-- Does an attempt end in a response or in a failure of a known kind? -/
def Attempt.isCaught : Attempt → Bool
  | .answered _ | .failed _ => true
  | .broken _ => false

namespace Delivery

/-- The attempts at an endpoint, each with how it ends and the URLs that it requests.  Each
finds the network where those before it have left it. -/
def tries (net : Network) (endpoint : String) : (attempts sent : Nat) → List (Attempt × List Url)
  | 0, _ => []
  | attempts + 1, sent =>
    net.attempt sent endpoint ::
      tries net endpoint attempts (sent + (net.attempt sent endpoint).2.length)

/-- What attempts request, one after the other. -/
def requested (attempts : List (Attempt × List Url)) : List String :=
  attempts.flatMap fun a => a.2.map fun url => String.ofList url.toText

/-- The pauses after the first failed attempts. -/
def pauses (base : Binary64) (earlier : Nat) (failed : Nat) : List Binary64 :=
  (List.range failed).map fun i => base.scale (earlier + i)

/-- The pauses are the base times the powers of two, from the first one on. -/
def Doubling (base : Binary64) (count : Nat) (pauses : List Binary64) : Prop :=
  List.Forall₂ base.TimesTwoPow (List.range count) pauses

/-- An attempt at an endpoint requests nothing, because the URL is refused, or it starts
with the URL that the endpoint stands for. -/
def TriesAt (endpoint : String) (a : Attempt × List Url) : Prop :=
  match Url.ofEndpoint endpoint.toList with
  | .error refusal => a = (.failed (.refused refusal), [])
  | .ok url => ∃ later, a.2 = url :: later

/-- An error tells about this attempt: the status and the text of its response, or what
kept it from having one. -/
def Reports (error : DeliveryError) : Attempt → Prop
  | .answered r =>
    error.message = "Failed to send to Bark: HTTP " ++ toString r.status ∧
      error.status? = some r.status ∧ error.text? = some r.text
  | .failed failure =>
    error.message = "Failed to send to Bark: " ++ failure.message ∧
      error.status? = none ∧ error.text? = none
  | .broken _ => False

variable {net : Network} {clock : Clock} {base : Binary64} {endpoint : String}
  {attempts earlier sent : Nat}

/-! ## The attempts -/

theorem length_tries (net : Network) (endpoint : String) (attempts sent : Nat) :
    (tries net endpoint attempts sent).length = attempts := by
  induction attempts generalizing sent with
  | zero => rfl
  | succ attempts ih => rw [tries, List.length_cons, ih]

theorem triesAt_attempt (h : (net.attempt sent endpoint).1.isCaught = true) :
    TriesAt endpoint (net.attempt sent endpoint) := by
  rw [TriesAt]
  rw [Network.attempt] at h ⊢
  cases hurl : Url.ofEndpoint endpoint.toList with
  | error refusal => rfl
  | ok url =>
    rw [hurl] at h
    simp only at h ⊢
    cases hhost : url.checkHost with
    | error fault =>
      rw [hhost] at h
      cases h
    | ok _ => exact net.exists_follow_eq_cons sent Network.redirectLimit url

/-- All attempts start at the endpoint. -/
theorem triesAt_of_mem (hcaught : ∀ a ∈ tries net endpoint attempts sent, a.1.isCaught = true) :
    ∀ a ∈ tries net endpoint attempts sent, TriesAt endpoint a := by
  induction attempts generalizing sent with
  | zero => exact fun a ha => absurd ha List.not_mem_nil
  | succ attempts ih =>
    rw [tries] at hcaught ⊢
    intro a ha
    rcases List.mem_cons.mp ha with rfl | ha
    · exact triesAt_attempt (hcaught _ List.mem_cons_self)
    · exact ih (fun other hother => hcaught other (List.mem_cons_of_mem _ hother)) a ha

/-- A failure of a known kind is reported as an error. -/
theorem exists_ofAttempt_eq_undelivered {a : Attempt} (hcaught : a.isCaught = true)
    (hfailed : a.isSuccess = false) :
    ∃ error, ofAttempt a = .undelivered error ∧ Reports error a := by
  cases a with
  | answered r =>
    refine ⟨.status r.status r.text, ?_, rfl, rfl, rfl⟩
    rw [ofAttempt, if_neg (by rw [show r.isSuccess = false from hfailed]; exact Bool.false_ne_true)]
  | failed failure => exact ⟨.attempt failure, rfl, rfl, rfl, rfl⟩
  | broken fault => cases hcaught

/-! ## Pauses -/

/-- A pause is made if its factor is a binary64 number and the clock makes it. -/
theorem pause_eq_ok_iff {wait : Binary64} :
    pause clock base earlier = .ok wait ↔
      earlier < 1024 ∧ clock (base.scale earlier) = none ∧ base.scale earlier = wait := by
  rw [pause]
  split
  · rename_i hlimit
    cases clock (base.scale earlier) <;> simp [hlimit]
  · rename_i hlimit
    exact iff_of_false nofun fun h => hlimit h.1

/-- A pause that the clock refuses. -/
theorem pause_of_refused {refusal : PauseRefusal} (hlimit : earlier < 1024)
    (h : clock (base.scale earlier) = some refusal) :
    pause clock base earlier = .error (.refused refusal) := by
  rw [pause, if_pos hlimit, h]

/-- A pause whose factor is beyond the range. -/
theorem pause_of_not_lt (h : 1024 ≤ earlier) :
    pause clock base earlier = .error (.pause .integerTooLarge) :=
  if_neg (Nat.not_lt.mpr h)

/-- A clock that makes the pauses lets the first 1024 of them pass. -/
theorem pause_of_makes {count : Nat} (hmakes : clock.Makes base count) (hlimit : count ≤ 1024) :
    ∀ i < count, pause clock base i = .ok (base.scale i) := fun i hi =>
  pause_eq_ok_iff.mpr ⟨by omega, hmakes i hi _ (Binary64.timesTwoPow_scale i base), rfl⟩

theorem pauses_succ (base : Binary64) (earlier failed : Nat) :
    pauses base earlier (failed + 1) = base.scale earlier :: pauses base (earlier + 1) failed := by
  rw [pauses, List.range_succ_eq_map, List.map_cons, List.map_map, pauses]
  refine congrArg (base.scale earlier :: ·) (List.map_congr_left fun i _ => ?_)
  rw [Function.comp_apply, Nat.succ_eq_add_one, Nat.add_right_comm, Nat.add_assoc]

/-- The pauses of a delivery are the products that they should be. -/
theorem doubling_pauses (base : Binary64) (count : Nat) :
    Doubling base count (pauses base 0 count) := by
  rw [Doubling, pauses, List.forall₂_map_right_iff]
  refine List.forall₂_same.mpr fun i _ => ?_
  rw [Nat.zero_add]
  exact Binary64.timesTwoPow_scale i base

/-- There are no other such products. -/
theorem Doubling.eq_pauses {count : Nat} {waits : List Binary64} (h : Doubling base count waits) :
    waits = pauses base 0 count := by
  have hsame : List.Forall₂ Eq ((List.range count).map fun i => base.scale (0 + i)) waits := by
    refine List.forall₂_map_left_iff.mpr (List.Forall₂.imp (fun i wait hwait => ?_) h)
    rw [Nat.zero_add]
    exact Binary64.scale_eq_iff.mpr hwait
  rw [List.forall₂_eq_eq_eq] at hsame
  exact hsame.symm

/-! ## One attempt of a run -/

/-- A success ends the delivery, however many attempts are left. -/
theorem run_of_success {r : Response} {urls : List Url}
    (h : net.attempt sent endpoint = (.answered r, urls)) (hsuccess : r.isSuccess = true) :
    run net clock base endpoint (attempts + 1) earlier sent =
      (.delivered r.status r.text, ⟨requested [(.answered r, urls)], []⟩) := by
  have hend : ofAttempt (.answered r) = .delivered r.status r.text := if_pos hsuccess
  rw [run, h, requested, List.flatMap_singleton]
  simp only [hend]

/-- The last attempt ends the delivery. -/
theorem run_last (net : Network) (clock : Clock) (base : Binary64) (endpoint : String)
    (earlier sent : Nat) :
    run net clock base endpoint 1 earlier sent = (ofAttempt (net.attempt sent endpoint).1,
      ⟨requested [net.attempt sent endpoint], []⟩) := by
  rw [run, requested, List.flatMap_singleton]
  cases hend : ofAttempt (net.attempt sent endpoint).1 <;> simp only [hend]

/-- After a failure the delivery pauses and goes on with the attempts that are left. -/
theorem run_retry {error : DeliveryError} {wait : Binary64}
    (h : ofAttempt (net.attempt sent endpoint).1 = .undelivered error)
    (hpause : pause clock base earlier = .ok wait) :
    run net clock base endpoint (attempts + 2) earlier sent =
      let next := run net clock base endpoint (attempts + 1) (earlier + 1)
        (sent + (net.attempt sent endpoint).2.length)
      (next.1, ⟨requested [net.attempt sent endpoint] ++ next.2.requests,
        wait :: next.2.pauses⟩) := by
  rw [run, requested, List.flatMap_singleton]
  simp only [h, hpause]

/-- If the pause cannot be made, the delivery breaks off. -/
theorem run_broken {error : DeliveryError} {fault : DeliveryFault}
    (h : ofAttempt (net.attempt sent endpoint).1 = .undelivered error)
    (hpause : pause clock base earlier = .error fault) :
    run net clock base endpoint (attempts + 2) earlier sent =
      (.broken fault, ⟨requested [net.attempt sent endpoint], []⟩) := by
  rw [run, requested, List.flatMap_singleton]
  simp only [h, hpause]

/-! ## Whole runs -/

theorem requested_append (before later : List (Attempt × List Url)) :
    requested (before ++ later) = requested before ++ requested later :=
  List.flatMap_append

theorem requested_cons (a : Attempt × List Url) (later : List (Attempt × List Url)) :
    requested (a :: later) = requested [a] ++ requested later := requested_append [a] later

/-- **A delivery after some failures.**  If it can make the pauses, it has done what it did and
goes on with the attempts that are left. -/
theorem run_of_failures (earlier : Nat) {before later : List (Attempt × List Url)}
    (htries : tries net endpoint attempts sent = before ++ later) (hlater : later ≠ [])
    (hfailed : ∀ a ∈ before, a.1.isCaught = true ∧ a.1.isSuccess = false)
    (hpauses : ∀ i < before.length,
      pause clock base (earlier + i) = .ok (base.scale (earlier + i))) :
    ∃ left after, attempts = before.length + left ∧ tries net endpoint left after = later ∧
      ∀ {outcome : Delivery} {next : Transcript},
        run net clock base endpoint left (earlier + before.length) after = (outcome, next) →
          run net clock base endpoint attempts earlier sent = (outcome,
            ⟨requested before ++ next.requests,
              pauses base earlier before.length ++ next.pauses⟩) := by
  induction before generalizing attempts earlier sent with
  | nil => exact ⟨attempts, sent, (Nat.zero_add attempts).symm, htries, fun hrun => hrun⟩
  | cons first before ih =>
    -- something is still to come, so this was not the last attempt
    obtain ⟨more, rfl⟩ : ∃ more, attempts = more + 2 := by
      have hlength := length_tries net endpoint attempts sent
      have hpos := List.length_pos_iff.mpr hlater
      rw [htries, List.length_append, List.length_cons] at hlength
      exact ⟨attempts - 2, by omega⟩
    obtain ⟨hattempt, hrest⟩ := List.cons.inj htries
    obtain ⟨hcaught, hfails⟩ := hfailed first List.mem_cons_self
    rw [← hattempt] at hcaught hfails
    obtain ⟨error, herror, -⟩ := exists_ofAttempt_eq_undelivered hcaught hfails
    have hpause : pause clock base earlier = .ok (base.scale earlier) :=
      hpauses 0 (Nat.succ_pos before.length)
    have hmore : ∀ i < before.length,
        pause clock base (earlier + 1 + i) = .ok (base.scale (earlier + 1 + i)) := by
      intro i hi
      have hnext := hpauses (i + 1) (Nat.succ_lt_succ hi)
      rwa [Nat.add_comm i, ← Nat.add_assoc] at hnext
    obtain ⟨left, after, hleft, hafter, hrun⟩ :=
      ih (earlier + 1) hrest (fun a ha => hfailed a (List.mem_cons_of_mem first ha)) hmore
    refine ⟨left, after, by rw [List.length_cons]; omega, hafter, fun hnext => ?_⟩
    rw [List.length_cons, Nat.add_comm before.length, ← Nat.add_assoc] at hnext
    rw [run_retry herror hpause, hrun hnext, hattempt, List.length_cons, pauses_succ,
      requested_cons first before, List.append_assoc, List.cons_append]

/-- A delivery ends with the first success, if it can make the pauses before it. -/
theorem run_of_first_success {before later : List (Attempt × List Url)} {r : Response}
    {urls : List Url}
    (htries : tries net endpoint attempts sent = before ++ (.answered r, urls) :: later)
    (hsuccess : r.isSuccess = true)
    (hfailed : ∀ a ∈ before, a.1.isCaught = true ∧ a.1.isSuccess = false)
    (hpauses : ∀ i < before.length, pause clock base i = .ok (base.scale i)) :
    run net clock base endpoint attempts 0 sent = (.delivered r.status r.text,
      ⟨requested (before ++ [(.answered r, urls)]), pauses base 0 before.length⟩) := by
  obtain ⟨left, after, -, hafter, hrun⟩ := run_of_failures 0 htries
    (List.cons_ne_nil _ _) hfailed (by simpa using hpauses)
  cases left with
  | zero => cases hafter
  | succ left =>
    rw [hrun (run_of_success (List.cons.inj hafter).1 hsuccess), requested_append,
      List.append_nil]

/-- Without a success a delivery makes all attempts, and the last one is reported. -/
theorem run_of_forall_failed (hpos : 0 < attempts)
    (hfailed : ∀ a ∈ tries net endpoint attempts sent, a.1.isCaught = true ∧ a.1.isSuccess = false)
    (hpauses : ∀ i < attempts - 1, pause clock base i = .ok (base.scale i)) :
    ∃ before last error, tries net endpoint attempts sent = before ++ [last] ∧
      Reports error last.1 ∧ run net clock base endpoint attempts 0 sent = (.undelivered error,
        ⟨requested (tries net endpoint attempts sent), pauses base 0 (attempts - 1)⟩) := by
  have hlength := length_tries net endpoint attempts sent
  obtain ⟨before, last, htries⟩ : ∃ before last,
      tries net endpoint attempts sent = before ++ [last] := by
    refine ⟨_, _, (List.dropLast_append_getLast ?_).symm⟩
    exact List.ne_nil_of_length_pos (by omega)
  rw [htries] at hfailed hlength ⊢
  have hbefore : before.length = attempts - 1 := by
    rw [List.length_append, List.length_singleton] at hlength
    omega
  obtain ⟨left, after, hleft, hafter, hrun⟩ := run_of_failures 0 htries
    (List.cons_ne_nil _ _) (fun a ha => hfailed a (List.mem_append_left _ ha))
    (by simpa [hbefore] using hpauses)
  obtain rfl : left = 1 := by omega
  obtain rfl : net.attempt after endpoint = last := (List.cons.inj hafter).1
  obtain ⟨hcaught, hfails⟩ := hfailed _ (List.mem_append_right before List.mem_cons_self)
  obtain ⟨error, herror, hreports⟩ := exists_ofAttempt_eq_undelivered hcaught hfails
  refine ⟨before, _, error, rfl, hreports, ?_⟩
  rw [hrun (run_last _ _ _ _ _ _), herror, hbefore, requested_append, List.append_nil]

/-- An attempt is made if there is one to make. -/
theorem run_ne_untried (hpos : 0 < attempts) :
    (run net clock base endpoint attempts earlier sent).1 ≠ .untried := by
  have hattempt : ∀ a, ofAttempt a ≠ .untried := by
    intro a
    cases a with
    | answered r =>
      rw [ofAttempt]
      split <;> rintro ⟨⟩
    | failed failure => rintro ⟨⟩
    | broken fault => rintro ⟨⟩
  fun_induction run net clock base endpoint attempts earlier sent with
  | case1 => exact absurd hpos (Nat.lt_irrefl 0)
  | case2 => rintro ⟨⟩
  | case3 earlier sent result urls hresult _ _ _ _ wait _ outcome later hrun ih =>
    rw [hrun] at ih
    exact ih (Nat.succ_pos _)
  | case4 attempts earlier sent result => exact hattempt result

/-- A delivery breaks off at the first pause that it cannot make. -/
theorem run_of_fault {before later : List (Attempt × List Url)} {last : Attempt × List Url}
    {fault : DeliveryFault}
    (htries : tries net endpoint attempts sent = before ++ last :: later) (hlater : later ≠ [])
    (hfailed : ∀ a ∈ before ++ [last], a.1.isCaught = true ∧ a.1.isSuccess = false)
    (hpauses : ∀ i < before.length, pause clock base i = .ok (base.scale i))
    (hfault : pause clock base before.length = .error fault) :
    run net clock base endpoint attempts 0 sent = (.broken fault,
      ⟨requested (before ++ [last]), pauses base 0 before.length⟩) := by
  obtain ⟨left, after, hleft, hafter, hrun⟩ := run_of_failures 0 htries
    (List.cons_ne_nil _ _) (fun a ha => hfailed a (List.mem_append_left _ ha))
    (by simpa using hpauses)
  obtain ⟨more, rfl⟩ : ∃ more, left = more + 2 := by
    have hlength := length_tries net endpoint left after
    have hmore := List.length_pos_iff.mpr hlater
    rw [hafter, List.length_cons] at hlength
    exact ⟨left - 2, by omega⟩
  obtain rfl : net.attempt after endpoint = last := (List.cons.inj hafter).1
  obtain ⟨hcaught, hfails⟩ := hfailed _ (List.mem_append_right before List.mem_cons_self)
  obtain ⟨error, herror, -⟩ := exists_ofAttempt_eq_undelivered hcaught hfails
  rw [← Nat.zero_add before.length] at hfault
  rw [hrun (run_broken herror hfault), requested_append, List.append_nil]

/-- **The retry protocol.**  Let every attempt end in a response or in a failure of a known kind,
let there be from one to 1025 of them, and let none of the parameters be garbled, so that they can
be put behind the endpoint.  All attempts start at the URL that this stands for.

* If one is the first that succeeds and the clock makes the pauses before it, the delivery returns
  what it was answered, has made the attempts up to this one, and has paused after each of those
  before it.
* If none succeeds and the clock makes the pauses between them, the delivery has made all of them,
  and its error tells about the last one.
* If an attempt and all before it have failed and it is not the last one, and the clock refuses the
  pause after it and none of those before, the delivery breaks off there.

The pauses are the base times the powers of two, and an attempt is made in any case. -/
theorem retry_protocol (net : Network) (clock : Clock) (sent attempts : Nat) (base : Binary64)
    (endpoint : String) (parameters : Parameters) (built : String) (hpos : 1 ≤ attempts)
    (hlimit : attempts ≤ 1025) (hbuilt : Url.withParameters endpoint parameters = .ok built)
    (hcaught : ∀ a ∈ tries net built attempts sent, a.1.isCaught = true) :
    let all := tries net built attempts sent
    let made := push net clock sent attempts base endpoint parameters
    all.length = attempts ∧ (∀ a ∈ all, TriesAt built a) ∧
    (∀ before r urls later, all = before ++ (.answered r, urls) :: later →
      r.isSuccess = true → (∀ a ∈ before, a.1.isSuccess = false) →
      clock.Makes base before.length →
        made.1 = .delivered r.status r.text ∧
        made.2.requests = requested (before ++ [(.answered r, urls)]) ∧
        Doubling base before.length made.2.pauses) ∧
    ((∀ a ∈ all, a.1.isSuccess = false) → clock.Makes base (attempts - 1) →
      ∃ before last error, all = before ++ [last] ∧
        made.1 = .undelivered error ∧ Reports error last.1 ∧
        made.2.requests = requested all ∧
        Doubling base (attempts - 1) made.2.pauses) ∧
    (∀ before last later wait refusal, all = before ++ last :: later → later ≠ [] →
      (∀ a ∈ before ++ [last], a.1.isSuccess = false) → clock.Makes base before.length →
      base.TimesTwoPow before.length wait → clock wait = some refusal →
        made.1 = .broken (.refused refusal) ∧
        made.2.requests = requested (before ++ [last]) ∧
        Doubling base before.length made.2.pauses) ∧
    made.1 ≠ .untried := by
  intro all made
  have hmade : made = run net clock base built attempts 0 sent := push_of_built hbuilt
  have hlength : all.length = attempts := length_tries _ _ _ _
  have hfails : ∀ {tried : List (Attempt × List Url)}, (∀ a ∈ tried, a ∈ all) →
      (∀ a ∈ tried, a.1.isSuccess = false) →
      ∀ a ∈ tried, a.1.isCaught = true ∧ a.1.isSuccess = false := fun hmem hfailed a ha =>
    ⟨hcaught a (hmem a ha), hfailed a ha⟩
  refine ⟨hlength, triesAt_of_mem hcaught, ?_, ?_, ?_, ?_⟩
  · intro before r urls later hall hsuccess hbefore hmakes
    have hmore : before.length < attempts := by
      rw [← hlength, hall, List.length_append, List.length_cons]
      omega
    have hrun := run_of_first_success hall hsuccess
      (hfails (fun a ha => hall ▸ List.mem_append_left _ ha) hbefore)
      (pause_of_makes hmakes (by omega))
    rw [hmade, hrun]
    exact ⟨rfl, rfl, doubling_pauses base before.length⟩
  · intro hfailed hmakes
    obtain ⟨before, last, error, hall, hreports, hrun⟩ := run_of_forall_failed hpos
      (hfails (fun _ ha => ha) hfailed) (pause_of_makes hmakes (by omega))
    rw [hmade, hrun]
    exact ⟨before, last, error, hall, rfl, hreports, rfl, doubling_pauses base (attempts - 1)⟩
  · intro before last later wait refusal hall hlater hbefore hmakes hwait hrefused
    have hmore : before.length < 1024 := by
      have hpos := List.length_pos_iff.mpr hlater
      rw [hall, List.length_append, List.length_cons] at hlength
      omega
    have hmem : ∀ a ∈ before ++ [last], a ∈ all := by
      intro a ha
      rw [hall, List.append_cons]
      exact List.mem_append_left later ha
    rw [← Binary64.scale_eq_iff] at hwait
    have hrun := run_of_fault hall hlater (hfails hmem hbefore)
      (pause_of_makes hmakes (Nat.le_of_lt hmore)) (pause_of_refused hmore (hwait ▸ hrefused))
    rw [hmade, hrun]
    exact ⟨rfl, rfl, doubling_pauses base before.length⟩
  · rw [hmade]
    exact run_ne_untried hpos

/-- The third attempt succeeds after a failure of the transport and another status. -/
theorem retry_protocol_third_attempt :
    let net := Network.ofReplies [.failure "refused", .response { status := 503, text := "" },
      .response { status := 200, text := "ok" }]
    let base := Binary64.ofInt 3
    let all := tries net "https://x/y?title=t" 3 0
    let made := push net Clock.standard 0 3 base "https://x/y" [("title", "t")]
    (∀ a ∈ all, a.1.isCaught = true) ∧ made.1 = .delivered 200 "ok" ∧
      made.2.requests = requested all ∧ made.2.pauses = [Binary64.ofInt 3, Binary64.ofInt 6] := by
  intro net base all
  have hcaught : ∀ a ∈ all, a.1.isCaught = true := by decide +kernel
  have hall : all = all.take 2 ++ (.answered { status := 200, text := "ok" },
      (net.attempt 2 "https://x/y?title=t").2) :: [] := by
    decide +kernel
  have hfailed : ∀ a ∈ all.take 2, a.1.isSuccess = false := by decide +kernel
  have htwo : (all.take 2).length = 2 := by decide +kernel
  have hmakes : Clock.standard.Makes base (all.take 2).length := by
    rw [htwo]
    intro i hi wait hwait
    rw [← Binary64.scale_eq_iff.mpr hwait]
    have hboth : ∀ i < 2, Clock.standard (base.scale i) = none := by decide +kernel
    exact hboth i hi
  obtain ⟨-, -, hsuccess, -⟩ := retry_protocol net Clock.standard 0 3 base "https://x/y"
    [("title", "t")] "https://x/y?title=t" (by decide) (by decide) (by decide +kernel) hcaught
  obtain ⟨houtcome, hrequests, hpauses⟩ := hsuccess _ _ _ _ hall rfl hfailed hmakes
  rw [← hall] at hrequests
  rw [htwo] at hpauses
  have hwaits : pauses base 0 2 = [Binary64.ofInt 3, Binary64.ofInt 6] := by decide +kernel
  exact ⟨hcaught, houtcome, hrequests, hpauses.eq_pauses.trans hwaits⟩

/-- With a negative base the first pause is refused, and a garbled text keeps a delivery from
requesting anything. -/
theorem retry_protocol_broken :
    let net : Network := fun _ => .response { status := 503, text := "busy" }
    let base := Binary64.ofInt (-1)
    let half : Garbled := ⟨[.surrogate ⟨0xD800, by decide⟩], rfl⟩
    let refused := push net Clock.standard 0 2 base "https://x/y" [("title", "t")]
    let garbled := push net Clock.standard 0 2 (.ofInt 1) "https://x/y" [("title", .garbled half)]
    (∀ a ∈ tries net "https://x/y?title=t" 2 0,
      a.1.isCaught = true ∧ a.1.isSuccess = false) ∧
      refused.1 = .broken (.refused .negative) ∧
      refused.2 = ⟨["https://x/y?title=t"], []⟩ ∧
      garbled = (.broken (.garbled half), ⟨[], []⟩) := by
  decide +kernel

end Delivery
end WebhookRelay
