import Mathlib.Data.List.TakeWhile
import WebhookRelay.Proofs.Delivery.Retry

/-! # Deliveries with any number of attempts

The retry protocol is that of a delivery with so few attempts that the factors of all its pauses
are binary64 numbers.  The pause after the first `k + 1` failed attempts has the factor `2 ^ k`,
so there are 1024 such pauses at most.  A delivery that fails once more and has an attempt left
breaks off while it computes the next pause; it is **exhausted**.  And any delivery breaks off at
the first pause that the clock refuses.

How many pauses a delivery asks for depends on two numbers only, that of its attempts and that of
the failures before the first success (`Delivery.pauseCount`).  If it can make them all, its end
surfaces: it returns the response of the first success, or its error tells about the last attempt
(`Delivery.Surfaces`).  If it cannot, it breaks off (`Delivery.run_outcome`).  So the end of a
delivery surfaces if and only if it is not exhausted and the clock makes its pauses
(`Delivery.surfaces_iff`).
-/

namespace WebhookRelay
namespace Delivery

/-- The attempts before the first successful one. -/
def failures (all : List (Attempt × List Url)) : List (Attempt × List Url) :=
  all.takeWhile fun a => !a.1.isSuccess

/-- The end of a delivery surfaces: by the response of the first success, or by an error about the
last attempt if all of them have failed. -/
inductive Surfaces (all : List (Attempt × List Url)) : Delivery → Prop where
  | delivered {r : Response} {urls : List Url} {later : List (Attempt × List Url)}
      (hall : all = failures all ++ (.answered r, urls) :: later)
      (hsuccess : r.isSuccess = true) : Surfaces all (.delivered r.status r.text)
  | undelivered {before : List (Attempt × List Url)} {last : Attempt × List Url}
      {error : DeliveryError} (hfailed : failures all = all) (hall : all = before ++ [last])
      (hreports : Reports error last.1) : Surfaces all (.undelivered error)

/-- There are more failures than pauses that can be computed, and an attempt is left. -/
def Exhausted (all : List (Attempt × List Url)) : Prop :=
  1024 < (failures all).length ∧ 1025 < all.length

instance (all : List (Attempt × List Url)) : Decidable (Exhausted all) :=
  inferInstanceAs (Decidable (_ ∧ _))

/-- How many pauses a delivery asks for if it can make them all: one behind each failure, but none
behind its last attempt. -/
def pauseCount (all : List (Attempt × List Url)) : Nat :=
  min (failures all).length (all.length - 1)

variable {net : Network} {clock : Clock} {base : Binary64} {endpoint : String}
  {attempts earlier sent : Nat} {all : List (Attempt × List Url)}

/-! ## Failures -/

theorem mem_of_mem_failures {a : Attempt × List Url} (h : a ∈ failures all) : a ∈ all :=
  (List.takeWhile_sublist _).mem h

theorem isSuccess_of_mem_failures {a : Attempt × List Url} (h : a ∈ failures all) :
    a.1.isSuccess = false := by
  simpa using List.mem_takeWhile_imp h

theorem failures_eq_self_iff : failures all = all ↔ ∀ a ∈ all, a.1.isSuccess = false := by
  rw [failures, List.takeWhile_eq_self_iff]
  simp only [Bool.not_eq_true']

/-- The first attempts are failures, as many as there are. -/
theorem mem_failures_of_mem_take {k : Nat} (h : k ≤ (failures all).length)
    {a : Attempt × List Url} (ha : a ∈ all.take k) : a ∈ failures all := by
  obtain ⟨later, hall⟩ : failures all <+: all := List.takeWhile_prefix _
  rw [← hall, List.take_append_of_le_length h] at ha
  exact List.mem_of_mem_take ha

/-- All attempts have failed, or behind the failures stands a success. -/
theorem failures_cases (all : List (Attempt × List Url)) : failures all = all ∨
    ∃ r urls later, all = failures all ++ (.answered r, urls) :: later ∧ r.isSuccess = true := by
  induction all with
  | nil => exact Or.inl rfl
  | cons a rest ih =>
    obtain ⟨result, urls⟩ := a
    cases hsuccess : result.isSuccess with
    | true =>
      have hnone : failures ((result, urls) :: rest) = [] :=
        List.takeWhile_cons_of_neg (by simp [hsuccess])
      rw [hnone]
      cases result with
      | answered r => exact Or.inr ⟨r, urls, rest, rfl, hsuccess⟩
      | failed failure => cases hsuccess
      | broken fault => cases hsuccess
    | false =>
      have hcons : failures ((result, urls) :: rest) = (result, urls) :: failures rest :=
        List.takeWhile_cons_of_pos (by simp [hsuccess])
      rw [hcons]
      rcases ih with hall | ⟨r, others, later, hrest, hr⟩
      · exact Or.inl (congrArg ((result, urls) :: ·) hall)
      · exact Or.inr ⟨r, others, later, congrArg ((result, urls) :: ·) hrest, hr⟩

/-! ## Pauses -/

/-- Some pauses can all be made, or there is a first one that cannot. -/
theorem pause_cases (clock : Clock) (base : Binary64) (count : Nat) :
    (∀ i < count, pause clock base i = .ok (base.scale i)) ∨
      ∃ k fault, k < count ∧ (∀ i < k, pause clock base i = .ok (base.scale i)) ∧
        pause clock base k = .error fault := by
  induction count with
  | zero => exact Or.inl fun i hi => absurd hi (Nat.not_lt_zero i)
  | succ count ih =>
    rcases ih with hall | ⟨k, fault, hk, hbefore, hfault⟩
    · cases hlast : pause clock base count with
      | error fault => exact Or.inr ⟨count, fault, Nat.lt_succ_self count, hall, hlast⟩
      | ok wait =>
        refine Or.inl fun i hi => ?_
        rcases Nat.lt_succ_iff_lt_or_eq.mp hi with hless | rfl
        · exact hall i hless
        · rw [hlast, (pause_eq_ok_iff.mp hlast).2.2]
    · exact Or.inr ⟨k, fault, Nat.lt_succ_of_lt hk, hbefore, hfault⟩

theorem exhausted_iff : Exhausted all ↔ 1024 < pauseCount all := by
  rw [Exhausted, pauseCount]
  omega

/-- All pauses of a delivery can be made if it is not exhausted and the clock makes them. -/
theorem forall_pause_iff :
    (∀ i < pauseCount all, pause clock base i = .ok (base.scale i)) ↔
      ¬ Exhausted all ∧ clock.Makes base (pauseCount all) := by
  rw [exhausted_iff, Nat.not_lt]
  constructor
  · intro h
    refine ⟨Nat.not_lt.mp fun hmore => ?_, fun i hi wait hwait => ?_⟩
    · exact Nat.lt_irrefl 1024 (pause_eq_ok_iff.mp (h 1024 hmore)).1
    · rw [← Binary64.scale_eq_iff.mpr hwait]
      exact (pause_eq_ok_iff.mp (h i hi)).2.1
  · rintro ⟨hlimit, hmakes⟩
    exact pause_of_makes hmakes hlimit

/-! ## Whole deliveries -/

section Outcome

variable (hcaught : ∀ a ∈ failures (tries net endpoint attempts sent), a.1.isCaught = true)
include hcaught

/-- A delivery breaks off at the first of its pauses that it cannot make. -/
theorem broken_of_fault {k : Nat} {fault : DeliveryFault}
    (hk : k < pauseCount (tries net endpoint attempts sent))
    (hbefore : ∀ i < k, pause clock base i = .ok (base.scale i))
    (hfault : pause clock base k = .error fault) :
    (run net clock base endpoint attempts 0 sent).1 = .broken fault := by
  rw [pauseCount] at hk
  have hless : k < (tries net endpoint attempts sent).length := by omega
  have htake : ((tries net endpoint attempts sent).take k).length = k :=
    List.length_take_of_le (Nat.le_of_lt hless)
  have hfailed : ∀ a ∈ (tries net endpoint attempts sent).take k ++
      [(tries net endpoint attempts sent)[k]], a.1.isCaught = true ∧ a.1.isSuccess = false := by
    intro a ha
    rw [List.take_append_getElem] at ha
    have hmem := mem_failures_of_mem_take (by omega) ha
    exact ⟨hcaught a hmem, isSuccess_of_mem_failures hmem⟩
  have hsplit : tries net endpoint attempts sent =
      (tries net endpoint attempts sent).take k ++ (tries net endpoint attempts sent)[k] ::
        (tries net endpoint attempts sent).drop (k + 1) := by
    rw [← List.drop_eq_getElem_cons hless, List.take_append_drop]
  have hlater : (tries net endpoint attempts sent).drop (k + 1) ≠ [] := by
    rw [ne_eq, List.drop_eq_nil_iff]
    omega
  rw [run_of_fault hsplit hlater hfailed (by rwa [htake]) (by rwa [htake])]

/-- An exhausted delivery whose pauses are made breaks off because the next one cannot be
computed. -/
theorem broken_of_exhausted (hmakes : clock.Makes base 1024)
    (hexhausted : Exhausted (tries net endpoint attempts sent)) :
    (run net clock base endpoint attempts 0 sent).1 = .broken (.pause .integerTooLarge) :=
  broken_of_fault hcaught (exhausted_iff.mp hexhausted)
    (pause_of_makes hmakes (Nat.le_refl 1024)) (pause_of_not_lt (Nat.le_refl 1024))

variable (hpos : 1 ≤ attempts)
include hpos

/-- A delivery that can make its pauses surfaces. -/
theorem surfaces_of_forall_pause
    (hpauses : ∀ i < pauseCount (tries net endpoint attempts sent),
      pause clock base i = .ok (base.scale i)) :
    Surfaces (tries net endpoint attempts sent)
      (run net clock base endpoint attempts 0 sent).1 := by
  have hlength := length_tries net endpoint attempts sent
  rcases failures_cases (tries net endpoint attempts sent) with
    hfailed | ⟨r, urls, later, hall, hsuccess⟩
  · obtain ⟨before, last, error, hall, hreports, hrun⟩ := run_of_forall_failed hpos
      (fun a ha => ⟨hcaught a (hfailed.symm ▸ ha), failures_eq_self_iff.mp hfailed a ha⟩)
      fun i hi => hpauses i (by rw [pauseCount, hfailed, hlength]; omega)
    rw [hrun]
    exact .undelivered hfailed hall hreports
  · -- an attempt is left after the failures
    have hmore : (failures (tries net endpoint attempts sent)).length < attempts := by
      have hsum := congrArg List.length hall
      rw [List.length_append, List.length_cons, hlength] at hsum
      omega
    rw [run_of_first_success hall hsuccess
      (fun a ha => ⟨hcaught a ha, isSuccess_of_mem_failures ha⟩)
      fun i hi => hpauses i (by rw [pauseCount, hlength]; omega)]
    exact .delivered hall hsuccess

/-- **What becomes of a delivery.**  If it can make all of its pauses, its end surfaces.  If it
cannot, it breaks off at the first one that it cannot make. -/
theorem run_outcome (clock : Clock) (base : Binary64) :
    (∀ i < pauseCount (tries net endpoint attempts sent),
        pause clock base i = .ok (base.scale i)) ∧
      Surfaces (tries net endpoint attempts sent)
        (run net clock base endpoint attempts 0 sent).1 ∨
    ∃ k fault, k < pauseCount (tries net endpoint attempts sent) ∧
      pause clock base k = .error fault ∧
      (run net clock base endpoint attempts 0 sent).1 = .broken fault := by
  rcases pause_cases clock base (pauseCount (tries net endpoint attempts sent)) with
    hall | ⟨k, fault, hk, hbefore, hfault⟩
  · exact Or.inl ⟨hall, surfaces_of_forall_pause hcaught hpos hall⟩
  · exact Or.inr ⟨k, fault, hk, hfault, broken_of_fault hcaught hk hbefore hfault⟩

/-- **The end of a delivery surfaces** if and only if it is not exhausted and the clock makes its
pauses. -/
theorem surfaces_iff :
    Surfaces (tries net endpoint attempts sent)
        (run net clock base endpoint attempts 0 sent).1 ↔
      ¬ Exhausted (tries net endpoint attempts sent) ∧
        clock.Makes base (pauseCount (tries net endpoint attempts sent)) := by
  rw [← forall_pause_iff]
  rcases run_outcome hcaught hpos clock base with
    ⟨hpauses, hsurfaces⟩ | ⟨k, fault, hk, hfault, hbroken⟩
  · exact iff_of_true hsurfaces hpauses
  · refine iff_of_false (fun hsurfaces => ?_) fun hpauses => ?_
    · rw [hbroken] at hsurfaces
      cases hsurfaces
    · rw [hpauses k hk] at hfault
      cases hfault

/-- If it does not surface, the delivery breaks off. -/
theorem exists_broken_of_not_surfaces
    (h : ¬ Surfaces (tries net endpoint attempts sent)
      (run net clock base endpoint attempts 0 sent).1) :
    ∃ fault, (run net clock base endpoint attempts 0 sent).1 = .broken fault := by
  rcases run_outcome hcaught hpos clock base with
    ⟨-, hsurfaces⟩ | ⟨k, fault, -, -, hbroken⟩
  · exact absurd hsurfaces h
  · exact ⟨fault, hbroken⟩

end Outcome

end Delivery
end WebhookRelay
