import PolarPortal.CustomerPortal.CurrentPeriodOverview

/-!
# The billing period estimator

The spec's estimator (`estimate`): no estimate unless the subscription is active; otherwise the
total is the fixed price, `0` without one, plus every metered charge, in exact integer
arithmetic, and the estimate is provisional exactly when there are metered charges.

`CurrentPeriodOverview` adds JavaScript numbers, so it displays this estimate while the fixed
price, every amount and every partial sum of its `reduce` stay within 2^53
(`currentPeriodOverview_refines`); `currentPeriodOverview_estimatedTotal` states the component's
total, its independence of the meters' order and its provisional note on those terms.  Past 2^53
the total rounds, and two orders of the same meters can give two totals
(`currentPeriodOverview_estimatedTotal_rounds`).
-/

namespace PolarPortal

/-- An estimate of the amount due for the current period. -/
structure Estimate where
  total : Int
  provisional : Bool
  deriving DecidableEq, Repr

/-- The billing period estimator, as the spec states it. -/
def estimate (s : CustomerSubscription) : Option Estimate :=
  if s.status = .active then
    some ⟨(fixedPrice s.prices).getD 0 + (s.meters.map (·.amount)).sum, decide (s.meters ≠ [])⟩
  else none

/-- The estimate an overview displays: its Estimated Total and its provisional note. -/
def PeriodOverview.estimate (v : PeriodOverview) : Estimate :=
  ⟨v.estimatedTotal, v.provisional⟩

/-- While every number its `reduce` reads or computes is within 2^53, the view
`CurrentPeriodOverview` displays the spec's estimate. -/
theorem currentPeriodOverview_refines (s : CustomerSubscription)
    (h : safeReduce ((fixedPrice s.prices).getD 0) (s.meters.map (·.amount)) = true) :
    (currentPeriodOverview s).map PeriodOverview.estimate = estimate s := by
  by_cases hs : s.status = .active
  · simp [currentPeriodOverview_of_active hs, estimate, hs, PeriodOverview.estimate,
      totalAmount_eq h]
  · simp [(currentPeriodOverview_eq_none_iff s).2 hs, estimate, hs]

theorem currentPeriodOverview_refines_meteredPlan :
    safeReduce ((fixedPrice meteredPlan.prices).getD 0) (meteredPlan.meters.map (·.amount)) =
        true ∧
      (currentPeriodOverview meteredPlan).map PeriodOverview.estimate = estimate meteredPlan :=
  ⟨by decide, currentPeriodOverview_refines meteredPlan (by decide)⟩

theorem currentPeriodOverview_estimatedTotal (s : CustomerSubscription) :
    (currentPeriodOverview s = none ↔ s.status ≠ .active) ∧
    (s.status = .active → ∃ v, currentPeriodOverview s = some v ∧
      (v.provisional = true ↔ s.meters ≠ []) ∧
      (safeReduce ((fixedPrice s.prices).getD 0) (s.meters.map (·.amount)) = true →
        v.estimatedTotal = (fixedPrice s.prices).getD 0 + (s.meters.map (·.amount)).sum ∧
        ∀ ms : List CustomerSubscriptionMeter, ms.Perm s.meters →
          safeReduce ((fixedPrice s.prices).getD 0) (ms.map (·.amount)) = true →
          (currentPeriodOverview { s with meters := ms }).map (·.estimatedTotal) =
            some v.estimatedTotal)) := by
  refine ⟨currentPeriodOverview_eq_none_iff s, fun h => ⟨_, currentPeriodOverview_of_active h,
    by simp, fun hsafe => ⟨totalAmount_eq hsafe, fun ms hms hsafe' => ?_⟩⟩⟩
  rw [currentPeriodOverview_of_active (s := { s with meters := ms }) h, Option.map_some',
    totalAmount_eq (s := { s with meters := ms }) hsafe', totalAmount_eq hsafe]
  simp [(hms.map (·.amount)).sum_eq]

/-- An active usage-only plan with the given meters. -/
def usagePlan (meters : List CustomerSubscriptionMeter) : CustomerSubscription :=
  { meteredPlan with prices := [.meteredUnit], meters }

/-- A meter at 2^53 and two at 1. -/
def largeMeters : List CustomerSubscriptionMeter :=
  [⟨"a", "Storage", 2 ^ 53⟩, ⟨"b", "API calls", 1⟩, ⟨"c", "Seats", 1⟩]

theorem currentPeriodOverview_estimatedTotal_rounds :
    (currentPeriodOverview (usagePlan largeMeters)).map (·.estimatedTotal) = some (2 ^ 53) ∧
      (currentPeriodOverview (usagePlan (largeMeters.rotate 1))).map (·.estimatedTotal) =
        some (2 ^ 53 + 2) ∧
      (fixedPrice (usagePlan largeMeters).prices).getD 0 + (largeMeters.map (·.amount)).sum =
        2 ^ 53 + 2 := by
  decide

end PolarPortal
