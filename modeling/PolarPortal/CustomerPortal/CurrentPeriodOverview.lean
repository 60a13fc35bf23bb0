import PolarPortal.Schema
import PolarPortal.Binary64

/-!
# `CurrentPeriodOverview`

The customer portal's overview of the current billing period.  It renders nothing unless the
subscription is active; otherwise it shows the date of the next invoice, the product, one row
per metered charge, and the Estimated Total: the meters' `reduce` seeded with the first fixed
price (`totalAmount`), with a note that the final charges may vary whenever there are meters.

The `reduce` adds JavaScript numbers (`Binary64`): every amount as `JSON.parse` read it, every
sum rounded.  While each number it reads or computes stays within 2^53 (`safeReduce`) the
additions are exact, and the run lemma `foldl_addMeter_of_safe` gives the total as the seed
plus every amount; beyond 2^53 the total rounds.  Rounding keeps the order, so at every
magnitude the total never goes down as the meters accrue (`totalAmount_mono`).
`basePrice_priceAmount?` reads the seed back as the first fixed price's amount (`fixedPrice`).
-/

namespace PolarPortal

/-- The theme preset `useThemePreset` is asked for. -/
inductive ThemePreset
  | midday
  | polar
  deriving DecidableEq, Repr

/-- The `midday` organization has a preset of its own; every other one gets `polar`. -/
def themePresetOf (slug : String) : ThemePreset :=
  if slug = "midday" then .midday else .polar

/-- A row of the "Metered Charges" block: its `key`, the meter's name and its amount. -/
structure MeteredChargeRow where
  key : String
  name : String
  amount : Int
  deriving DecidableEq, Repr

/-- What `CurrentPeriodOverview` renders.  `nextInvoice = none` is the text `N/A`,
`meteredCharges = none` is the absent "Metered Charges" block, and `provisional` is the note
"Final charges may vary based on usage until the end of the billing period". -/
structure PeriodOverview where
  themePreset : ThemePreset
  nextInvoice : Option Timestamp
  product : Product
  meteredCharges : Option (List MeteredChargeRow)
  estimatedTotal : Int
  currency : Option String
  provisional : Bool
  deriving DecidableEq, Repr

/-- The `basePrice`: the first price whose `amount_type` is `'fixed'`. -/
def basePrice (s : CustomerSubscription) : Option ProductPrice :=
  s.prices.find? fun price => price.amountType == .fixed

/-- One step of the meters' `reduce`: JavaScript's `+` on the total so far and the meter's
amount, a number as `JSON.parse` read it. -/
def addMeter (acc : Int) (meter : CustomerSubscriptionMeter) : Int :=
  Binary64.add acc (Binary64.round meter.amount)

/-- The `totalAmount`: the meters' `reduce`, seeded with `basePrice?.price_amount || 0`. -/
def totalAmount (s : CustomerSubscription) : Int :=
  s.meters.foldl addMeter
    (orZero (((basePrice s).bind ProductPrice.priceAmount?).map Binary64.round))

/-- The rows of the "Metered Charges" block, in the meters' order. -/
def meteredChargeRows (meters : List CustomerSubscriptionMeter) : List MeteredChargeRow :=
  meters.map fun meter => ⟨meter.id, meter.meterName, meter.amount⟩

/-- The view `CurrentPeriodOverview` renders: `none` is the component returning `null`. -/
def currentPeriodOverview (s : CustomerSubscription) : Option PeriodOverview :=
  let themePreset := themePresetOf s.product.organization.slug
  if s.status ≠ .active then none
  else some
    { themePreset
      nextInvoice := s.currentPeriodEnd
      product := s.product
      meteredCharges := if s.meters.length > 0 then some (meteredChargeRows s.meters) else none
      estimatedTotal := totalAmount s
      currency := s.currency
      provisional := decide (s.meters.length > 0) }

/-! ## The fixed price -/

/-- The plan's fixed price, in the spec's words: the `price_amount` of the first price whose
`amount_type` is `'fixed'`, if there is one. -/
def fixedPrice : List ProductPrice → Option Int
  | [] => none
  | .fixed a :: _ => some a
  | _ :: ps => fixedPrice ps

theorem basePrice_priceAmount? (ps : List ProductPrice) :
    (ps.find? fun price => price.amountType == .fixed).bind ProductPrice.priceAmount? =
      fixedPrice ps := by
  induction ps with
  | nil => rfl
  | cons p ps ih =>
    cases p with
    | fixed a => rfl
    | custom | free | meteredUnit => exact ih

/-! ## The meters' `reduce` -/

/-- Whether every number the `reduce` reads or computes from `seed` over `amounts` is within
2^53 in magnitude: the seed, every amount and every partial sum, which JavaScript then adds
exactly. -/
def safeReduce (seed : Int) : List Int → Bool
  | [] => seed.natAbs ≤ 2 ^ 53
  | a :: as => seed.natAbs ≤ 2 ^ 53 && a.natAbs ≤ 2 ^ 53 && safeReduce (seed + a) as

theorem safeReduce_seed {seed : Int} {amounts : List Int} (h : safeReduce seed amounts = true) :
    seed.natAbs ≤ 2 ^ 53 := by
  cases amounts <;> simp_all [safeReduce]

/-- The run lemma: while every number stays within 2^53, the fold adds every meter's amount to
its seed exactly. -/
theorem foldl_addMeter_of_safe (ms : List CustomerSubscriptionMeter) (acc : Int)
    (h : safeReduce acc (ms.map (·.amount)) = true) :
    ms.foldl addMeter acc = acc + (ms.map (·.amount)).sum := by
  induction ms generalizing acc with
  | nil => simp
  | cons m ms ih =>
    simp only [List.map_cons, safeReduce, Bool.and_eq_true, decide_eq_true_eq] at h
    obtain ⟨⟨-, hm⟩, hrest⟩ := h
    rw [List.foldl_cons, addMeter, Binary64.round_of_natAbs_le hm,
      Binary64.add_of_natAbs_le (safeReduce_seed hrest), ih _ hrest, List.map_cons,
      List.sum_cons, Int.add_assoc]

/-- The seed: a fixed price read as a number, or `0`. -/
theorem orZero_map_round (x : Option Int) :
    orZero (x.map Binary64.round) = Binary64.round (x.getD 0) := by
  cases x <;> simp [Binary64.round_of_natAbs_le]

theorem totalAmount_eq {s : CustomerSubscription}
    (h : safeReduce ((fixedPrice s.prices).getD 0) (s.meters.map (·.amount)) = true) :
    totalAmount s = (fixedPrice s.prices).getD 0 + (s.meters.map (·.amount)).sum := by
  rw [totalAmount, orZero_map_round, basePrice, basePrice_priceAmount?,
    Binary64.round_of_natAbs_le (safeReduce_seed h), foldl_addMeter_of_safe _ _ h]

/-- The `reduce` keeps the order of its inputs: a larger seed and larger amounts, meter by meter,
give a larger total. -/
theorem foldl_addMeter_mono {ms ms' : List CustomerSubscriptionMeter} {acc acc' : Int}
    (hacc : acc ≤ acc')
    (h : List.Forall₂ (fun m m' : CustomerSubscriptionMeter => m.amount ≤ m'.amount) ms ms') :
    ms.foldl addMeter acc ≤ ms'.foldl addMeter acc' := by
  induction h generalizing acc acc' with
  | nil => exact hacc
  | cons hm _ ih => exact ih (Binary64.add_mono hacc (Binary64.round_mono hm))

/-- As usage accrues, the total never goes down: with every meter's amount at least what it was,
the total is at least what it was, however large the numbers, since rounding keeps the order. -/
theorem totalAmount_mono (s : CustomerSubscription) {ms : List CustomerSubscriptionMeter}
    (h : List.Forall₂ (fun m m' : CustomerSubscriptionMeter => m.amount ≤ m'.amount) s.meters ms) :
    totalAmount s ≤ totalAmount { s with meters := ms } :=
  foldl_addMeter_mono le_rfl h

/-- An active plan of 500 with one meter, which has accrued 300. -/
def meteredPlan : CustomerSubscription where
  id := "sub"
  status := .active
  amount := some 500
  currency := some "usd"
  recurringInterval := "month"
  cancelAtPeriodEnd := false
  currentPeriodEnd := some 2000
  startedAt := some 0
  endedAt := none
  product := ⟨"Pro", ⟨"Acme", "acme", none, true⟩⟩
  prices := [.fixed 500, .meteredUnit]
  meters := [⟨"m", "API calls", 300⟩]

theorem totalAmount_mono_accrued :
    totalAmount meteredPlan ≤
      totalAmount { meteredPlan with meters := [⟨"m", "API calls", 450⟩] } :=
  totalAmount_mono meteredPlan (.cons (by decide) .nil)

/-! ## What the component returns -/

theorem currentPeriodOverview_eq_none_iff (s : CustomerSubscription) :
    currentPeriodOverview s = none ↔ s.status ≠ .active := by
  by_cases h : s.status = .active <;> simp [currentPeriodOverview, h]

theorem currentPeriodOverview_of_active {s : CustomerSubscription} (h : s.status = .active) :
    currentPeriodOverview s = some
      { themePreset := themePresetOf s.product.organization.slug
        nextInvoice := s.currentPeriodEnd
        product := s.product
        meteredCharges := if s.meters ≠ [] then some (meteredChargeRows s.meters) else none
        estimatedTotal := totalAmount s
        currency := s.currency
        provisional := decide (s.meters ≠ []) } := by
  simp [currentPeriodOverview, h, List.length_pos]

end PolarPortal
