import Mathlib

/-!
# The customer subscription schema

The part of the API's `CustomerSubscription` that the customer portal components read: the
status, the amounts and their currency, the period dates, the product with its organization,
the prices and the metered charges.  Amounts are integers in the currency's minor unit, as the
API sends them; dates are milliseconds since the epoch.  Each price is one constructor per
`amount_type`, so that only a fixed price has a `price_amount`, and `orZero` is JavaScript's
`x || 0` on an optional number.
-/

namespace PolarPortal

/-- Dates of the API, as milliseconds since the epoch. -/
abbrev Timestamp := Int

/-- The API's `SubscriptionStatus`. -/
inductive SubscriptionStatus
  | incomplete
  | incompleteExpired
  | trialing
  | active
  | pastDue
  | canceled
  | unpaid
  deriving DecidableEq, Repr

/-- The `amount_type` of a product price. -/
inductive AmountType
  | fixed
  | custom
  | free
  | meteredUnit
  deriving DecidableEq, Repr

/-- A product price.  Only the fixed price has a `price_amount`; the fields of the other
kinds are read by no component modelled here. -/
inductive ProductPrice
  | fixed (priceAmount : Int)
  | custom
  | free
  | meteredUnit
  deriving DecidableEq, Repr

namespace ProductPrice

/-- The price's `amount_type`. -/
def amountType : ProductPrice → AmountType
  | fixed _ => .fixed
  | custom => .custom
  | free => .free
  | meteredUnit => .meteredUnit

/-- The price's `price_amount`: `undefined` on a price that is not fixed. -/
def priceAmount? : ProductPrice → Option Int
  | fixed a => some a
  | _ => none

end ProductPrice

/-- A metered charge of the current period: `id`, `meter.name` and the accrued `amount`. -/
structure CustomerSubscriptionMeter where
  id : String
  meterName : String
  amount : Int
  deriving DecidableEq, Repr

/-- The organization selling the product, with `subscription_settings.allow_customer_updates`. -/
structure Organization where
  name : String
  slug : String
  avatarUrl : Option String
  allowCustomerUpdates : Bool
  deriving DecidableEq, Repr

/-- The subscribed product. -/
structure Product where
  name : String
  organization : Organization
  deriving DecidableEq, Repr

/-- A customer's subscription as the customer portal API returns it. -/
structure CustomerSubscription where
  id : String
  status : SubscriptionStatus
  amount : Option Int
  currency : Option String
  recurringInterval : String
  cancelAtPeriodEnd : Bool
  currentPeriodEnd : Option Timestamp
  startedAt : Option Timestamp
  endedAt : Option Timestamp
  product : Product
  prices : List ProductPrice
  meters : List CustomerSubscriptionMeter
  deriving DecidableEq, Repr

/-- JavaScript `x || 0` for an optional number: `undefined` and `0` both give `0`. -/
def orZero : Option Int → Int
  | some x => if x ≠ 0 then x else 0
  | none => 0

/-- On numbers `|| 0` agrees with `?? 0`: the only falsy number it can meet is `0` itself. -/
@[simp] theorem orZero_eq_getD (x : Option Int) : orZero x = x.getD 0 := by
  cases x with
  | none => rfl
  | some x => by_cases h : x = 0 <;> simp [orZero, h]

end PolarPortal
