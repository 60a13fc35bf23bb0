import PolarPortal.Schema

/-!
# `CustomerSubscriptionDetails`

The customer's card for one subscription.  It shows the product and its organization, the
amount (or `Free`), the status, the start date, either the renewal or expiry date or the date
the subscription expired, the primary action and the Unsubscribe button.

The primary action (`primaryAction`) is the first of two rules that applies: Change Plan when
the organization allows customer updates and the card is not in its canceled view, else
Uncancel when the canceled subscription ends at the period end and that end is still ahead.
What a click does, and the state the card keeps between renders, are in
`PolarPortal.Subscriptions.DetailsMachine`.

The `!organization` guard of the component is not modelled: the schema makes the organization
a required object, which is always truthy, so the guard never returns.
-/

namespace PolarPortal

/-- The primary action of the card.  `uncancel id loading` uncancels the subscription `id`;
`loading` is the uncancel mutation's `isPending`. -/
inductive PrimaryAction
  | changePlan
  | uncancel (id : String) (loading : Bool)
  deriving DecidableEq, Repr

namespace PrimaryAction

/-- The button's `label`. -/
def label : PrimaryAction → String
  | changePlan => "Change Plan"
  | uncancel _ _ => "Uncancel"

/-- The button's `loading`: Change Plan has none. -/
def loading : PrimaryAction → Bool
  | changePlan => false
  | uncancel _ loading => loading

end PrimaryAction

/-- The test
`subscription.current_period_end && new Date(subscription.current_period_end) > new Date()`. -/
def periodEndsAfter (s : CustomerSubscription) (now : Timestamp) : Bool :=
  match s.currentPeriodEnd with
  | some t => decide (t > now)
  | none => false

/-- The `primaryAction`: the first rule that applies wins. -/
def primaryAction (s : CustomerSubscription) (isCanceled : Bool) (now : Timestamp)
    (uncancelPending : Bool) : Option PrimaryAction :=
  if s.product.organization.allowCustomerUpdates && !isCanceled then
    some .changePlan
  else if isCanceled && s.cancelAtPeriodEnd && periodEndsAfter s now then
    some (.uncancel s.id uncancelPending)
  else
    none

/-- The Amount row: an amount label, or the text `Free`. -/
inductive AmountDisplay
  | label (amount : Int) (currency : String) (interval : String)
  | free
  deriving DecidableEq, Repr

/-- The Amount row, `subscription.amount && subscription.currency ? <AmountLabel ... /> : 'Free'`:
a zero amount and an empty currency are falsy. -/
def amountDisplay (s : CustomerSubscription) : AmountDisplay :=
  match s.amount, s.currency with
  | some amount, some currency =>
    if amount ≠ 0 ∧ currency ≠ "" then .label amount currency s.recurringInterval else .free
  | _, _ => .free

/-- The row under `!subscription.ended_at && subscription.current_period_end`: its title and
the date. -/
def periodEndRow (s : CustomerSubscription) : Option (String × Timestamp) :=
  match s.endedAt, s.currentPeriodEnd with
  | none, some t => some (if s.cancelAtPeriodEnd then "Expiry Date" else "Renewal Date", t)
  | _, _ => none

/-- The component's own state: its two modals and the uncancel mutation. -/
structure DetailsState where
  showChangePlanModal : Bool
  showCancelModal : Bool
  uncancelPending : Bool
  deriving DecidableEq, Repr

/-- What `CustomerSubscriptionDetails` renders.  `expired` is the `Expired` row. -/
structure SubscriptionDetailsView where
  productName : String
  organization : Organization
  amount : AmountDisplay
  status : SubscriptionStatus
  startDate : Option Timestamp
  periodEnd : Option (String × Timestamp)
  expired : Option Timestamp
  primaryAction : Option PrimaryAction
  unsubscribe : Bool
  cancelModalShown : Bool
  changePlanModalShown : Bool
  deriving DecidableEq, Repr

/-- The view `CustomerSubscriptionDetails` renders at time `now` with the component state
`st`. -/
def customerSubscriptionDetails (s : CustomerSubscription) (isCanceled : Bool) (now : Timestamp)
    (st : DetailsState) : SubscriptionDetailsView where
  productName := s.product.name
  organization := s.product.organization
  amount := amountDisplay s
  status := s.status
  startDate := s.startedAt
  periodEnd := periodEndRow s
  expired := s.endedAt
  primaryAction := primaryAction s isCanceled now st.uncancelPending
  unsubscribe := !isCanceled
  cancelModalShown := st.showCancelModal
  changePlanModalShown := st.showChangePlanModal

/-! ## The rows -/

theorem periodEndRow_eq_some_iff (s : CustomerSubscription) (title : String) (t : Timestamp) :
    periodEndRow s = some (title, t) ↔ s.endedAt = none ∧ s.currentPeriodEnd = some t ∧
      title = if s.cancelAtPeriodEnd then "Expiry Date" else "Renewal Date" := by
  cases he : s.endedAt <;> cases hc : s.currentPeriodEnd <;> simp [periodEndRow, he, hc]
  exact ⟨fun ⟨h₁, h₂⟩ => ⟨h₂, h₁.symm⟩, fun ⟨h₁, h₂⟩ => ⟨h₂.symm, h₁⟩⟩

/-- The card shows at most one of the Expired row and the Renewal or Expiry Date row, and one of
them whenever the subscription has an end date or a period end. -/
theorem details_dateRows (s : CustomerSubscription) (isCanceled : Bool) (now : Timestamp)
    (st : DetailsState) :
    let v := customerSubscriptionDetails s isCanceled now st
    ¬(v.periodEnd.isSome ∧ v.expired.isSome) ∧
      (v.periodEnd.isSome ∨ v.expired.isSome ↔ s.endedAt.isSome ∨ s.currentPeriodEnd.isSome) := by
  simp only [customerSubscriptionDetails, periodEndRow]
  cases s.endedAt <;> cases s.currentPeriodEnd <;> simp

end PolarPortal
