import PolarPortal.Subscriptions.CustomerSubscriptionDetails

/-!
# The subscription action resolver

The spec's resolver (`resolveAction`) picks Change Plan when the organization permits customer
updates and the subscription is not in the canceled view, else Uncancel when it is in the
canceled view, ends at the period end, and that end is strictly after the evaluation time,
else nothing.  `primaryAction_refines` shows that the card's primary action is of the kind the
resolver picks, for every subscription, view, time and mutation state; the rest of the file
relates the action to the card's other rows and buttons:

* `details_controls`: Change Plan always comes with Unsubscribe, Uncancel never does;
* `uncancel_periodEndRow`: where Uncancel is offered on a subscription that has not ended, the
  card shows an Expiry Date in the future.

`primaryAction_uncancel_of_le`, an Uncancel offered at some time is offered at every earlier
one, is what the card's runs over time rest on.
-/

namespace PolarPortal

/-- The kind of action the resolver returns. -/
inductive ActionKind
  | changePlan
  | uncancel
  | none
  deriving DecidableEq, Repr

/-- The Subscription Action Resolver in the spec's words: the first matching rule wins. -/
def resolveAction (s : CustomerSubscription) (isCanceledView : Bool) (now : Timestamp) :
    ActionKind :=
  if s.product.organization.allowCustomerUpdates ∧ ¬isCanceledView then .changePlan
  else if isCanceledView ∧ s.cancelAtPeriodEnd ∧ s.currentPeriodEnd.any (· > now) then .uncancel
  else .none

/-- The kind of a primary action; no action is `none`. -/
def PrimaryAction.kind : Option PrimaryAction → ActionKind
  | some .changePlan => .changePlan
  | some (.uncancel _ _) => .uncancel
  | none => .none

theorem periodEndsAfter_eq (s : CustomerSubscription) (now : Timestamp) :
    periodEndsAfter s now = s.currentPeriodEnd.any (· > now) := by
  cases h : s.currentPeriodEnd <;> simp [periodEndsAfter, h]

/-- The card's primary action is of the kind the spec's resolver picks. -/
theorem primaryAction_refines (s : CustomerSubscription) (isCanceled : Bool) (now : Timestamp)
    (pending : Bool) :
    PrimaryAction.kind (primaryAction s isCanceled now pending) = resolveAction s isCanceled now := by
  rw [primaryAction, resolveAction, ← periodEndsAfter_eq]
  cases s.product.organization.allowCustomerUpdates <;> cases isCanceled <;>
    cases s.cancelAtPeriodEnd <;> cases periodEndsAfter s now <;> rfl

theorem primaryAction_eq_changePlan_iff (s : CustomerSubscription) (isCanceled : Bool)
    (now : Timestamp) (pending : Bool) :
    primaryAction s isCanceled now pending = some .changePlan ↔
      s.product.organization.allowCustomerUpdates = true ∧ isCanceled = false := by
  unfold primaryAction
  split_ifs with h₁ h₂ <;> simp_all

theorem periodEndsAfter_iff (s : CustomerSubscription) (now : Timestamp) :
    periodEndsAfter s now = true ↔ ∃ t, s.currentPeriodEnd = some t ∧ now < t := by
  cases h : s.currentPeriodEnd <;> simp [periodEndsAfter, h]

/-- What an offered Uncancel carries, and the rule that offered it. -/
theorem primaryAction_eq_uncancel {s : CustomerSubscription} {isCanceled : Bool}
    {now : Timestamp} {pending : Bool} {id : String} {loading : Bool}
    (h : primaryAction s isCanceled now pending = some (.uncancel id loading)) :
    id = s.id ∧ loading = pending ∧ isCanceled = true ∧ s.cancelAtPeriodEnd = true ∧
      periodEndsAfter s now = true := by
  unfold primaryAction at h
  split_ifs at h with h₁ h₂ <;> simp_all

/-- Uncancel offered at some time is offered at every earlier time, whatever the mutation's state:
only the period end moves it, and only away. -/
theorem primaryAction_uncancel_of_le {s : CustomerSubscription} {isCanceled : Bool}
    {now now' : Timestamp} {pending : Bool} {id : String} {loading : Bool}
    (h : primaryAction s isCanceled now pending = some (.uncancel id loading)) (hle : now' ≤ now)
    (pending' : Bool) :
    primaryAction s isCanceled now' pending' = some (.uncancel id pending') := by
  obtain ⟨rfl, -, hc, hcancel, hp⟩ := primaryAction_eq_uncancel h
  obtain ⟨t, ht, hlt⟩ := (periodEndsAfter_iff s now).1 hp
  have hp' : periodEndsAfter s now' = true :=
    (periodEndsAfter_iff s now').2 ⟨t, ht, lt_of_le_of_lt hle hlt⟩
  simp [primaryAction, hc, hcancel, hp']

/-- On the rendered card, Change Plan always comes with Unsubscribe and Uncancel never does. -/
theorem details_controls (s : CustomerSubscription) (isCanceled : Bool) (now : Timestamp)
    (st : DetailsState) :
    let v := customerSubscriptionDetails s isCanceled now st
    (v.primaryAction = some .changePlan → v.unsubscribe = true) ∧
      (∀ id loading, v.primaryAction = some (.uncancel id loading) → v.unsubscribe = false) := by
  refine ⟨fun h => ?_, fun id loading h => ?_⟩
  · simp [customerSubscriptionDetails, (primaryAction_eq_changePlan_iff ..).1 h]
  · simp [customerSubscriptionDetails, (primaryAction_eq_uncancel h).2.2.1]

/-- A subscription set to end with its period, which ends at `2000`. -/
def pendingCancellation : CustomerSubscription where
  id := "sub"
  status := .active
  amount := some 500
  currency := some "usd"
  recurringInterval := "month"
  cancelAtPeriodEnd := true
  currentPeriodEnd := some 2000
  startedAt := some 0
  endedAt := none
  product := ⟨"Pro", ⟨"Acme", "acme", none, false⟩⟩
  prices := [.fixed 500]
  meters := []

/-- Where Uncancel is offered on a subscription that has not ended, the card's date row is an
Expiry Date still ahead. -/
theorem uncancel_periodEndRow {s : CustomerSubscription} {isCanceled : Bool} {now : Timestamp}
    {pending : Bool} (h : primaryAction s isCanceled now pending = some (.uncancel s.id pending))
    (hended : s.endedAt = none) :
    ∃ t, periodEndRow s = some ("Expiry Date", t) ∧ now < t := by
  obtain ⟨-, -, -, hc, hp⟩ := primaryAction_eq_uncancel h
  obtain ⟨t, ht, hlt⟩ := (periodEndsAfter_iff s now).1 hp
  exact ⟨t, (periodEndRow_eq_some_iff ..).2 ⟨hended, ht, by simp [hc]⟩, hlt⟩

theorem uncancel_periodEndRow_pendingCancellation :
    primaryAction pendingCancellation true 1000 false = some (.uncancel "sub" false) ∧
      ∃ t, periodEndRow pendingCancellation = some ("Expiry Date", t) ∧ 1000 < t :=
  ⟨rfl, @uncancel_periodEndRow pendingCancellation true 1000 false rfl rfl⟩

end PolarPortal
