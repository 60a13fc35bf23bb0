import PolarPortal.Subscriptions.Resolver

/-!
# The subscription card over time

`CustomerSubscriptionDetails` keeps three pieces of state between renders: whether the
change-plan modal and the cancellation modal are open, and whether the uncancel mutation is in
flight.  Its parent may render it again at any moment with a new snapshot, canceled view or
time; the customer clicks the buttons that are rendered; the mutation resolves or fails.
`detailsStep` is one such event, with the requests it makes.  A button showing `loading` is
taken to accept clicks, so nothing below rests on how the button treats them.

The card's gates hold along every run, whatever the order of clicks, mutation results and new
snapshots (`detailsRun_invariant` is the induction, done once):

* `detailsRun_changePlan`: no run whose snapshots all forbid a plan change opens the change-plan
  modal;
* `detailsRun_cancelModal`: no run whose snapshots are all in the canceled view opens the
  cancellation modal;
* `detailsRun_uncancel`: every uncancel request is for the snapshot shown, made while that
  snapshot was in the canceled view and pending cancellation with its period end ahead;
* `detailsRun_uncancel_expired`: while the snapshot and view stay and time moves forward, an
  Uncancel that is gone does not come back.

A change of state makes React render the card again, and that render evaluates
`primaryAction` with a fresh `new Date()`: in a run it is the `render` event that follows, with
the same snapshot and view and the later time.  A step keeps the time of the last render, so the
results are about runs, which hold those renders, and not about single steps.

The mutation's `isPending` follows its latest call, so `uncancelResolved` and `uncancelFailed`
are the settling of the latest uncancel request; an earlier one settling changes no state of the
card and only revalidates, which none of the results is about.
-/

namespace PolarPortal

/-- What the parent renders the card with: the snapshot, the canceled view, and the time at which
`primaryAction` was last computed. -/
structure DetailsProps where
  subscription : CustomerSubscription
  isCanceled : Bool
  now : Timestamp
  deriving DecidableEq, Repr

/-- Whether the props let the card offer Change Plan. -/
def DetailsProps.offersChangePlan (p : DetailsProps) : Bool :=
  p.subscription.product.organization.allowCustomerUpdates && !p.isCanceled

/-- A request the card makes of a collaborator. -/
inductive Effect
  | uncancelSubscription (id : String)
  | revalidate (tag : String)
  deriving DecidableEq, Repr

/-- What can happen to a rendered card. -/
inductive DetailsEvent
  | render (props : DetailsProps)
  | clickPrimaryAction
  | clickUnsubscribe
  | hideChangePlanModal
  | hideCancelModal
  | uncancelResolved
  | uncancelFailed
  deriving DecidableEq, Repr

/-- The card between events. -/
structure DetailsMachine where
  props : DetailsProps
  state : DetailsState
  deriving DecidableEq, Repr

/-- The primary action the card shows. -/
def DetailsMachine.action (m : DetailsMachine) : Option PrimaryAction :=
  primaryAction m.props.subscription m.props.isCanceled m.props.now m.state.uncancelPending

/-- One event: the card after it and the requests it makes.  `none` is an event that cannot
happen: a click on a button that is not rendered, or the result of a mutation not in flight.
Uncancel's `onClick` awaits the mutation and then revalidates `customer_portal`, so the
revalidation is made when the mutation resolves, and not when it fails.  The step keeps
`props.now`: the render that a change of state causes, with a fresh `new Date()`, is the
`render` event after it. -/
def detailsStep (m : DetailsMachine) : DetailsEvent → Option (DetailsMachine × List Effect)
  | .render props => some (⟨props, m.state⟩, [])
  | .clickPrimaryAction =>
    match m.action with
    | some .changePlan => some (⟨m.props, { m.state with showChangePlanModal := true }⟩, [])
    | some (.uncancel id _) =>
      some (⟨m.props, { m.state with uncancelPending := true }⟩, [.uncancelSubscription id])
    | none => none
  | .clickUnsubscribe =>
    if m.props.isCanceled then none
    else some (⟨m.props, { m.state with showCancelModal := true }⟩, [])
  | .hideChangePlanModal => some (⟨m.props, { m.state with showChangePlanModal := false }⟩, [])
  | .hideCancelModal => some (⟨m.props, { m.state with showCancelModal := false }⟩, [])
  | .uncancelResolved =>
    if m.state.uncancelPending then
      some (⟨m.props, { m.state with uncancelPending := false }⟩, [.revalidate "customer_portal"])
    else none
  | .uncancelFailed =>
    if m.state.uncancelPending then some (⟨m.props, { m.state with uncancelPending := false }⟩, [])
    else none

/-- A run of events from `m`: the card at the end, and every request with the props it was made
under; `none` when one of the events cannot happen. -/
def detailsRun : DetailsMachine → List DetailsEvent →
    Option (DetailsMachine × List (DetailsProps × Effect))
  | m, [] => some (m, [])
  | m, e :: es => (detailsStep m e).bind fun r =>
      (detailsRun r.1 es).map fun r' => (r'.1, r.2.map (m.props, ·) ++ r'.2)

/-! ## Runs -/

section Run

variable (Good : DetailsEvent → Prop) (Inv : DetailsMachine → Prop)

theorem detailsRun_cons {m m' : DetailsMachine} {e : DetailsEvent} {es : List DetailsEvent}
    {log : List (DetailsProps × Effect)} (h : detailsRun m (e :: es) = some (m', log)) :
    ∃ m₁ fx log', detailsStep m e = some (m₁, fx) ∧ detailsRun m₁ es = some (m', log') ∧
      log = fx.map (m.props, ·) ++ log' := by
  simp only [detailsRun, Option.bind_eq_some, Option.map_eq_some'] at h
  obtain ⟨⟨m₁, fx⟩, h₁, ⟨m₂, log'⟩, h₂, he⟩ := h
  simp only [Prod.mk.injEq] at he
  exact ⟨m₁, fx, log', h₁, he.1 ▸ h₂, he.2.symm⟩

/-- The induction over a run, once: what every step from a good event keeps, and what every
step's requests satisfy, hold along every run of good events. -/
theorem detailsRun_invariant (Q : DetailsProps → Effect → Prop)
    (hstep : ∀ m e m' fx, Good e → Inv m → detailsStep m e = some (m', fx) →
      Inv m' ∧ ∀ f ∈ fx, Q m.props f) :
    ∀ (es : List DetailsEvent) (m m' : DetailsMachine) (log : List (DetailsProps × Effect)),
      (∀ e ∈ es, Good e) → Inv m → detailsRun m es = some (m', log) →
        Inv m' ∧ ∀ p f, (p, f) ∈ log → Q p f
  | [], m, m', log, _, hm, h => by
    simp only [detailsRun, Option.some.injEq, Prod.mk.injEq] at h
    obtain ⟨rfl, rfl⟩ := h
    exact ⟨hm, by simp⟩
  | e :: es, m, m', log, hes, hm, h => by
    obtain ⟨m₁, fx, log', h₁, h₂, rfl⟩ := detailsRun_cons h
    obtain ⟨hm₁, hfx⟩ := hstep m e m₁ fx (hes e (List.mem_cons_self _ _)) hm h₁
    obtain ⟨hm', hlog⟩ := detailsRun_invariant Q hstep es m₁ m' log'
      (fun e' he' => hes e' (List.mem_cons_of_mem _ he')) hm₁ h₂
    refine ⟨hm', fun p f hpf => ?_⟩
    rcases List.mem_append.1 hpf with hpf | hpf
    · obtain ⟨f', hf', he⟩ := List.mem_map.1 hpf
      simp only [Prod.mk.injEq] at he
      exact he.1 ▸ he.2 ▸ hfx f' hf'
    · exact hlog p f hpf

end Run

/-! ## The gates -/

/-- What a step can do, said once: a render replaces the props, a click on the primary action
follows the action shown, and every other event changes one flag of the state. -/
theorem detailsStep_cases {m m' : DetailsMachine} {e : DetailsEvent} {fx : List Effect}
    (h : detailsStep m e = some (m', fx)) :
    (∃ p, e = .render p ∧ m' = ⟨p, m.state⟩ ∧ fx = []) ∨
    (e = .clickPrimaryAction ∧ m.action = some .changePlan ∧
      m' = ⟨m.props, { m.state with showChangePlanModal := true }⟩ ∧ fx = []) ∨
    (∃ id l, e = .clickPrimaryAction ∧ m.action = some (.uncancel id l) ∧
      m' = ⟨m.props, { m.state with uncancelPending := true }⟩ ∧ fx = [.uncancelSubscription id]) ∨
    (e = .clickUnsubscribe ∧ m.props.isCanceled = false ∧
      m' = ⟨m.props, { m.state with showCancelModal := true }⟩ ∧ fx = []) ∨
    (m'.props = m.props ∧
      (m'.state.showChangePlanModal = true → m.state.showChangePlanModal = true) ∧
      (m'.state.showCancelModal = true → m.state.showCancelModal = true) ∧
      ∀ f ∈ fx, ∀ id, f ≠ .uncancelSubscription id) := by
  cases e with
  | render p => exact .inl ⟨p, rfl, by simp_all [detailsStep]⟩
  | clickPrimaryAction =>
    simp only [detailsStep] at h
    split at h <;> simp only [Option.some.injEq, Prod.mk.injEq, reduceCtorEq] at h <;>
      obtain ⟨rfl, rfl⟩ := h
    · exact .inr (.inl ⟨rfl, ‹_›, rfl, rfl⟩)
    · exact .inr (.inr (.inl ⟨_, _, rfl, ‹_›, rfl, rfl⟩))
  | clickUnsubscribe =>
    simp only [detailsStep] at h
    split_ifs at h with hc
    simp only [Option.some.injEq, Prod.mk.injEq] at h
    obtain ⟨rfl, rfl⟩ := h
    exact .inr (.inr (.inr (.inl ⟨rfl, by simpa using hc, rfl, rfl⟩)))
  | hideChangePlanModal | hideCancelModal =>
    refine .inr (.inr (.inr (.inr ?_)))
    simp only [detailsStep, Option.some.injEq, Prod.mk.injEq] at h
    obtain ⟨rfl, rfl⟩ := h
    simp
  | uncancelResolved | uncancelFailed =>
    refine .inr (.inr (.inr (.inr ?_)))
    simp only [detailsStep] at h
    split_ifs at h
    simp only [Option.some.injEq, Prod.mk.injEq] at h
    obtain ⟨rfl, rfl⟩ := h
    simp

theorem detailsRun_changePlan {m m' : DetailsMachine} {es : List DetailsEvent}
    {log : List (DetailsProps × Effect)} (hm : m.props.offersChangePlan = false)
    (hclosed : m.state.showChangePlanModal = false)
    (hes : ∀ p, DetailsEvent.render p ∈ es → p.offersChangePlan = false)
    (h : detailsRun m es = some (m', log)) : m'.state.showChangePlanModal = false := by
  refine (detailsRun_invariant (fun e => ∀ p, e = .render p → p.offersChangePlan = false)
    (fun m => m.props.offersChangePlan = false ∧ m.state.showChangePlanModal = false)
    (fun _ _ => True) ?_ es m m' log (fun e he p hp => hes p (hp ▸ he)) ⟨hm, hclosed⟩ h).1.2
  rintro m e m' fx he ⟨hm, hclosed⟩ hs
  refine ⟨?_, fun _ _ => trivial⟩
  rcases detailsStep_cases hs with ⟨p, rfl, rfl, -⟩ | ⟨-, ha, -⟩ | ⟨id, l, -, -, rfl, -⟩ |
    ⟨-, -, rfl, -⟩ | ⟨hp, hcp, -, -⟩
  · exact ⟨he p rfl, hclosed⟩
  · simp only [DetailsProps.offersChangePlan, Bool.and_eq_false_iff, Bool.not_eq_false'] at hm
    have := (primaryAction_eq_changePlan_iff ..).1 ha
    cases hm <;> simp_all
  · exact ⟨hm, hclosed⟩
  · exact ⟨hm, hclosed⟩
  · exact ⟨hp ▸ hm, by simpa [hclosed] using hcp⟩

/-- The card of `pendingCancellation` in the canceled view at time `1000`, nothing open. -/
def pendingCancellationCard : DetailsMachine :=
  ⟨⟨pendingCancellation, true, 1000⟩, ⟨false, false, false⟩⟩

/-- Uncancel clicked, then resolved. -/
def uncancelEvents : List DetailsEvent := [.clickPrimaryAction, .uncancelResolved]

theorem detailsRun_changePlan_uncancel :
    pendingCancellationCard.state.showChangePlanModal = false :=
  @detailsRun_changePlan pendingCancellationCard pendingCancellationCard uncancelEvents
    [(pendingCancellationCard.props, .uncancelSubscription "sub"),
      (pendingCancellationCard.props, .revalidate "customer_portal")]
    rfl rfl (by simp [uncancelEvents]) rfl

theorem detailsRun_cancelModal {m m' : DetailsMachine} {es : List DetailsEvent}
    {log : List (DetailsProps × Effect)} (hm : m.props.isCanceled = true)
    (hclosed : m.state.showCancelModal = false)
    (hes : ∀ p, DetailsEvent.render p ∈ es → p.isCanceled = true)
    (h : detailsRun m es = some (m', log)) : m'.state.showCancelModal = false := by
  refine (detailsRun_invariant (fun e => ∀ p, e = .render p → p.isCanceled = true)
    (fun m => m.props.isCanceled = true ∧ m.state.showCancelModal = false)
    (fun _ _ => True) ?_ es m m' log (fun e he p hp => hes p (hp ▸ he)) ⟨hm, hclosed⟩ h).1.2
  rintro m e m' fx he ⟨hm, hclosed⟩ hs
  refine ⟨?_, fun _ _ => trivial⟩
  rcases detailsStep_cases hs with ⟨p, rfl, rfl, -⟩ | ⟨-, -, rfl, -⟩ | ⟨id, l, -, -, rfl, -⟩ |
    ⟨-, hc, -⟩ | ⟨hp, -, hcm, -⟩
  · exact ⟨he p rfl, hclosed⟩
  · exact ⟨hm, hclosed⟩
  · exact ⟨hm, hclosed⟩
  · simp_all
  · exact ⟨hp ▸ hm, by simpa [hclosed] using hcm⟩

theorem detailsRun_cancelModal_uncancel :
    pendingCancellationCard.state.showCancelModal = false :=
  @detailsRun_cancelModal pendingCancellationCard pendingCancellationCard uncancelEvents
    [(pendingCancellationCard.props, .uncancelSubscription "sub"),
      (pendingCancellationCard.props, .revalidate "customer_portal")]
    rfl rfl (by simp [uncancelEvents]) rfl

/-- Every uncancel request of a run is for the snapshot shown when it was made, and was made while
that snapshot was in the canceled view and set to end with a period end still ahead. -/
theorem detailsRun_uncancel {m m' : DetailsMachine} {es : List DetailsEvent}
    {log : List (DetailsProps × Effect)} (h : detailsRun m es = some (m', log)) :
    ∀ p id, (p, Effect.uncancelSubscription id) ∈ log →
      id = p.subscription.id ∧ p.isCanceled = true ∧ p.subscription.cancelAtPeriodEnd = true ∧
        ∃ t, p.subscription.currentPeriodEnd = some t ∧ p.now < t := by
  have hlog := (detailsRun_invariant (fun _ => True) (fun _ => True)
    (fun p f => ∀ id, f = .uncancelSubscription id →
      id = p.subscription.id ∧ p.isCanceled = true ∧ p.subscription.cancelAtPeriodEnd = true ∧
        ∃ t, p.subscription.currentPeriodEnd = some t ∧ p.now < t)
    ?_ es m m' log (fun _ _ => trivial) trivial h).2
  · exact fun p id hp => hlog p _ hp id rfl
  rintro m e m' fx - - hs
  refine ⟨trivial, fun f hf id hid => ?_⟩
  rcases detailsStep_cases hs with ⟨-, -, -, rfl⟩ | ⟨-, -, -, rfl⟩ | ⟨id', l, -, ha, -, rfl⟩ |
    ⟨-, -, -, rfl⟩ | ⟨-, -, -, hfx⟩
  · simp at hf
  · simp at hf
  · obtain ⟨rfl, -, hc, hcancel, hp⟩ := primaryAction_eq_uncancel ha
    simp only [List.mem_singleton] at hf
    subst hf
    cases hid
    exact ⟨rfl, hc, hcancel, (periodEndsAfter_iff _ _).1 hp⟩
  · simp at hf
  · exact absurd hid (hfx f hf id)

theorem detailsRun_uncancel_pendingCancellation :
    let p := pendingCancellationCard.props
    "sub" = p.subscription.id ∧ p.isCanceled = true ∧ p.subscription.cancelAtPeriodEnd = true ∧
      ∃ t, p.subscription.currentPeriodEnd = some t ∧ p.now < t :=
  @detailsRun_uncancel pendingCancellationCard pendingCancellationCard uncancelEvents
    [(pendingCancellationCard.props, .uncancelSubscription "sub"),
      (pendingCancellationCard.props, .revalidate "customer_portal")]
    rfl pendingCancellationCard.props "sub" (List.mem_cons_self _ _)

/-- While the parent renders the card with the same snapshot and view, and never at a time before
the start, the card ends a run offering Uncancel only if it offered it at the start: once the
period end has passed, Uncancel does not come back, whatever is clicked. -/
theorem detailsRun_uncancel_expired {m m' : DetailsMachine} {es : List DetailsEvent}
    {log : List (DetailsProps × Effect)}
    (hes : ∀ p, DetailsEvent.render p ∈ es → p.subscription = m.props.subscription ∧
      p.isCanceled = m.props.isCanceled ∧ m.props.now ≤ p.now)
    (h : detailsRun m es = some (m', log)) {id : String} {loading : Bool}
    (ha : m'.action = some (.uncancel id loading)) :
    m.action = some (.uncancel id m.state.uncancelPending) := by
  have hinv := (detailsRun_invariant
    (fun e => ∀ p, e = .render p → p.subscription = m.props.subscription ∧
      p.isCanceled = m.props.isCanceled ∧ m.props.now ≤ p.now)
    (fun m₁ => m₁.props.subscription = m.props.subscription ∧
      m₁.props.isCanceled = m.props.isCanceled ∧ m.props.now ≤ m₁.props.now)
    (fun _ _ => True) ?_ es m m' log (fun e he p hp => hes p (hp ▸ he)) ⟨rfl, rfl, le_rfl⟩ h).1
  · obtain ⟨hs, hc, hle⟩ := hinv
    simp only [DetailsMachine.action, hs, hc] at ha
    exact primaryAction_uncancel_of_le ha hle _
  rintro m₁ e m₂ fx he hm₁ hs
  refine ⟨?_, fun _ _ => trivial⟩
  rcases detailsStep_cases hs with ⟨p, rfl, rfl, -⟩ | ⟨-, -, rfl, -⟩ | ⟨id, l, -, -, rfl, -⟩ |
    ⟨-, -, rfl, -⟩ | ⟨hp, -⟩
  · exact he p rfl
  · exact hm₁
  · exact hm₁
  · exact hm₁
  · exact hp ▸ hm₁

theorem detailsRun_uncancel_expired_later :
    pendingCancellationCard.action =
      some (.uncancel "sub" pendingCancellationCard.state.uncancelPending) :=
  @detailsRun_uncancel_expired pendingCancellationCard
    ⟨⟨pendingCancellation, true, 1500⟩, ⟨false, false, false⟩⟩
    (.render ⟨pendingCancellation, true, 1500⟩ :: uncancelEvents)
    [(⟨pendingCancellation, true, 1500⟩, .uncancelSubscription "sub"),
      (⟨pendingCancellation, true, 1500⟩, .revalidate "customer_portal")]
    (by simp [uncancelEvents, pendingCancellationCard]) rfl "sub" false rfl

end PolarPortal
