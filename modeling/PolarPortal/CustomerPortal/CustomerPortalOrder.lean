import PolarPortal.Schema

/-!
# `CustomerPortalOrder`

The customer's page for one order: the product, the total, the purchase date, the Download
Invoice button, and the order's benefit grants.  The grants come from a query for the order's
own id; while it has not loaded, or when it returned none, the page says that the product has
no benefit grants.

Download Invoice runs `openInvoice`, which asks the invoice mutation for the shown order's
invoice and opens the returned `url` in a new tab; the button is disabled while the mutation is
pending.  `orderStep` is one event of the page over time, and `orderRun_balance` the run lemma:
the requests made and the requests in flight at the start are the results returned and the
requests in flight at the end, so the page never has two invoice requests in flight.
-/

namespace PolarPortal

/-- The fields of a customer order that the page reads. -/
structure CustomerOrder where
  id : String
  productName : String
  totalAmount : Int
  currency : String
  createdAt : Timestamp
  deriving DecidableEq, Repr

/-- The parameters of `useCustomerBenefitGrants`. -/
structure BenefitGrantsQuery where
  orderId : String
  limit : Nat
  sorting : List String
  deriving DecidableEq, Repr

/-- The query the page makes for its grants. -/
def benefitGrantsQuery (order : CustomerOrder) : BenefitGrantsQuery :=
  ⟨order.id, 100, ["type"]⟩

/-- What `CustomerPortalOrder` renders.  `total` is `formatCurrencyAndAmount`'s amount and
currency, `invoicePending` both the loading and the disabled state of Download Invoice, and
`benefitGrants = none` the text "This product has no benefit grants". -/
structure OrderView where
  productName : String
  total : Int × String
  purchasedOn : Timestamp
  invoicePending : Bool
  benefitGrants : Option (List String)
  deriving DecidableEq, Repr

/-- The view `CustomerPortalOrder` renders, given the ids of the loaded grants (`none` while
loading) and the state of the invoice mutation. -/
def customerPortalOrder (order : CustomerOrder) (benefitGrants : Option (List String))
    (invoicePending : Bool) : OrderView where
  productName := order.productName
  total := (order.totalAmount, order.currency)
  purchasedOn := order.createdAt
  invoicePending := invoicePending
  benefitGrants :=
    if ((benefitGrants.map List.length).getD 0) > 0 then benefitGrants else none

/-! ## Download Invoice over time -/

/-- A request the page makes: the invoice mutation for an order, or `window.open` of a URL in a
new tab. -/
inductive InvoiceEffect
  | orderInvoice (id : String)
  | openInNewTab (url : String)
  deriving DecidableEq, Repr

/-- Whether the request asks the API for an invoice. -/
def InvoiceEffect.isRequest : InvoiceEffect → Bool
  | orderInvoice _ => true
  | openInNewTab _ => false

/-- What can happen to the page: its parent renders it with an order, the customer clicks
Download Invoice, or the invoice mutation returns the invoice's `url` or fails. -/
inductive OrderEvent
  | render (order : CustomerOrder)
  | clickDownloadInvoice
  | invoiceResolved (url : String)
  | invoiceFailed
  deriving DecidableEq, Repr

/-- Whether the event is a result of the invoice mutation. -/
def OrderEvent.isInvoiceResult : OrderEvent → Bool
  | invoiceResolved _ | invoiceFailed => true
  | render _ | clickDownloadInvoice => false

/-- The page between events: the order shown, and the invoice mutation's `isPending`, which is the
view's `invoicePending`. -/
structure OrderPage where
  order : CustomerOrder
  invoicePending : Bool
  deriving DecidableEq, Repr

/-- One event: the page after it and its requests.  `openInvoice` asks for the invoice of the order
shown at the click and, once the mutation returns, opens the `url` it returned; a failed mutation
opens nothing.  `none` is an event that cannot happen: a click while Download Invoice is disabled,
or a result with no mutation in flight. -/
def orderStep (p : OrderPage) : OrderEvent → Option (OrderPage × List InvoiceEffect)
  | .render order => some (⟨order, p.invoicePending⟩, [])
  | .clickDownloadInvoice =>
    if p.invoicePending then none else some (⟨p.order, true⟩, [.orderInvoice p.order.id])
  | .invoiceResolved url =>
    if p.invoicePending then some (⟨p.order, false⟩, [.openInNewTab url]) else none
  | .invoiceFailed => if p.invoicePending then some (⟨p.order, false⟩, []) else none

/-- A run of events from `p`: the page at the end and every request, in order; `none` when one of
the events cannot happen. -/
def orderRun : OrderPage → List OrderEvent → Option (OrderPage × List InvoiceEffect)
  | p, [] => some (p, [])
  | p, e :: es => (orderStep p e).bind fun r =>
      (orderRun r.1 es).map fun r' => (r'.1, r.2 ++ r'.2)

/-- One step keeps the balance: a click makes one request and sets the mutation pending, a result
clears it, and nothing else touches either. -/
theorem orderStep_balance {p p' : OrderPage} {e : OrderEvent} {fx : List InvoiceEffect}
    (h : orderStep p e = some (p', fx)) :
    fx.countP InvoiceEffect.isRequest + p.invoicePending.toNat =
      (if e.isInvoiceResult then 1 else 0) + p'.invoicePending.toNat := by
  cases e with
  | render order =>
    cases h
    simp [OrderEvent.isInvoiceResult]
  | clickDownloadInvoice | invoiceResolved | invoiceFailed =>
    simp only [orderStep] at h
    split_ifs at h with hp
    cases h
    simp [hp, OrderEvent.isInvoiceResult, InvoiceEffect.isRequest]

/-- The run lemma: the requests a run makes, with the one in flight at its start, are the results
it receives, with the one in flight at its end. -/
theorem orderRun_balance {p p' : OrderPage} {es : List OrderEvent} {log : List InvoiceEffect}
    (h : orderRun p es = some (p', log)) :
    log.countP InvoiceEffect.isRequest + p.invoicePending.toNat =
      es.countP OrderEvent.isInvoiceResult + p'.invoicePending.toNat := by
  induction es generalizing p log with
  | nil =>
    cases h
    simp
  | cons e es ih =>
    simp only [orderRun, Option.bind_eq_some, Option.map_eq_some', Prod.mk.injEq] at h
    obtain ⟨⟨p₁, fx⟩, h₁, ⟨p₂, log'⟩, h₂, rfl, rfl⟩ := h
    have hstep := orderStep_balance h₁
    have hrun := ih h₂
    dsimp only at hrun ⊢
    rw [List.countP_append, List.countP_cons]
    omega

/-- From a page with no invoice request in flight, every run has made as many invoice requests as
the mutation returned results, or one more, and it ends with Download Invoice disabled exactly in
the second case: the page never has two invoice requests in flight. -/
theorem orderRun_invoiceInFlight {p p' : OrderPage} {es : List OrderEvent}
    {log : List InvoiceEffect} (hp : p.invoicePending = false)
    (h : orderRun p es = some (p', log)) :
    log.countP InvoiceEffect.isRequest =
      es.countP OrderEvent.isInvoiceResult + if p'.invoicePending then 1 else 0 := by
  have := orderRun_balance h
  cases hp' : p'.invoicePending <;> simp_all

/-- An order with its invoice. -/
def annualOrder : CustomerOrder := ⟨"ord", "Pro", 12000, "usd", 0⟩

theorem orderRun_invoiceInFlight_twice :
    [InvoiceEffect.orderInvoice "ord", .openInNewTab "https://invoice", .orderInvoice "ord"].countP
        InvoiceEffect.isRequest =
      [OrderEvent.clickDownloadInvoice, .invoiceResolved "https://invoice",
        .clickDownloadInvoice].countP OrderEvent.isInvoiceResult + if true then 1 else 0 :=
  @orderRun_invoiceInFlight ⟨annualOrder, false⟩ ⟨annualOrder, true⟩
    [.clickDownloadInvoice, .invoiceResolved "https://invoice", .clickDownloadInvoice]
    [.orderInvoice "ord", .openInNewTab "https://invoice", .orderInvoice "ord"] rfl rfl

end PolarPortal
