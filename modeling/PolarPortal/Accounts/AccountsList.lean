import PolarPortal.Schema

/-!
# `AccountsList`

The table of payout accounts: one row per account, in the given order, keyed by the account's
`id`.  A row shows the account's type and status through two display-name tables, which live
outside this slice of the repository and are parameters here, and at most one action:
Continue setup for an account that is neither active nor under review, Open dashboard for an
active one.  Each action asks the API for a link for the row's own account and redirects to it.
-/

namespace PolarPortal

/-- The fields of an account that a row reads. -/
structure Account where
  id : String
  accountType : String
  status : String
  deriving DecidableEq, Repr

/-- A `POST` to the API for a link; the client redirects to the `url` it returns. -/
structure LinkRequest where
  path : String
  id : String
  query : List (String × String)
  deriving DecidableEq, Repr

/-- The request `goToOnboarding` makes. -/
def goToOnboarding (account : Account) (returnPath : String) : LinkRequest :=
  ⟨"/v1/accounts/{id}/onboarding_link", account.id, [("return_path", returnPath)]⟩

/-- The request `goToDashboard` makes. -/
def goToDashboard (account : Account) : LinkRequest :=
  ⟨"/v1/accounts/{id}/dashboard_link", account.id, []⟩

/-- A button of a row. -/
inductive AccountAction
  | continueSetup (disabled : Bool) (onClick : LinkRequest)
  | openDashboard (onClick : LinkRequest)
  deriving DecidableEq, Repr

/-- The request a button's click sends. -/
def AccountAction.onClick : AccountAction → LinkRequest
  | continueSetup _ r => r
  | openDashboard r => r

/-- What `AccountListItem` renders. -/
structure AccountRow where
  key : String
  typeName : String
  statusName : String
  actions : List AccountAction
  deriving DecidableEq, Repr

section

variable (typeNames statusNames : String → String)

/-- The row `AccountListItem` renders.  `pauseActions` is the optional prop, `true` only when
given as `true`. -/
def accountListItem (account : Account) (returnPath : String) (pauseActions : Option Bool) :
    AccountRow :=
  let pauseActions := pauseActions == some true
  let isActive := account.status == "active"
  let isUnderReview := account.status == "under_review"
  { key := account.id
    typeName := typeNames account.accountType
    statusName := statusNames account.status
    actions :=
      (if !isActive && !isUnderReview then
        [.continueSetup pauseActions (goToOnboarding account returnPath)] else []) ++
      (if isActive then [.openDashboard (goToDashboard account)] else []) }

/-- The table `AccountsList` renders: the rows of the table body. -/
def accountsList (accounts : List Account) (returnPath : String) (pauseActions : Option Bool) :
    List AccountRow :=
  accounts.map fun account => accountListItem typeNames statusNames account returnPath pauseActions

@[simp] theorem accountListItem_key (account : Account) (returnPath : String)
    (pauseActions : Option Bool) :
    (accountListItem typeNames statusNames account returnPath pauseActions).key = account.id :=
  rfl

/-- Every button of the table asks for a link for the account of its own row. -/
theorem accountsList_onClick_id (accounts : List Account) (returnPath : String)
    (pauseActions : Option Bool) :
    ∀ row ∈ accountsList typeNames statusNames accounts returnPath pauseActions,
      ∀ a ∈ row.actions, a.onClick.id = row.key := by
  simp only [accountsList, List.mem_map]
  rintro _ ⟨account, -, rfl⟩ a ha
  simp only [accountListItem, List.mem_append] at ha
  split_ifs at ha <;> simp_all [AccountAction.onClick, goToOnboarding, goToDashboard]

end

theorem accountsList_onClick_id_active :
    (AccountAction.openDashboard (goToDashboard ⟨"acc", "stripe", "active"⟩)).onClick.id =
      (accountListItem id id ⟨"acc", "stripe", "active"⟩ "/finance" none).key :=
  accountsList_onClick_id id id [⟨"acc", "stripe", "active"⟩] "/finance" none _
    (List.mem_singleton_self _) _ (by simp [accountListItem])

end PolarPortal
