import PolarPortal.Schema
import PolarPortal.Binary64
import PolarPortal.CustomerPortal.CurrentPeriodOverview
import PolarPortal.CustomerPortal.Estimate
import PolarPortal.CustomerPortal.CustomerPortalOrder
import PolarPortal.Subscriptions.CustomerSubscriptionDetails
import PolarPortal.Subscriptions.Resolver
import PolarPortal.Accounts.AccountsList
import PolarPortal.Meter.MeterForm
import PolarPortal.Login.FormUrlencoded
import PolarPortal.Login.MagicLinkAuthenticate
import PolarPortal.Subscriptions.DetailsMachine
