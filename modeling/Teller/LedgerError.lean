/-
Why an operation of the ledger fails.

* `LedgerError`: the causes; `StoreTrouble` and `Refusal` say more about two of them;
* `LedgerError.message`: the wording of each;
* `LedgerError.root`: the cause under any number of failed rollbacks, from which the error code and
  the two questions "is it worth another try?" and "is it part of normal business?" are answered.
-/
import Teller.Currency
import Teller.Decimal.Text
import Teller.Identifier
import Teller.Operation
import Teller.Text.Quoted

namespace Teller

/-- A step of a transaction at which a fault can be injected. -/
inductive FaultPoint where
  | begin
  | appendRecord
  | enqueueEvent
  | commit
  | rollback
  deriving DecidableEq

/-- The wording of an injected fault. -/
def FaultPoint.message : FaultPoint → String
  | begin => "injected begin failure"
  | appendRecord => "injected audit insert failure"
  | enqueueEvent => "injected outbox insert failure"
  | commit => "injected commit failure"
  | rollback => "injected rollback failure"

/-- Why the store cannot be used. -/
inductive StoreTrouble where
  /-- A fault was injected at this step. -/
  | injected (point : FaultPoint)
  /-- Another transaction kept the row of a wallet for too long. -/
  | rowWait (account : AccountId) (currency : Currency)
  /-- The connections were closed before this method was called. -/
  | closed (method : String)
  /-- The tables could not be set up because the connections were closed. -/
  | setUp
  /-- The address of the store was refused. -/
  | address
  /-- Anything else. -/
  | other (reason : String)
  deriving DecidableEq

/-- The wording of a trouble with the store. -/
def StoreTrouble.message : StoreTrouble → String
  | injected point => point.message
  | rowWait account currency => s!"lock wait timeout on wallet {account}/{currency}"
  | closed method => s!"connection pool closed in {method}"
  | setUp =>
    "migration failed: while executing migrations: " ++
      "attempted to acquire a connection on a closed pool"
  | address => "sqlx error in connect: error with configuration: "
  | other reason => reason

/-- Why a request is refused as it stands. -/
inductive Refusal where
  | unknownCurrency (name : String)
  | unknownDirection (name : String)
  | unknownKind (name : String)
  /-- An amount of zero or less. -/
  | notPositive (amount : Decimal)
  /-- An amount above the largest, which comes first. -/
  | tooLarge (limit amount : Decimal)
  /-- An amount with more digits than the currency has. -/
  | tooPrecise (currency : Currency) (amount : Decimal)
  /-- A quote for a pair was applied to another currency. -/
  | wrongSource (pair : CurrencyPair) (currency : Currency)
  /-- A converted amount is out of the range of numbers. -/
  | conversionOverflow (amount : Decimal) (source : Currency) (rate : Decimal) (target : Currency)
  /-- A converted amount is zero after rounding. -/
  | convertsToNothing (amount : Decimal) (source : Currency) (rate : Decimal) (target : Currency)
  /-- An exchange of a currency into itself. -/
  | sameCurrency (currency : Currency)
  /-- A rate of a currency into itself. -/
  | noOwnRate (currency : Currency)
  /-- A balance would leave its range. -/
  | balanceRange (currency : Currency) (balance : Decimal) (direction : Direction)
      (amount : Decimal)
  /-- Anything else. -/
  | other (reason : String)
  deriving DecidableEq

/-- The wording of a refusal. -/
def Refusal.message : Refusal → String
  | unknownCurrency name => "unsupported currency: " ++ Text.quoted name
  | unknownDirection name => "unknown direction: " ++ Text.quoted name
  | unknownKind name => "unknown operation kind: " ++ Text.quoted name
  | notPositive amount => s!"amount must be positive, got {amount}"
  | tooLarge limit amount => s!"amount exceeds the maximum of {limit}, got {amount}"
  | tooPrecise currency amount =>
    s!"{currency} amounts allow at most {currency.decimalPlaces} decimal places, got {amount}"
  | wrongSource pair currency => s!"quote for {pair} cannot convert {currency}"
  | conversionOverflow amount source rate target =>
    s!"{amount} {source} at rate {rate} overflows {target}"
  | convertsToNothing amount source rate target =>
    s!"{amount} {source} converts to zero {target} at rate {rate}"
  | sameCurrency currency => s!"cannot exchange {currency} into itself"
  | noOwnRate currency => s!"no rate for {currency} into itself"
  | balanceRange currency balance direction amount =>
    s!"{currency} balance {balance} cannot take a {direction} of {amount}"
  | other reason => reason

/-- Why an operation fails. -/
inductive LedgerError where
  | insufficientFunds (currency : Currency) (requested : Decimal)
  | rateUnavailable (reason : String)
  | storeUnavailable (trouble : StoreTrouble)
  | validation (refusal : Refusal)
  | notificationEnqueueFailed (reason : String)
  | walletNotFound (account : AccountId) (currency : Currency)
  | accountNotFound (account : AccountId)
  | walletsAlreadyProvisioned (account : AccountId)
  | deadlineExceeded
  /-- The operation failed, and so did the rollback after it. -/
  | rollbackFailed (error rollback : LedgerError)
  deriving DecidableEq

namespace LedgerError

/-- The wording of an error. -/
def message : LedgerError → String
  | insufficientFunds currency requested => s!"Insufficient funds: {requested} {currency} requested"
  | rateUnavailable reason => "Exchange rate unavailable: " ++ reason
  | storeUnavailable trouble => "Store unavailable: " ++ trouble.message
  | validation refusal => "Validation failed: " ++ refusal.message
  | notificationEnqueueFailed reason => "Notification enqueue failed: " ++ reason
  | walletNotFound account currency => s!"Wallet not found: account {account}, currency {currency}"
  | accountNotFound account => s!"Account not found: {account}"
  | walletsAlreadyProvisioned account => s!"Wallets already provisioned for account {account}"
  | deadlineExceeded => "Deadline exceeded"
  | rollbackFailed error rollback => error.message ++ "; rollback also failed: " ++ rollback.message

/-- The error after a rollback that failed too, which never hides the first cause. -/
def withRollbackFailure (error rollback : LedgerError) : LedgerError :=
  rollbackFailed error rollback

/-- The cause under all failed rollbacks. -/
def root : LedgerError → LedgerError
  | rollbackFailed error _ => error.root
  | error => error

/-- The code by which callers tell errors apart. -/
def code : LedgerError → String
  | insufficientFunds .. => "INSUFFICIENT_FUNDS"
  | rateUnavailable .. => "RATE_UNAVAILABLE"
  | storeUnavailable .. => "STORE_UNAVAILABLE"
  | validation .. => "VALIDATION_ERROR"
  | notificationEnqueueFailed .. => "NOTIFICATION_ENQUEUE_FAILED"
  | walletNotFound .. => "WALLET_NOT_FOUND"
  | accountNotFound .. => "ACCOUNT_NOT_FOUND"
  | walletsAlreadyProvisioned .. => "WALLETS_ALREADY_PROVISIONED"
  | deadlineExceeded => "DEADLINE_EXCEEDED"
  | rollbackFailed error _ => error.code

/-- May the same call succeed later, without a change to it? -/
def isRetryable : LedgerError → Bool
  | rateUnavailable .. => true
  | storeUnavailable .. => true
  | deadlineExceeded => true
  | rollbackFailed error _ => error.isRetryable
  | _ => false

/-- Is the error an answer to the caller, and no trouble of the ledger? -/
def isExpected (e : LedgerError) : Bool :=
  match e.root with
  | insufficientFunds .. => true
  | validation .. => true
  | _ => false

end LedgerError

end Teller
