/-
The settings of the program.

* `Settings.standard`: the settings of a program that is told nothing;
* `Settings.ofEnvironment`: the same with what the environment says; a number that cannot be read is
  passed over;
* `Settings.fault?`: the first reason, in a fixed order, for which settings are refused.
-/
import Teller.Bank.Basic

namespace Teller

/-- The settings of the program. Times are in milliseconds. -/
structure Settings where
  databaseUrl : String
  maxConnections : Nat
  acquireTimeout : Nat
  thresholds : Thresholds
  ttl : Nat
  retry : RetryPolicy
  interval : Nat
  batchSize : Nat
  topic : String
  logLevel : String
  deriving DecidableEq

/-- Why settings are refused. -/
inductive SettingsError where
  | noDatabaseUrl
  | noConnections
  | threshold
  | noTtl
  | noAttempts
  | noInterval
  | noTopic
  deriving DecidableEq

/-- The wording of a refusal. -/
def SettingsError.message : SettingsError → String
  | noDatabaseUrl => "Database URL cannot be empty"
  | noConnections => "Database pool needs at least one connection"
  | threshold => "Notification thresholds must be positive"
  | noTtl => "Rate cache TTL cannot be zero"
  | noAttempts => "Rate client needs at least one attempt"
  | noInterval => "Publisher interval and batch size must be non-zero"
  | noTopic => "Publisher topic cannot be empty"

namespace Settings

/-- The topic of notifications. -/
def standardTopic : String := "wallet.notifications"

/-- The interval of the publisher. -/
def standardInterval : Nat := 5000

/-- The size of the publisher's batches. -/
def standardBatchSize : Nat := 10

/-- The settings of a program that is told nothing. -/
def standard : Settings where
  databaseUrl := "postgres://localhost/wallet"
  maxConnections := 10
  acquireTimeout := 5000
  thresholds := .standard
  ttl := RateCache.standardTtl
  retry := .standard
  interval := standardInterval
  batchSize := standardBatchSize
  topic := standardTopic
  logLevel := "info"

/-- Counts are numbers of 32 bits. -/
def countLimit : Nat := 2 ^ 32

/-- Times and sizes are numbers of 64 bits. -/
def sizeLimit : Nat := 2 ^ 64

/-- The settings with what the environment says. -/
def ofEnvironment (env : String → Option String) : Settings :=
  let number (name : String) (limit standard : Nat) : Nat :=
    ((env name).bind (Text.unsigned? limit)).getD standard
  { standard with
    databaseUrl := (env "DATABASE_URL").getD standard.databaseUrl
    maxConnections := number "DATABASE_MAX_CONNECTIONS" countLimit standard.maxConnections
    ttl := number "RATE_CACHE_TTL_MS" sizeLimit standard.ttl
    retry := { standard.retry with
      maxAttempts := number "RATE_CLIENT_MAX_ATTEMPTS" countLimit standard.retry.maxAttempts
      attemptTimeout := number "RATE_CLIENT_TIMEOUT_MS" sizeLimit standard.retry.attemptTimeout }
    interval := number "OUTBOX_INTERVAL_MS" sizeLimit standard.interval
    batchSize := number "OUTBOX_BATCH_SIZE" sizeLimit standard.batchSize
    topic := (env "OUTBOX_TOPIC").getD standard.topic
    logLevel := (env "LOG_LEVEL").getD standard.logLevel }

/-- The first reason for which settings are refused. -/
def fault? (s : Settings) : Option SettingsError :=
  if s.databaseUrl.isEmpty then some .noDatabaseUrl
  else if s.maxConnections = 0 then some .noConnections
  else if s.thresholds.deposit ≤ Decimal.zero ∨ s.thresholds.exchange ≤ Decimal.zero then
    some .threshold
  else if s.ttl = 0 then some .noTtl
  else if s.retry.maxAttempts = 0 then some .noAttempts
  else if s.interval = 0 ∨ s.batchSize = 0 then some .noInterval
  else if s.topic.isEmpty then some .noTopic
  else none

end Settings

end Teller
