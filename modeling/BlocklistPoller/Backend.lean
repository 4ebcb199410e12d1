import Mathlib.Logic.Function.Basic
import Mathlib.Data.BitVec

/-!
# The store facade and the poller's data

The poller of `tempodb/blocklist/poller.go` reads the object store through
`backend.Reader` and `backend.Compactor` and writes through `backend.Writer`.
This file fixes the data those interfaces exchange, and one snapshot of what each
read returns. The store's code is not under `src/`: its operations are arbitrary
functions here, constrained only where a theorem says so.
-/

namespace BlocklistPoller

/-- Results of the backend compare by constructor and payload, so that fixed runs of
the model can be checked by evaluation. -/
instance decEqExcept {ε α : Type} [DecidableEq ε] [DecidableEq α] : DecidableEq (Except ε α)
  | .error a, .error b => decidable_of_iff (a = b) (by simp)
  | .ok a, .ok b => decidable_of_iff (a = b) (by simp)
  | .error _, .ok _ => isFalse (by simp)
  | .ok _, .error _ => isFalse (by simp)

@[simp] theorem toBool_ok {ε α : Type} (a : α) : (Except.ok a : Except ε α).toBool = true := rfl

@[simp] theorem toBool_error {ε α : Type} (e : ε) : (Except.error e : Except ε α).toBool = false :=
  rfl

/-- A block id, `uuid.UUID`: sixteen bytes. `backend.UUID` holds the same bytes. -/
abbrev UUID := BitVec 128

/-- A tenant id, the string the store uses as the tenant's key prefix. -/
abbrev TenantID := String

/-- A Go `error` as the poller observes it: its text, and whether
`errors.Is(err, backend.ErrDoesNotExist)` holds of it. -/
structure Error where
  /-- What `err.Error()` returns. -/
  msg : String
  /-- Whether `errors.Is(err, backend.ErrDoesNotExist)` holds. -/
  isDoesNotExist : Bool
  deriving DecidableEq, Repr

namespace Error

/-- Modelled from the spec: `backend.ErrDoesNotExist`, what a read of an absent
object fails with. -/
def doesNotExist : Error := ⟨"does not exist", true⟩

/-- `fmt.Errorf(msg + ": %w", err)`: the text is prefixed and `errors.Is` sees
through the wrapper. -/
def wrap (msg : String) (err : Error) : Error := ⟨msg ++ ": " ++ err.msg, err.isDoesNotExist⟩

/-- `errors.New(msg)`, or `fmt.Errorf` without `%w`. -/
def new (msg : String) : Error := ⟨msg, false⟩

/-- `errors.Join(errs...)`: the texts on separate lines; `errors.Is` holds when it
holds of one of them. -/
def join (errs : List Error) : Error :=
  ⟨"\n".intercalate (errs.map Error.msg), errs.any Error.isDoesNotExist⟩

/-- `context.Canceled`, what `parentCtx.Err()` returns once the context is cancelled. -/
def canceled : Error := ⟨"context canceled", false⟩

end Error

/-- `errors.Is(err, backend.ErrDoesNotExist)` for an error that may be `nil`. -/
def isDoesNotExist : Option Error → Bool
  | some e => e.isDoesNotExist
  | none => false

/-- The fields of `backend.BlockMeta` the poller reads: the id it keys metas by, and
the object count (`int32`) and byte size (`uint64`) the cycle's gauges sum. -/
structure BlockMeta where
  blockID : UUID
  totalObjects : Int
  size : Nat
  deriving DecidableEq, Repr

/-- `backend.CompactedBlockMeta`: a `BlockMeta` with the time it was compacted. -/
structure CompactedBlockMeta extends BlockMeta where
  compactedTime : Int
  deriving DecidableEq, Repr

/-- `backend.TenantIndex`, the snapshot a builder writes for a tenant. Times are
nanoseconds. -/
structure TenantIndex where
  createdAt : Int
  meta : List BlockMeta
  compactedMeta : List CompactedBlockMeta
  deriving DecidableEq, Repr

/-- `t.Sub(u)` for wall-clock times in nanoseconds, which is what `time.Since(u)` computes
at the reading `t`: the difference, saturated to the range of `time.Duration` (`int64`
nanoseconds) as `Time.Sub` does when it overflows. -/
def timeSub (t u : Int) : Int := max (-2 ^ 63) (min (2 ^ 63 - 1) (t - u))

/-- A later reading adds at most the time between the readings. -/
theorem timeSub_le_add {t t' u : Int} (h : t ≤ t') : timeSub t' u ≤ timeSub t u + (t' - t) := by
  unfold timeSub
  omega

/-- A `Duration` is at most `2 ^ 63` nanoseconds either way. -/
theorem natAbs_timeSub_le (t u : Int) : (timeSub t u).natAbs ≤ 2 ^ 63 := by
  unfold timeSub
  omega

/-- `backend.KeyPath`, the directories above an object. -/
abbrev KeyPath := List String

/-- `backend.FindMatch`: an object's key and its modification time. -/
structure FindMatch where
  key : String
  modified : Int
  deriving DecidableEq, Repr

/-- One snapshot of the reads of `backend.Reader`: each field is what the method
returns for its arguments. -/
structure Reader where
  tenants : Except Error (List TenantID)
  blocks : TenantID → Except Error (List UUID × List UUID)
  blockMeta : UUID → TenantID → Except Error BlockMeta
  tenantIndex : TenantID → Except Error TenantIndex
  hasNoCompactFlag : UUID → TenantID → Except Error Bool
  /-- `Find(ctx, keypath, f)`: the matches handed to `f`, in order, and the error
  it returns. -/
  find : KeyPath → List FindMatch × Option Error

/-- `backend.Compactor`, of which the poller only reads compacted metas. -/
structure Compactor where
  compactedBlockMeta : UUID → TenantID → Except Error CompactedBlockMeta

/-- What the two writes of `backend.Writer` the poller makes return. -/
structure Writer where
  writeTenantIndex : TenantID → List BlockMeta → List CompactedBlockMeta → Option Error
  delete : String → KeyPath → Option Error

/-- A write the poller issues, in the order it issues them. -/
inductive WriterCall where
  | writeTenantIndex (tenantID : TenantID) (metas : List BlockMeta)
      (compactedMetas : List CompactedBlockMeta)
  | delete (name : String) (keypath : KeyPath)
  deriving DecidableEq, Repr

/-- `JobSharder`: whether this process owns a job, named by a string. -/
structure JobSharder where
  owns : String → Bool

/-- `OwnsNothingSharder` owns nothing. -/
def ownsNothingSharder : JobSharder := ⟨fun _ => false⟩

/-- `PollerConfig`, with durations in nanoseconds and Go's `int` and `uint` as
`Int` and `Nat`. -/
structure PollerConfig where
  pollConcurrency : Nat
  tenantPollConcurrency : Nat
  pollFallback : Bool
  tenantIndexBuilders : Int
  staleTenantIndex : Int
  tolerateConsecutiveErrors : Int
  tolerateTenantFailures : Int
  emptyTenantDeletionAge : Int
  emptyTenantDeletionEnabled : Bool
  skipNoCompactBlocks : Bool

/-- `Poller`: the store handles, the configuration and the sharder. -/
structure Poller where
  reader : Reader
  writer : Writer
  compactor : Compactor
  cfg : PollerConfig
  sharder : JobSharder

/-- `PerTenant`, live metas by tenant. -/
abbrev PerTenant := TenantID → Option (List BlockMeta)

/-- `PerTenantCompacted`, compacted metas by tenant. -/
abbrev PerTenantCompacted := TenantID → Option (List CompactedBlockMeta)

/-- Modelled from the spec: `blocklist.List` (its file is not under `src/`), the
published snapshot the poller is handed as `previous`. -/
structure Blocklist where
  metas : PerTenant
  compactedMetas : PerTenantCompacted

namespace Blocklist

/-- Modelled from the spec: `List.Metas`, a tenant's live metas, empty when absent. -/
def Metas (l : Blocklist) (tenantID : TenantID) : List BlockMeta :=
  (l.metas tenantID).getD []

/-- Modelled from the spec: `List.CompactedMetas`, a tenant's compacted metas. -/
def CompactedMetas (l : Blocklist) (tenantID : TenantID) : List CompactedBlockMeta :=
  (l.compactedMetas tenantID).getD []

/-- The list with no tenant, the `previous` of a poller's first cycle. -/
def empty : Blocklist := ⟨fun _ => none, fun _ => none⟩

@[simp] theorem empty_Metas (tenantID : TenantID) : empty.Metas tenantID = [] := rfl

@[simp] theorem empty_CompactedMetas (tenantID : TenantID) :
    empty.CompactedMetas tenantID = [] := rfl

end Blocklist

end BlocklistPoller
