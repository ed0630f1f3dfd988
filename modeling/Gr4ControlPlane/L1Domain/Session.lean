import Gr4ControlPlane.Core.Bytes
import Mathlib.Algebra.Group.Nat.Defs

/-!
# Sessions and their managed streams: the records of the domain layer

include/gr4cp/domain/session.hpp and include/gr4cp/domain/session_stream.hpp.
A time point is a count of clock ticks, a tick being a nanosecond.
-/
namespace Gr4cp.Domain

open Gr4cp.Core

abbrev Timestamp := Int

inductive SessionState where
  | stopped | running | error
  deriving DecidableEq, Repr

/-- mirrors src/domain/session.cpp:10-21 -/
def SessionState.toStr : SessionState → Str
  | .stopped => str "stopped"
  | .running => str "running"
  | .error => str "error"

/-- A number in decimal, with leading zeros up to the width. -/
def zeroPadded (width n : Nat) : Str :=
  (List.range width).map fun i => hexDigit (n / 10 ^ (width - 1 - i) % 10)

/-- Year, month and day, `days` after 1970-01-01: eras of 400 years that begin
on the first of March.
The date part of `gmtime_r`. -/
def civilDate (days : Int) : Int × Nat × Nat :=
  let z := days + 719468
  let era := z / 146097
  let doe := (z % 146097).toNat
  let yoe := (doe - doe / 1460 + doe / 36524 - doe / 146096) / 365
  let doy := doe - (365 * yoe + yoe / 4 - yoe / 100)
  let mp := (5 * doy + 2) / 153
  let day := doy - (153 * mp + 2) / 5 + 1
  let month := if mp < 10 then mp + 3 else mp - 9
  (era * 400 + yoe + (if month ≤ 2 then 1 else 0), month, day)

/-- A tick is a nanosecond, so every year has four digits.
mirrors src/domain/session.cpp:37-50 -/
def formatTimestampUtc (timestamp : Timestamp) : Str :=
  let time := timestamp.tdiv 1000000000
  let date := civilDate (time / 86400)
  let second := (time % 86400).toNat
  zeroPadded 4 date.1.toNat ++ str "-" ++ zeroPadded 2 date.2.1 ++ str "-" ++ zeroPadded 2 date.2.2 ++
    str "T" ++ zeroPadded 2 (second / 3600) ++ str ":" ++ zeroPadded 2 (second / 60 % 60) ++ str ":" ++
    zeroPadded 2 (second % 60) ++ str "Z"

example : formatTimestampUtc 1709251199000000000 = str "2024-02-29T23:59:59Z" := by decide

/-- mirrors include/gr4cp/domain/session.hpp:18-27 -/
structure Session where
  id : Str
  name : Str
  grcContent : Str
  schedulerAlias : Option Str
  state : SessionState
  lastError : Option Str
  createdAt : Timestamp
  updatedAt : Timestamp
  deriving DecidableEq, Repr

/-- mirrors include/gr4cp/domain/session_stream.hpp:11-18 -/
structure BrowserStreamDescriptor where
  id : Str
  blockInstanceName : Str
  transport : Str
  payloadFormat : Str
  path : Str
  ready : Bool
  deriving DecidableEq, Repr

/-- mirrors include/gr4cp/domain/session_stream.hpp:20-27 -/
structure RuntimeStreamBindingPlan where
  streamId : Str
  blockInstanceName : Str
  transport : Str
  payloadFormat : Str
  path : Str
  ready : Bool
  deriving DecidableEq, Repr

/-- mirrors include/gr4cp/domain/session_stream.hpp:29-31 -/
structure StreamRuntimePlan where
  streams : List RuntimeStreamBindingPlan
  deriving DecidableEq, Repr

/-- mirrors include/gr4cp/domain/session_stream.hpp:33-39 -/
structure InternalStreamBinding where
  protocol : Str
  host : Str
  port : Nat
  path : Str
  endpoint : Str
  deriving DecidableEq, Repr

/-- mirrors include/gr4cp/domain/session_stream.hpp:41-45 -/
structure RuntimeStreamBinding where
  plan : RuntimeStreamBindingPlan
  internal : InternalStreamBinding
  browser : BrowserStreamDescriptor
  deriving DecidableEq, Repr

/-- mirrors src/domain/session_stream.cpp:204-213 -/
def toBrowserStreamDescriptor (plan : RuntimeStreamBindingPlan) : BrowserStreamDescriptor where
  id := plan.streamId
  blockInstanceName := plan.blockInstanceName
  transport := plan.transport
  payloadFormat := plan.payloadFormat
  path := plan.path
  ready := plan.ready

end Gr4cp.Domain
