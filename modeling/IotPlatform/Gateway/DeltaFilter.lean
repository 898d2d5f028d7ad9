import IotPlatform.Shared.Rs485Protocol
import IotPlatform.Gateway.CacheForwarding

/-!
# The delta filter in front of the cache

`delta_filter.c`, and the intake of edge frames that the integration test builds from it: a reading goes into the cache if it
is the first of its key or away from the cached value by more than the threshold of its metric.
-/

namespace IotPlatform
open Table Bytes Run

/-- `DELTA_FILTER_MAX_METRICS` -/
def deltaFilterMaxMetrics : Nat := 16

structure DeltaThreshold where
  metricId : UInt8
  absThreshold : Binary32
  configured : Bool
  deriving DecidableEq, Repr

/-- The first `s_config_count` thresholds. -/
structure DeltaFilter where
  thresholds : List DeltaThreshold := []

inductive DeltaFilterResult where
  | forward | suppress | firstRead | errNotFound
  deriving DecidableEq, Repr

def DeltaThreshold.isFor (metricId : UInt8) (t : DeltaThreshold) : Bool := t.configured && t.metricId == metricId

def findThreshold (f : DeltaFilter) (metricId : UInt8) : Option DeltaThreshold := f.thresholds.find? (·.isFor metricId)

def deltaFilterInit : DeltaFilter := {}

def deltaFilterSetThreshold (f : DeltaFilter) (metricId : UInt8) (absThreshold : Binary32) : DeltaFilter × Bool :=
  match findThreshold f metricId with
  | some _ =>
    ({ thresholds := updateFirst (·.isFor metricId) (fun t => { t with absThreshold := absThreshold }) f.thresholds }, true)
  | none =>
    if f.thresholds.length ≥ deltaFilterMaxMetrics then (f, false)
    else ({ thresholds := f.thresholds ++ [{ metricId := metricId, absThreshold := absThreshold, configured := true }] }, true)

def fabsf (x : Binary32) : Binary32 := Binary32.ofParts false x.magnitude

def deltaFilterEvaluate (f : DeltaFilter) (c : Cache) (key : CacheKey) (newValue : Binary32) : DeltaFilterResult :=
  match findThreshold f key.2 with
  | none => .errNotFound
  | some t =>
    match cacheRead c key with
    | none => .firstRead
    | some cached =>
      let delta := fabsf (Binary32.sub newValue cached)
      if Binary32.lt t.absThreshold delta then .forward else .suppress

def deltaFilterConfigCount (f : DeltaFilter) : UInt8 := UInt8.ofNat f.thresholds.length

/-! ### Frames from the edge -/

/-- Key and value of a frame that parses and has six bytes of payload. -/
def edgeFrameReading (wire : List UInt8) : Option (CacheKey × Binary32) :=
  match rs485Parse wire { destAddr := 0, srcAddr := 0, payloadLen := 0, payload := .replicate 128 0 } with
  | some (.ok, frame) =>
    if frame.payloadLen.toNat < 6 then none
    else
      some ((frame.payload[0].toUInt16, frame.payload[1]), ⟨UInt32.ofNat (leNat ((frame.payload.toList.drop 2).take 4))⟩)
  | _ => none

def gatewayReceiveEdgeFrame (f : DeltaFilter) (c : Cache) (wire : List UInt8) : Cache :=
  match edgeFrameReading wire with
  | none => c
  | some (key, value) =>
    match deltaFilterEvaluate f c key value with
    | .firstRead | .forward => (cacheWrite c key value).1
    | .suppress | .errNotFound => c

end IotPlatform
