import ProbeRecorder.Config.Basic
import ProbeRecorder.Recorder.State

/-!
# `ProbeRecorder.Recorder.Build` — making a recorder

## Contents
- **Options.** `RecorderOptions`; what is not asked for has a default.
- **Building.** `Recorder.build`, which refuses a policy that would record nothing by mistake.
- **Configuration.** `Recorder.ofConfig`.
-/

namespace ProbeRecorder

/-- **What a recorder is made with.** -/
structure RecorderOptions where
  /-- The policy; without one, the policy of the empty configuration text. -/
  policy : Option CapturePolicy := none
  mode : RecordingMode := .detailed
  identities : IdentityMap := .standard
  /-- There is a sink that keeps what it is given. -/
  hasSink : Bool := true
  codec : Codec := .json
  builtinExclusions : Bool := true
  extraExclusions : List String := []

namespace Recorder

/-- The exclusions that are asked for. -/
def exclusionsOf (o : RecorderOptions) : ExclusionIndex :=
  let start := if o.builtinExclusions then ExclusionIndex.empty.addBuiltin else .empty
  start.extend o.extraExclusions

/-- A recorder with a policy that was checked. -/
def withPolicy (o : RecorderOptions) (policy : CapturePolicy) (sink : Sink) : Recorder where
  policy := policy
  mode := o.mode
  codec := o.codec
  exclusions := exclusionsOf o
  discards := o.mode = .discard || !o.hasSink
  sink := sink
  identities := o.identities
  recordable := .empty
  skipped := .empty
  probes := .empty
  classes := .empty
  anchors := .empty
  clock := .initial
  stats := {}
  suppressed := false

/-- **Builds a recorder.** -/
def build (o : RecorderOptions) (sink : Sink) : Except RecorderError Recorder := do
  let policy ← match o.policy with
    | some p => pure p
    | none => CapturePolicy.derive ""
  if policy.isValid then return withPolicy o policy sink
  else throw (CapturePolicy.nothingEnabled policy.display)

/-- The options of a configuration. -/
def optionsOf (c : Config) (policy : CapturePolicy) : RecorderOptions where
  policy := some policy
  mode := c.recording.mode
  identities := .new c.identity.capacity.toNat c.identity.typeCacheCapacity.toNat
  extraExclusions := c.exclusion.extraPrefixes

/-- **Builds the recorder of a configuration.** -/
def ofConfig (c : Config) (sink : Sink) : Except RecorderError Recorder := do
  build (optionsOf c (← c.capturePolicy)) sink

end Recorder
end ProbeRecorder
