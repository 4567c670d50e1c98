import Mathlib.Data.Nat.Notation

/-!
# Build-time configuration

Models the constants of `config/app_config.h` that the modelled code reads, and
`configTICK_RATE_HZ` of the BSP. The fields of `AppConfig` carry what `main.c:47–68` asserts at
build time and what FreeRTOS requires of a queue, so results for every `AppConfig` hold of every
build that compiles. `appConfig` is the build as shipped.
-/

namespace SensorAggregator

/-- `APP_*`, `app_config.h:26–107`, with the assertions of `main.c:56–59`. `stallTicks` is
`pdMS_TO_TICKS(APP_STALL_WARN_MS)` as the kernel's headers compute it. -/
structure AppConfig where
  logCapacity : UInt32
  logReadBatch : UInt32
  logDrainBatchesMax : UInt32
  consumerQueueLen : UInt32
  heartbeatSamples : UInt32
  slowStreamDivider : UInt32
  stallTicks : UInt32
  wdtLimitProducerMs : UInt32
  wdtLimitUiMs : UInt32
  wdtLimitConsumerMs : UInt32
  wdtTestCommands : Bool
  tickRateHz : UInt32
  logCapacity_ne_zero : logCapacity ≠ 0
  logCapacity_pow : logCapacity &&& (logCapacity - 1) = 0
  logReadBatch_pos : 0 < logReadBatch
  logReadBatch_le : logReadBatch ≤ logCapacity
  consumerQueueLen_pos : 0 < consumerQueueLen
  tickRateHz_pos : 0 < tickRateHz

/-- The values in `app_config.h:41–107`, at 1000 ticks a second, the higher of the two rates that
`docs/stage-2-freertos-tasks.md` gives for the BSP. -/
def appConfig : AppConfig where
  logCapacity := 4096
  logReadBatch := 16
  logDrainBatchesMax := 4
  consumerQueueLen := 16
  heartbeatSamples := 5
  slowStreamDivider := 10
  stallTicks := 1000
  wdtLimitProducerMs := 500
  wdtLimitUiMs := 500
  wdtLimitConsumerMs := 2000
  wdtTestCommands := true
  tickRateHz := 1000
  logCapacity_ne_zero := by decide
  logCapacity_pow := by decide
  logReadBatch_pos := by decide
  logReadBatch_le := by decide
  consumerQueueLen_pos := by decide
  tickRateHz_pos := by decide

end SensorAggregator
