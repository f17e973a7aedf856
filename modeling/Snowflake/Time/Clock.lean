import Snowflake.Time.Instant
import Snowflake.Time.Span

/-!
Clocks that count whole milliseconds from an epoch, itself a length of time after the start of 1970.
-/

namespace Snowflake

namespace Epoch

/-- The start of 2025. -/
def year2025 : Span :=
  .ofMillis 1735689600000

/-- 4 November 2010, 01:42:54.657. -/
def twitter : Span :=
  .ofMillis 1288834974657

/-- The start of 2015. -/
def discord : Span :=
  .ofMillis 1420070400000

end Epoch

namespace Clock

/-- What a clock with the epoch `epoch` reads at `now`. Before its epoch a clock reads zero. -/
def reading (epoch : Span) (now : Instant) : UInt64 :=
  UInt64.ofNat ((now.unixNanos - epoch.nanos).toNat / 1000000)

end Clock

end Snowflake
