import Courier.Number.Printer
import Courier.Span.Printer
import Courier.Statistics.Basic

/-! The counters as the text that ends a run. -/

namespace Courier.Statistics

def perSecond (count : Nat) (elapsed : Span) : Float :=
  let seconds := elapsed.toFloat
  if 0.0 < seconds then Float.ofScientific count false 0 / seconds else 0.0

structure Measured where
  elapsed : List Char
  averageLatency : List Char
  sendRate : List Char
  receiveRate : List Char
  deriving DecidableEq, Repr

def measured? (stats : Statistics) (elapsed : Span) : Option Measured :=
  stats.averageLatency?.map fun latency =>
    { elapsed := elapsed.roundedText
      averageLatency := latency.roundedText
      sendRate := Number.fixed 1 (perSecond stats.sent elapsed)
      receiveRate := Number.fixed 1 (perSecond stats.received elapsed) }

def divisionMessage : String := "divide by zero error when dividing duration by scalar"

def report (stats : Statistics) (measured : Measured) : String :=
  "=== Final statistics (" ++ String.ofList measured.elapsed ++ ") ===\n" ++
    s!"published: sent={stats.sent} acked={stats.acked} dropped={stats.dropped} " ++
    s!"retried={stats.retried} attempts={stats.sendAttempts} avg_latency=" ++
    String.ofList measured.averageLatency ++ " (" ++ String.ofList measured.sendRate ++
    " msg/s)\n" ++
    s!"received: messages={stats.received} traces={stats.traces} unknown={stats.unknown} " ++
    s!"decode_errors={stats.decodeErrors} frames={stats.frames} " ++
    s!"buffer_dropped={stats.bufferDropped} (" ++ String.ofList measured.receiveRate ++ " msg/s)"

end Courier.Statistics
