import Courier.Span.Basic

/-! The settings of a client that is told nothing else. -/

namespace Courier.Defaults

def address : String := "localhost:33212"
def keepaliveInterval : Span := .ofSeconds 120
def keepaliveTimeout : Span := .ofSeconds 20
def permitWithoutStream : Bool := true
def connectTimeout : Span := .ofSeconds 10
def streamWindow : Nat := 1024 * 1048576
def connectionWindow : Nat := 1024 * 1048576

def flowControl : Bool := true
def initialCredits : Nat := 100
def creditIncrement : Nat := 10
def maxRetries : UInt32 := 3
def retryDelay : Span := .ofMillis 100
def pacingDelay : Span := .ofMicros 100
def maxConcurrentSends : Nat := 10
def pollInterval : Span := .ofMillis 100

def bufferSize : Nat := 10000
def workers : Nat := 10
def count : Nat := 1

end Courier.Defaults
