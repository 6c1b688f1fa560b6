import ClaimLedger.Settings

/-! How a block index is opened: where its databases are, how long a query waits
for a locked one, and how many queries may wait for the worker. -/
namespace ClaimLedger.BlockIndex

/-- A span of time in seconds and billionths. -/
structure Span where
  seconds : Nat
  nanoseconds : Nat
  deriving DecidableEq

structure Config where
  directory : String
  busyTimeout : Span
  queryQueue : Nat
  deriving DecidableEq

/-- Billionths in a second. -/
def nanosPerSecond : Nat := 1000000000

/-- A span whose billionths may exceed a second; the seconds must fit a word
after they were carried over. -/
def Span.ofParts? (seconds nanoseconds : Nat) : Option Span :=
  let total := seconds + nanoseconds / nanosPerSecond
  if total < 0x10000000000000000 then some ⟨total, nanoseconds % nanosPerSecond⟩ else none

/-- Both parts of a span are needed, and nothing else may be given. -/
def Span.ofSetting? : Setting → Option Span
  | .list [seconds, nanoseconds] => do
    Span.ofParts? (← seconds.natural? 64) (← nanoseconds.natural? 32)
  | .object members => do
    let known := members.all fun member => member.1 = "secs" || member.1 = "nanos"
    if known then
      let seconds ← members.find? fun member => member.1 = "secs"
      let nanoseconds ← members.find? fun member => member.1 = "nanos"
      Span.ofParts? (← seconds.2.natural? 64) (← nanoseconds.2.natural? 32)
    else none
  | _ => none

namespace Config

/-- The current directory, five minutes, and thirty-two queries. -/
def standard : Config := ⟨".", ⟨300, 0⟩, 32⟩

def ofSetting? (setting : Setting) : Option Config := do
  let member ← setting.members? 3
  let directory ← Setting.optional Setting.text? standard.directory (member 0 "directory")
  let timeout ← Setting.optional Span.ofSetting? standard.busyTimeout (member 1 "busy_timeout")
  let queue ← Setting.optional (Setting.natural? 64) standard.queryQueue (member 2 "query_queue")
  return ⟨directory, timeout, queue⟩

end Config

end ClaimLedger.BlockIndex
