import CalibratedSweep.Duration.Basic
import CalibratedSweep.Text.Bytes
/-!
Child processes as a supervisor sees them: how one ends, when it ends, when its output pipes are
closed, and what it printed. A bound covers all three: a pipe that some descendant still holds open
keeps the run going.
-/

namespace CalibratedSweep

inductive ExitStatus where
  | exited (code : Nat)
  | signalled (signal : Nat)
  deriving DecidableEq, Repr

namespace ExitStatus

def succeeded (s : ExitStatus) : Bool := s == exited 0

def code? : ExitStatus → Option Int
  | exited n => some n
  | signalled _ => none

def signalNames : List String :=
  ["SIGHUP", "SIGINT", "SIGQUIT", "SIGILL", "SIGTRAP", "SIGABRT", "SIGBUS", "SIGFPE", "SIGKILL",
    "SIGUSR1", "SIGSEGV", "SIGUSR2", "SIGPIPE", "SIGALRM", "SIGTERM", "SIGSTKFLT", "SIGCHLD",
    "SIGCONT", "SIGSTOP", "SIGTSTP", "SIGTTIN", "SIGTTOU", "SIGURG", "SIGXCPU", "SIGXFSZ",
    "SIGVTALRM", "SIGPROF", "SIGWINCH", "SIGIO", "SIGPWR", "SIGSYS"]

def signalName? (n : Nat) : Option String := if n = 0 then none else signalNames[n - 1]?

def text : ExitStatus → String
  | exited n => "exit status: " ++ toString n
  | signalled n =>
    match signalName? n with
    | some name => "signal: " ++ toString n ++ " (" ++ name ++ ")"
    | none => "signal: " ++ toString n

end ExitStatus

/--
A process after its start, which was at `started` on the clock of its supervisor. The other times
count from the start; what never happens has none.
-/
structure Child where
  started : Duration
  status : ExitStatus
  ends : Option Duration
  stdoutCloses : Option Duration
  stderrCloses : Option Duration
  stdout : Bytes
  stderr : Bytes
  deriving DecidableEq, Repr

inductive Ending where
  | finished (status : ExitStatus) (stdout stderr : String)
  | timedOut
  deriving DecidableEq, Repr

/-- The last instant on the clock, which counts seconds in 63 bits. -/
def lastInstant : Duration := ⟨0x8000000000000000 * 1000000000 - 1⟩

/-- The bound, unless the clock does not reach its end: then there is no deadline. -/
def deadlineFrom (started bound : Duration) : Option Duration :=
  if started.plus bound ≤ lastInstant then some bound else none

namespace Child

def deadline? (c : Child) (bound : Duration) : Option Duration := deadlineFrom c.started bound

def isBefore (deadline time : Option Duration) : Bool :=
  time.any fun t => deadline.all fun d => decide (t.nanos < d.nanos)

def finishesWithin (c : Child) (bound : Duration) : Bool :=
  let deadline := c.deadline? bound
  isBefore deadline c.ends && isBefore deadline c.stdoutCloses && isBefore deadline c.stderrCloses

def endingWithin (c : Child) (bound : Duration) : Ending :=
  if c.finishesWithin bound then
    .finished c.status (Bytes.lossyText c.stdout) (Bytes.lossyText c.stderr)
  else .timedOut

/-- A child of the clock's beginning that ends at a time and then holds no pipe open. -/
def endingAt (time : Duration) (status : ExitStatus) (stdout stderr : Bytes) : Child :=
  ⟨⟨0⟩, status, some time, some time, some time, stdout, stderr⟩

theorem finishesWithin_endingAt {bound time : Duration} {status : ExitStatus} {stdout stderr : Bytes}
    (h : (endingAt time status stdout stderr).deadline? bound = none) :
    (endingAt time status stdout stderr).finishesWithin bound = true := by
  rw [finishesWithin, h]
  rfl

end Child

/--
A child whose supervisor comes back from it. Without a deadline the supervisor waits until the child
is done, so that there is nothing to report of one that never is.
-/
structure Supervised (bound : Duration) where
  child : Child
  done : child.deadline? bound = none → child.finishesWithin bound = true

namespace Supervised

def ending {bound : Duration} (s : Supervised bound) : Ending := s.child.endingWithin bound

def ofChild? (bound : Duration) (c : Child) : Option (Supervised bound) :=
  if h : c.deadline? bound = none → c.finishesWithin bound = true then some ⟨c, h⟩ else none

def endingAt (bound time : Duration) (status : ExitStatus) (stdout stderr : Bytes) :
    Supervised bound :=
  ⟨.endingAt time status stdout stderr, Child.finishesWithin_endingAt⟩

end Supervised

end CalibratedSweep
