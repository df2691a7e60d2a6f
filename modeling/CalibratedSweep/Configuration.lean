
namespace CalibratedSweep

structure ThreadPair where
  producers : UInt32
  consumers : UInt32
  deriving DecidableEq, Repr

namespace ThreadPair

/-- Threads of a worker besides its own main thread, in 32 bits. -/
def total (p : ThreadPair) : UInt32 := p.producers + p.consumers

def text (p : ThreadPair) : String :=
  "p:" ++ toString p.producers ++ " c:" ++ toString p.consumers

end ThreadPair

structure Configuration where
  queue : String
  threads : ThreadPair
  capacity : UInt64
  ops : UInt64
  delay : UInt64
  deriving DecidableEq, Repr

namespace Configuration

def text (c : Configuration) : String :=
  "[" ++ c.queue ++ " " ++ c.threads.text ++ " size:" ++ toString c.capacity ++ " items:" ++
    toString c.ops ++ " delay:" ++ toString c.delay ++ "ns]"

end Configuration

end CalibratedSweep
