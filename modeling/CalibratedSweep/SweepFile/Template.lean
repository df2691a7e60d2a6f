
namespace CalibratedSweep.SweepFile

def templateLines : List String := [
  "# qsweep configuration",
  "",
  "[worker]",
  "# Worker executable: <queue> <producers> <consumers> <size> <ops> <center> <amplitude> [imbalance]",
  "binary = \"./build/All2All\"",
  "# Directory the worker runs in (uncomment to enable)",
  "# working_dir = \"build\"",
  "# Workload imbalance passed as the 8th argument (uncomment to enable)",
  "# imbalance = 1",
  "",
  "[probe]",
  "# Calibration probe: <delay> <tolerance> <runs> <checks>, prints center and amplitude",
  "binary = \"./build/time\"",
  "# Measurements per adjustment round",
  "runs = 1000",
  "# Consecutive in-tolerance rounds required",
  "checks = 5",
  "# Delays below this inject no stimulus and skip the probe",
  "min_delay_ns = 100",
  "",
  "[sweep]",
  "queues = [\"LinkedMuxQueue\", \"FAAArrayQueue\"]",
  "# Explicit [producers, consumers] pairs",
  "threads = [[1, 1]]",
  "# Shapes over thread_counts: \"balanced\", \"many-to-one\", \"one-to-many\", \"one-to-one\"",
  "shapes = [\"balanced\"]",
  "thread_counts = [2, 4, 8]",
  "sizes = [64]",
  "# Target delays in nanoseconds",
  "delays = [0]",
  "ops = 100000",
  "runs = 10",
  "",
  "[timeout]",
  "# Minimum bound for a single run",
  "floor = \"120s\"",
  "# Multiplier on ops * 2 * delay",
  "scale = 1.5",
  "# SIGTERM to SIGKILL window",
  "grace = \"500ms\"",
  "",
  "[output]",
  "csv = \"sweep.csv\"",
  "# JSON sweep report (uncomment to enable)",
  "# report = \"sweep.json\"",
  "# Append to csv and skip configurations it already holds",
  "resume = false",
  "",
  "[affinity]",
  "# Ordered CPU list, one id per line (uncomment to enable)",
  "# pinning_file = \"pinning.txt\""]

def template : String := String.join (templateLines.map fun line => line ++ "\n")

end CalibratedSweep.SweepFile
