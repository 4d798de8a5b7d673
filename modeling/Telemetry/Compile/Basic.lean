import Telemetry.Compile.Collectd
import Telemetry.Compile.Collector

/-!
# Compiling

`compile` turns a configuration into the files for one backend, or gives the first reason why it
cannot. There is no partial result, and equal inputs give equal files.
-/

namespace Telemetry

/-- The files for a backend. -/
def compile (c : Config) (b : Backend) (p : Platform) (o : CompileOptions) :
    Except Refusal Files :=
  match b with
  | .fluentBit => (LogEngine.compile c p o).mapError .invalid
  | .collector => (CollectorGraph.compile c p o).mapError .invalid
  | .collectd => Collectd.compile c p

end Telemetry
