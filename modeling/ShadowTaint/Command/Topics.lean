import ShadowTaint.Command.Invocation

/-!
# What a command tells about itself

The texts on the topics that a command line may ask for, laid out for a terminal of 100
columns.
-/

namespace ShadowTaint
namespace Topic

/-- Lines of text. -/
def ofLines (lines : List String) : String := String.join (lines.map fun line => line ++ "\n")

/-- The text on a topic. -/
def text : Topic -> String
  | help => ofLines [
      "Replay a recorded ARM trace through the taint engine",
      "",
      "Usage: armtaint-replay [OPTIONS] <TRACE>",
      "",
      "Arguments:",
      "  <TRACE>  JSON-lines trace file",
      "",
      "Options:",
      "  -l, --level <LEVEL>",
      "          console log level (default: from config)",
      "      --taint-level <TAINT_LEVEL>",
      "          level of the engine's per-instruction logs, e.g. trace",
      "  -s, --taint-syscall <TAINT_SYSCALLS>",
      "          system call number whose output buffers are taint sources, e.g. 3 for read",
      "      --label <LABEL>",
      "          label of bytes tainted by --taint-syscall (default: taint.default_label)",
      "  -p, --pretty",
      "          pretty-print the report",
      "  -h, --help",
      "          Print help",
      "  -V, --version",
      "          Print version"]
  | version => ofLines ["armtaint-analysis 0.1.0"]

end Topic
end ShadowTaint
