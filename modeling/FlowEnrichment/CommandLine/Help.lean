/-!
# Help

What the commands say about themselves.
-/
namespace FlowEnrichment.CommandLine.Help

/-- What the program is about. -/
def about : String := "Exporter and interface metadata for flow enrichment"

/-- The help of the program. -/
def program : List String :=
  [ about,
    "",
    "Usage: flowmeta <COMMAND>",
    "",
    "Commands:",
    "  check       Validate the configuration and print the effective settings",
    "  lookup      Resolve interfaces through the configured providers",
    "  cache-dump  Print the content of a cache snapshot",
    "  version     Print version and build information",
    "  help        Print this message or the help of the given subcommand(s)",
    "",
    "Options:",
    "  -h, --help     Print help",
    "  -V, --version  Print version" ]

/-- The value of the environment that stands in for the settings file. -/
def environment (config : Option String) : String :=
  "[env: FLOWMETA_CONFIG=" ++ config.getD "" ++ "]"

/-- The help of `check`. -/
def check (config : Option String) : List String :=
  [ "Validate the configuration and print the effective settings",
    "",
    "Usage: flowmeta check [OPTIONS]",
    "",
    "Options:",
    "  -c, --config <CONFIG>  Path to configuration file " ++ environment config,
    "  -h, --help             Print help" ]

/-- The help of `lookup`. -/
def lookup (config : Option String) : List String :=
  [ "Resolve interfaces through the configured providers",
    "",
    "Usage: flowmeta lookup [OPTIONS] <QUERIES>...",
    "",
    "Arguments:",
    "  <QUERIES>...  Queries, as EXPORTER:IFINDEX (e.g. 192.0.2.1:10, [2001:db8::1]:10)",
    "",
    "Options:",
    "  -c, --config <CONFIG>    Path to configuration file " ++ environment config,
    "  -w, --wait-ms <WAIT_MS>  How long to wait for answers [default: 2000]",
    "  -h, --help               Print help" ]

/-- The help of `cache-dump`. -/
def cacheDump : List String :=
  [ "Print the content of a cache snapshot",
    "",
    "Usage: flowmeta cache-dump <PATH>",
    "",
    "Arguments:",
    "  <PATH>  Snapshot file",
    "",
    "Options:",
    "  -h, --help  Print help" ]

/-- The help of `version`. -/
def version : List String :=
  [ "Print version and build information",
    "",
    "Usage: flowmeta version",
    "",
    "Options:",
    "  -h, --help  Print help" ]

end FlowEnrichment.CommandLine.Help
