import ErrorUnion.Command.Args

/- Help texts of the command. -/
namespace ErrorUnion

def HelpTopic.text : HelpTopic → String
  | program =>
    "Generates per-operation Rust error enums from a service model.\n\n"
      ++ "Usage: errgen [OPTIONS] <COMMAND>\n\n"
      ++ "Commands:\n"
      ++ "  gen             Generate one Rust module from a model document\n"
      ++ "  batch           Generate every module listed in a manifest\n"
      ++ "  diagnostics-md  Print the diagnostics catalog as Markdown\n"
      ++ "  help            Print this message or the help of the given subcommand(s)\n\n"
      ++ "Options:\n"
      ++ "  -v, --verbose  Log generator decisions at debug level (RUST_LOG takes precedence)\n"
      ++ "  -h, --help     Print help\n"
  | generate =>
    "Generate one Rust module from a model document\n\n"
      ++ "Usage: errgen gen [OPTIONS] --model <MODEL> --out <OUT>\n\n"
      ++ "Options:\n"
      ++ "      --model <MODEL>                  \n"
      ++ "  -v, --verbose                        "
      ++ "Log generator decisions at debug level (RUST_LOG takes precedence)\n"
      ++ "      --out <OUT>                      Output Rust file\n"
      ++ "      --check                          "
      ++ "If set, fail if output differs; do not write\n"
      ++ "      --retry-policy <RETRY_POLICY>    \n"
      ++ "      --runtime-crate <RUNTIME_CRATE>  "
      ++ "Path generated code uses for the runtime crate (e.g. `crate::rt`)\n"
      ++ "      --no-rename-exceptions           Keep `*Exception` shape names as they are\n"
      ++ "  -h, --help                           Print help\n"
  | batch =>
    "Generate every module listed in a manifest\n\n"
      ++ "Usage: errgen batch [OPTIONS] --manifest <MANIFEST>\n\n"
      ++ "Options:\n"
      ++ "      --manifest <MANIFEST>  \n"
      ++ "  -v, --verbose              "
      ++ "Log generator decisions at debug level (RUST_LOG takes precedence)\n"
      ++ "      --check                If set, fail if any output differs; do not write\n"
      ++ "      --report-json          "
      ++ "Print a JSON report to stdout instead of stopping at the first failure\n"
      ++ "  -h, --help                 Print help\n"
  | catalogue =>
    "Print the diagnostics catalog as Markdown\n\n"
      ++ "Usage: errgen diagnostics-md [OPTIONS]\n\n"
      ++ "Options:\n"
      ++ "  -v, --verbose  Log generator decisions at debug level (RUST_LOG takes precedence)\n"
      ++ "  -h, --help     Print help\n"
  | help =>
    "Print this message or the help of the given subcommand(s)\n\n"
      ++ "Usage: errgen help [COMMAND]...\n\n"
      ++ "Arguments:\n"
      ++ "  [COMMAND]...  Print help for the subcommand(s)\n"

end ErrorUnion
