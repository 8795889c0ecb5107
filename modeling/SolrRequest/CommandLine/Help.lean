import SolrRequest.CommandLine.Arguments

/-!
# Help

The pages of help of the program and of its commands, and the line with its version.
-/

namespace SolrRequest

/-- The name of the program and its version. -/
def versionText : String := "solrq 0.1.0"

namespace HelpPage

def lines : HelpPage → List String
  | program =>
    ["Solr criteria compiler",
      "",
      "Usage: solrq [OPTIONS] <COMMAND>",
      "",
      "Commands:",
      "  compile  Compile a JSON query document",
      "  escape   Escape a literal value for embedding in a query",
      "  help     Print this message or the help of the given subcommand(s)",
      "",
      "Options:",
      "  -c, --config <CONFIG>  Settings file (toml, json or yaml)",
      "  -h, --help             Print help",
      "  -V, --version          Print version"]
  | compile false =>
    ["Compile a JSON query document",
      "",
      "Usage: solrq compile [OPTIONS] [INPUT]",
      "",
      "Arguments:",
      "  [INPUT]  Query document; stdin when omitted or `-`",
      "",
      "Options:",
      "  -c, --config <CONFIG>  Settings file (toml, json or yaml)",
      "  -d, --domain <DOMAIN>  Domain type used for field name mapping",
      "  -f, --format <FORMAT>  [default: params] [possible values: params, url, json]",
      "  -h, --help             Print help (see more with '--help')"]
  | compile true =>
    ["Compile a JSON query document",
      "",
      "Usage: solrq compile [OPTIONS] [INPUT]",
      "",
      "Arguments:",
      "  [INPUT]",
      "          Query document; stdin when omitted or `-`",
      "",
      "Options:",
      "  -c, --config <CONFIG>",
      "          Settings file (toml, json or yaml)",
      "",
      "  -d, --domain <DOMAIN>",
      "          Domain type used for field name mapping",
      "",
      "  -f, --format <FORMAT>",
      "          Possible values:",
      "          - params: One `name=value` line per parameter",
      "          - url:    URL-encoded query string",
      "          - json:   JSON object, repeated names as arrays",
      "          ",
      "          [default: params]",
      "",
      "  -h, --help",
      "          Print help (see a summary with '-h')"]
  | escape =>
    ["Escape a literal value for embedding in a query",
      "",
      "Usage: solrq escape [OPTIONS] <VALUE>",
      "",
      "Arguments:",
      "  <VALUE>  ",
      "",
      "Options:",
      "      --all              Escape `*` too and never quote",
      "  -c, --config <CONFIG>  Settings file (toml, json or yaml)",
      "  -h, --help             Print help"]
  | help =>
    ["Print this message or the help of the given subcommand(s)",
      "",
      "Usage: solrq help [COMMAND]...",
      "",
      "Arguments:",
      "  [COMMAND]...  Print help for the subcommand(s)"]

def text (page : HelpPage) : String :=
  String.join (page.lines.map (· ++ "\n"))

end HelpPage

end SolrRequest
