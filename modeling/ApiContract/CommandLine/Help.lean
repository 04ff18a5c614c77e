import ApiContract.CommandLine.Command

set_option autoImplicit false

namespace ApiContract.CommandLine

structure HelpRow where
  name : String
  summary : String
  -- Further lines, only told where help is asked for in detail.
  details : List String := []

namespace HelpRow

def ofOption (name placeholder summary : String) (details : List String) : HelpRow :=
  ⟨"    --" ++ name ++ " <" ++ placeholder ++ ">", summary, details⟩

def ofFlag (name summary : String) : HelpRow :=
  ⟨"    --" ++ name, summary, []⟩

def columns (rows : List HelpRow) : String :=
  let width := rows.foldl (fun width row => max width row.name.length) 0
  String.join (rows.map fun row =>
    "  " ++ row.name ++ "".pushn ' ' (width - row.name.length) ++ "  " ++ row.summary ++ "\n")

def paragraphs (rows : List HelpRow) : String :=
  "\n".intercalate (rows.map fun row =>
    "  " ++ row.name ++ "\n" ++
      String.join ((row.summary :: row.details).map fun line => "          " ++ line ++ "\n"))

end HelpRow

namespace Topic

def about : Topic → String
  | .program => "CLI for resolving API contracts into SDK generation models"
  | .generate => "Resolve a contract and write the model and target contexts"
  | .inspect => "Resolve a contract and print each request with its tags"
  | .help => "Print this message or the help of the given subcommand(s)"

def usage : Topic → String
  | .program => "contractgen <COMMAND>"
  | .generate => "contractgen generate [OPTIONS]"
  | .inspect => "contractgen inspect [OPTIONS] --contract-path <CONTRACT_PATH>"
  | .help => "contractgen help [COMMAND]..."

def contractRow (details : List String) : HelpRow :=
  .ofOption "contract-path" "CONTRACT_PATH" "Path or URL to the contract (JSON or YAML)" details

def selectionRows : List HelpRow :=
  [.ofFlag "include-internal" "Keep internal-only requests",
    .ofOption "include" "INCLUDE_REQUESTS" "Only keep these requests (simple name, repeatable)" [],
    .ofOption "exclude" "EXCLUDE_REQUESTS" "Drop these requests (simple name, repeatable)" []]

def helpRow (summary : String) : HelpRow :=
  ⟨"-h, --help", summary, []⟩

-- The rows on a topic, under the title of each part. Only the generation of contexts has more to
-- tell than fits in its rows.
def parts (detailed : Bool) : Topic → List (String × List HelpRow)
  | .program =>
    [("Commands", [⟨"generate", about .generate, []⟩, ⟨"inspect", about .inspect, []⟩,
        ⟨"help", about .help, []⟩]),
      ("Options", [helpRow "Print help", ⟨"-V, --version", "Print version", []⟩])]
  | .generate =>
    [("Options", [
      .ofOption "config" "CONFIG" "Configuration file (YAML, or TOML with a .toml extension)" [],
      .ofOption "project-name" "PROJECT_NAME" "Project name" [],
      contractRow ["",
        "Example: --contract-path path/to/contract.json Example: --contract-path",
        "https://example.com/contract.json"],
      .ofOption "output-dir" "OUTPUT_DIR" "Output directory (default: the project name)" [],
      .ofOption "target-kind" "TARGET_KIND" "Target to build contexts for (rust, generic)" []] ++
      selectionRows ++
      [helpRow (if detailed then "Print help (see a summary with '-h')"
        else "Print help (see more with '--help')")])]
  | .inspect =>
    [("Options", [contractRow [], .ofFlag "json" "Print the full resolved model as JSON"] ++
      selectionRows ++ [helpRow "Print help"])]
  | .help => [("Arguments", [⟨"[COMMAND]...", "Print help for the subcommand(s)", []⟩])]

def text (topic : Topic) (detailed : Bool) : String :=
  let parts := topic.parts detailed
  let long := detailed && parts.any fun part => part.2.any fun row => !row.details.isEmpty
  about topic ++ "\n\nUsage: " ++ usage topic ++ "\n" ++
    String.join (parts.map fun part => "\n" ++ part.1 ++ ":\n" ++
      if long then HelpRow.paragraphs part.2 else HelpRow.columns part.2)

end Topic

end ApiContract.CommandLine
