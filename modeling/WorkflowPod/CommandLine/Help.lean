/-! What the program says about itself. -/
namespace WorkflowPod.CommandLine

inductive Topic where
  | program
  /-- The controller in brief. -/
  | controllerBrief
  | controller
  | help
  deriving DecidableEq, Repr

def programUsage : String := "flowpod [OPTIONS] [COMMAND]"

def controllerUsage : String := "flowpod controller"

def helpUsage : String := "flowpod help [COMMAND]..."

def version : String := "flowpod 0.1.0"

def Topic.lines : Topic → List String
  | program =>
    ["Kubernetes operator running flowpod Workflows as pods",
      "",
      "Usage: " ++ programUsage,
      "",
      "Commands:",
      "  controller  Run the Workflow controller (default mode)",
      "  help        Print this message or the help of the given subcommand(s)",
      "",
      "Options:",
      "      --crd      Print the Workflow CRD manifest and exit",
      "  -h, --help     Print help",
      "  -V, --version  Print version"]
  | controllerBrief =>
    ["Run the Workflow controller (default mode)",
      "",
      "Usage: " ++ controllerUsage,
      "",
      "Options:",
      "  -h, --help  Print help (see more with '--help')"]
  | controller =>
    ["Run the Workflow controller (default mode)",
      "",
      "Watches Workflow objects in every namespace and creates one pod per pending Workflow, " ++
        "together with the ConfigMap holding its rendered configuration.",
      "",
      "Usage: " ++ controllerUsage,
      "",
      "Options:",
      "  -h, --help",
      "          Print help (see a summary with '-h')"]
  | help =>
    ["Print this message or the help of the given subcommand(s)",
      "",
      "Usage: " ++ helpUsage,
      "",
      "Arguments:",
      "  [COMMAND]...  Print help for the subcommand(s)"]

end WorkflowPod.CommandLine
