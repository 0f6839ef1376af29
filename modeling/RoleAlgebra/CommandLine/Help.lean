import RoleAlgebra.Text.Terminal

/-!
What the program says about itself. The help is written for a terminal, in bold type here and there,
but what is printed is only what a terminal would show of it. This matters where the help quotes the
environment, which may hold commands to a terminal too.
-/

namespace RoleAlgebra.CommandLine

def versionText : String := "permcalc-cli 0.2.0\n"

def about : String := "CLI for comparing the permissions of Google Cloud IAM roles."

def longAbout : List String :=
  ["Compare the permissions of multiple roles in Google Cloud.",
    "The gcloud command (https://cloud.google.com/sdk/docs/install) is required",
    "for named roles.",
    "",
    "Write the comparison as a formula in the following grammar:",
    "",
    "expr = product",
    "  | expr \"+\" product  // or",
    "  | expr \"-\" product  // diff",
    "product = atom",
    "  | product \"*\" atom  // and",
    "  | product \"^\" atom  // xor",
    "atom = \"@\" NAME       // Read a role from NAME file",
    "  | NAME              // gcloud iam roles describe NAME",
    "  | \"(\" expr \")\"",
    "NAME: [a-zA-Z0-9_/.]+",
    "",
    "Examples of formulas:",
    "// Permissions of roles/browser",
    "roles/browser",
    "// Permissions included in roles/browser but not in roles/resourcemanager.folderViewer",
    "roles/browser - roles/resourcemanager.folderViewer",
    "// Permissions included in both roles/browser and roles/resourcemanager.folderViewer",
    "roles/browser * roles/resourcemanager.folderViewer",
    "",
    "Permissions are printed in sorted order. With `--out text` an empty result",
    "prints nothing, while json and yaml print `[]`.",
    "",
    "Examples of role files:",
    "// yaml",
    "name: roles/secretmanager.secretAccessor",
    "includedPermissions:",
    "- resourcemanager.projects.get",
    "- resourcemanager.projects.list",
    "- secretmanager.versions.access",
    "// json",
    "\x7b",
    "  \"name\": \"roles/secretmanager.secretAccessor\",",
    "  \"includedPermissions\": [",
    "    \"resourcemanager.projects.get\",",
    "    \"resourcemanager.projects.list\",",
    "    \"secretmanager.versions.access\"",
    "  ]",
    "\x7d",
    "// text",
    "resourcemanager.projects.get",
    "resourcemanager.projects.list",
    "secretmanager.versions.access"]

def bold (text : String) : String := "\x1b[1m" ++ text ++ "\x1b[0m"

def heading (text : String) : String := "\x1b[1m\x1b[4m" ++ text ++ "\x1b[0m"

def usage : List String :=
  ["", heading "Usage:" ++ " " ++ bold "permcalc" ++ " [OPTIONS] <EXPR>...", "",
    heading "Arguments:"]

def environmentNote (environment? : Option String) : String :=
  "[env: PERMCALC_GCLOUD=" ++ environment?.getD "" ++ "]"

/-- A text whose lines after the first are indented. -/
def hanging (indent : Nat) (text : String) : String :=
  String.ofList (text.toList.flatMap fun c =>
    if c = '\n' then c :: List.replicate indent ' ' else [c])

def shortHelp (environment? : Option String) : List String :=
  [about] ++ usage ++
    ["  <EXPR>...  The formula. Words are joined with spaces",
      "",
      heading "Options:",
      "      " ++ bold "--tree" ++ "              Only parse the formula and print its tree",
      "      " ++ bold "--debug" ++
        "             Enable debug logging, including every evaluation step",
      "  " ++ bold "-o" ++ ", " ++ bold "--out" ++
        " <OUT>         Output format [default: text] [possible values: json, yaml, text]",
      "      " ++ bold "--gcloud" ++ " <PROGRAM>  Program used to describe named roles " ++
        hanging 26 (environmentNote environment?) ++ " [default: gcloud]",
      "  " ++ bold "-h" ++ ", " ++ bold "--help" ++
        "              Print help (see more with '--help')",
      "  " ++ bold "-V" ++ ", " ++ bold "--version" ++ "           Print version"]

def longHelp (environment? : Option String) : List String :=
  longAbout ++ usage ++
    ["  <EXPR>...",
      "          The formula. Words are joined with spaces",
      "",
      heading "Options:",
      "      " ++ bold "--tree",
      "          Only parse the formula and print its tree",
      "",
      "      " ++ bold "--debug",
      "          Enable debug logging, including every evaluation step",
      "",
      "  " ++ bold "-o" ++ ", " ++ bold "--out" ++ " <OUT>",
      "          Output format",
      "",
      "          Possible values:",
      "          - " ++ bold "json" ++ ": Compact JSON array",
      "          - " ++ bold "yaml" ++ ": YAML list",
      "          - " ++ bold "text" ++ ": One permission per line. An empty set prints nothing",
      "          ",
      "          [default: text]",
      "",
      "      " ++ bold "--gcloud" ++ " <PROGRAM>",
      "          Program used to describe named roles",
      "          ",
      "          " ++ hanging 10 (environmentNote environment?),
      "          [default: gcloud]",
      "",
      "  " ++ bold "-h" ++ ", " ++ bold "--help",
      "          Print help (see a summary with '-h')",
      "",
      "  " ++ bold "-V" ++ ", " ++ bold "--version",
      "          Print version"]

def styledHelp (long : Bool) (environment? : Option String) : String :=
  "\n".intercalate (if long then longHelp environment? else shortHelp environment?) ++ "\n"

def helpText (long : Bool) (environment? : Option String) : String :=
  Text.Terminal.shown .forgotten (styledHelp long environment?)

def printedHelp (long : Bool) (environment? : Option String) : String :=
  Text.Terminal.shown .resumed (styledHelp long environment?)

end RoleAlgebra.CommandLine
