import Docblock.CommandLine.Arguments
import Docblock.CommandLine.Version
import Docblock.Text.Quoted

namespace Docblock.CommandLine

def programName : Text :=
  "docconv".toList

def unlines (lines : List String) : Text :=
  lines.flatMap fun line => line.toList ++ ['\n']

def usageText : Text :=
  unlines
    ["usage: docconv [-h] [-v] [--config PATH] [--report] [--verbose]",
      "               source destination"]

def helpText : Text :=
  usageText ++ unlines
    ["",
      "Rewrite \x7b@@ ... \x7d documentation blocks as /// <summary>/<param>/<returns>",
      "comments",
      "",
      "positional arguments:",
      "  source         source text file",
      "  destination    destination text file (created or overwritten)",
      "",
      "options:",
      "  -h, --help     show this help message and exit",
      "  -v, --version  show program's version number and exit",
      "  --config PATH  YAML file overriding markers, sentinels, tags and policies",
      "  --report       print a JSON report of the run to stdout",
      "  --verbose      debug logging to stderr"]

def versionText : Text :=
  programName ++ " 0.1.0\n".toList

def UsageError.message : UsageError → Text
  | .ambiguous argument candidates =>
      "ambiguous option: ".toList ++ argument ++ " could match ".toList ++
        Text.join ", ".toList candidates
  | .missingValue flag => "argument ".toList ++ flag.title ++ ": expected one argument".toList
  | .ignoredValue flag value =>
      "argument ".toList ++ flag.title ++ ": ignored explicit argument ".toList ++ value.quoted
  | .required names =>
      "the following arguments are required: ".toList ++ Text.join ", ".toList names
  | .unrecognized arguments => "unrecognized arguments: ".toList ++ Text.join [' '] arguments

def UsageError.text (error : UsageError) : Text :=
  usageText ++ programName ++ ": error: ".toList ++ error.message ++ ['\n']

end Docblock.CommandLine
