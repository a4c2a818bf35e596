/-
# Help and version

The texts that are printed when they are asked for.
-/

import AvailabilityAnnotations.CommandLine.Arguments

namespace AvailabilityAnnotations

namespace CommandLine

namespace Page

def text : Page → String
  | help =>
      "Expand availability macros.\n" ++
      "\n" ++
      "Run from the package root. Rewrites `/*System X.Y.Z*/` annotations in `Sources/` " ++
      "and `Tests/` in place.\n" ++
      "\n" ++
      "Usage: expand-availability [OPTIONS]\n" ++
      "\n" ++
      "Options:\n" ++
      "      --attributes\n" ++
      "          Add @available attributes\n" ++
      "\n" ++
      "  -C, --directory <DIRECTORY>\n" ++
      "          Package root directory\n" ++
      "          \n" ++
      "          [default: .]\n" ++
      "\n" ++
      "      --dry-run\n" ++
      "          Print the changes as diffs without writing files\n" ++
      "\n" ++
      "      --json\n" ++
      "          Output the run summary as JSON\n" ++
      "\n" ++
      "  -v, --verbose\n" ++
      "          Verbose output\n" ++
      "\n" ++
      "  -h, --help\n" ++
      "          Print help (see a summary with '-h')\n" ++
      "\n" ++
      "  -V, --version\n" ++
      "          Print version\n"
  | briefHelp =>
      "Expand availability macros\n" ++
      "\n" ++
      "Usage: expand-availability [OPTIONS]\n" ++
      "\n" ++
      "Options:\n" ++
      "      --attributes             Add @available attributes\n" ++
      "  -C, --directory <DIRECTORY>  Package root directory [default: .]\n" ++
      "      --dry-run                Print the changes as diffs without writing files\n" ++
      "      --json                   Output the run summary as JSON\n" ++
      "  -v, --verbose                Verbose output\n" ++
      "  -h, --help                   Print help (see more with '--help')\n" ++
      "  -V, --version                Print version\n"
  | version => "expand-availability 0.1.0\n"

end Page

end CommandLine

end AvailabilityAnnotations
