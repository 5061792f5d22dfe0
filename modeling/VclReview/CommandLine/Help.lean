/-
  VclReview/CommandLine/Help.lean
  ===============================
  **The help text**, and the usage lines that open it.
-/
import VclReview.Text.Basic

namespace VclReview.CommandLine

def programName : Text := "vclscan"

/-- How the program is called. -/
def usage : List Text := List.map String.toList
  ["usage: vclscan [-h] [--line-numbers] [--out OUT] [--no-audit] [--verbose]",
   "               [--include INCLUDE] [--exclude EXCLUDE]",
   "               [--max-file-size MAX_FILE_SIZE] [--no-progress]",
   "               [--admin-host ADMIN_HOST] [--admin-port ADMIN_PORT]",
   "               [--secret-file SECRET_FILE] [--varnishadm VARNISHADM]",
   "               [--admin-timeout ADMIN_TIMEOUT]",
   "               [path]"]

/-- What the program is for and what its options mean. -/
def explanation : List Text := List.map String.toList
  ["",
   "Annotate a Varnish VCL file line by line and audit the live instance's active",
   "configuration.",
   "",
   "positional arguments:",
   "  path                  VCL file to analyze, or a directory to scan",
   "                        recursively.",
   "",
   "options:",
   "  -h, --help            show this help message and exit",
   "  --line-numbers        Prefix each annotation with its file and line number.",
   "  --out OUT             Also write JSON/Markdown reports to this directory.",
   "  --no-audit            Skip the live header audit.",
   "  --verbose             Enable verbose logging output.",
   "",
   "directory scans:",
   "  --include INCLUDE     Glob(s) to include, comma-separated.",
   "  --exclude EXCLUDE     Dir names to exclude, comma-separated.",
   "  --max-file-size MAX_FILE_SIZE",
   "                        Max file size in bytes to parse (default 5MB).",
   "  --no-progress         Disable the progress bar during directory scans.",
   "",
   "header audit:",
   "  --admin-host ADMIN_HOST",
   "                        Varnish management interface host.",
   "  --admin-port ADMIN_PORT",
   "                        Varnish management interface port.",
   "  --secret-file SECRET_FILE",
   "                        Shared secret file passed to varnishadm -S.",
   "  --varnishadm VARNISHADM",
   "                        varnishadm executable to run.",
   "  --admin-timeout ADMIN_TIMEOUT",
   "                        Seconds to wait for varnishadm."]

/-- The whole help text. -/
def help : List Text := usage ++ explanation

end VclReview.CommandLine
