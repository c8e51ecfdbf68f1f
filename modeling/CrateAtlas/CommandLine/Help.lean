/-!
# Help

The text that explains how the program is called.
-/

set_option autoImplicit false

namespace CrateAtlas.Help

/-- Lines with a line feed after each. -/
def unlines (lines : List String) : String := String.join (lines.map (· ++ "\n"))

/-- How the program is called, in short. -/
def usage : String := unlines [
  "usage: dgmod [-h] [-o OUTPUT] [-f \x7bmermaid,json,ascii\x7d]",
  "             [--orientation \x7bTD,TB,LR,RL,BT\x7d] [--dashed-imports]",
  "             [--ascii-style \x7btree,ascii\x7d] [--exclude-tests]",
  "             [--exclude PATTERN [PATTERN ...]] [--config CONFIG] [-v]",
  "             [root]"]

/-- How the program is called, at length. -/
def text : String := usage ++ unlines [
  "",
  "Generate Mermaid diagrams of Rust module dependencies.",
  "",
  "positional arguments:",
  "  root                  Path to the Rust crate or workspace to analyze",
  "                        (default: current directory)",
  "",
  "options:",
  "  -h, --help            show this help message and exit",
  "  -o OUTPUT, --output OUTPUT",
  "                        Output file (default: stdout)",
  "  -f \x7bmermaid,json,ascii\x7d, --format \x7bmermaid,json,ascii\x7d",
  "                        Output format (default: mermaid)",
  "  --orientation \x7bTD,TB,LR,RL,BT\x7d",
  "                        Mermaid flowchart orientation (default: TD)",
  "  --dashed-imports      Draw edges created by use statements as dashed arrows",
  "  --ascii-style \x7btree,ascii\x7d",
  "                        ASCII output style: 'tree' (Unicode) or 'ascii' (pure",
  "                        ASCII)",
  "  --exclude-tests       Exclude `tests` modules from the output",
  "  --exclude PATTERN [PATTERN ...]",
  "                        Module path patterns to exclude (e.g., 'tests'",
  "                        '*::tests')",
  "  --config CONFIG       Configuration file (default: dgmod.yaml or Cargo.toml",
  "                        metadata in the root)",
  "  -v, --verbose         Log progress to stderr",
  "",
  "Examples:",
  "  dgmod                              # Analyze the crate or workspace in the current directory",
  "  dgmod path/to/crate -o modules.md  # Write the Markdown/Mermaid output to a file",
  "  dgmod . --exclude-tests            # Leave out `tests` modules",
  "  dgmod . --exclude 'legacy*'        # Leave out modules matching a pattern",
  "  dgmod . -f json                    # JSON output",
  "  dgmod . -f ascii --ascii-style=ascii  # Pure ASCII module tree",
  "        "]

end CrateAtlas.Help
