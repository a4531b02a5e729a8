import TraefikUpgrade.CommandLine

/-!
Contract: what the program says about itself.

Owns: its name and release, its help, and the texts for words that make no run.
-/

set_option autoImplicit false

namespace TraefikUpgrade.Usage

open CommandLine (Place)

def programName : String := "ingress-migrate"

def release : String := "0.1.0"

def title : String := s!"{programName} {release}"

/-- The release, and the machine that it runs on. -/
def versionReport (platform : String) : String :=
  s!"{title}\nPlatform: {platform}\n"

def commonOptions : List String :=
  ["  -h, --help                       Print help",
   "      --config-file <CONFIG_FILE>  Config file path",
   "      --log-file <LOG_FILE>        Also write logs to this file (JSON)"]

def helpLines : Place → List String
  | .front =>
      ["Migrate Traefik 1.x annotated Kubernetes Ingress manifests to Traefik 2.x resources.",
       "",
       s!"Usage: {programName} [OPTIONS] <COMMAND>",
       "",
       "Commands:",
       "  ingress  Convert Traefik 1.x Ingress manifests to Traefik 2.x Ingress and Middleware",
       "  version  Print version information",
       "",
       "Options:",
       "  -V, --version                    Print version"] ++ commonOptions
  | .behind .ingress =>
      ["Convert Traefik 1.x Ingress manifests to Traefik 2.x Ingress and Middleware",
       "",
       s!"Usage: {programName} ingress [OPTIONS] --input <INPUT>",
       "",
       "Options:",
       "  -i, --input <INPUT>              Input file or directory",
       "  -o, --output <OUTPUT>            Output directory [default: " ++
         CommandLine.defaultOutput ++ "]"] ++ commonOptions
  | .behind .version =>
      ["Print version information",
       "",
       s!"Usage: {programName} version [OPTIONS]",
       "",
       "Options:"] ++ commonOptions

def help (place : Place) : String :=
  String.join ((helpLines place).map fun line => line ++ "\n")

def complaint : UsageError → String
  | .helpRequested _ => "help requested"
  | .versionRequested => "version requested"
  | .nothingGiven => "a subcommand is required"
  | .missingSubcommand => "a subcommand is required"
  | .unknownSubcommand => "unrecognized subcommand"
  | .unknownArgument => "unexpected argument"
  | .unexpectedValue => "unexpected value for an option that takes none"
  | .missingValue => "a value is required for an option but none was supplied"
  | .givenTwice => "an option cannot be used multiple times"
  | .missingRequired => "the required option --input was not provided"

end TraefikUpgrade.Usage
