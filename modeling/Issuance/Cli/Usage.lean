/-! # Help

    What is shown to those who ask for it, and to those whose command line makes no sense. -/

namespace Issuance.Cli

/-- The commands and their options. -/
def usage : String :=
  "Render verifiable-credential templates into credential JSON\n\n" ++
  "Usage: credgen [-v] <command> [options]\n\n" ++
  "Commands:\n" ++
  "  render   Render a credential from a template and field values\n" ++
  "  fill     Interactively fill a template's fields and render the credential\n" ++
  "  fields   Print a template's field schema as JSON\n" ++
  "  presets  List built-in presets\n" ++
  "  example  Generate an example template file\n" ++
  "  help     Print this message\n\n" ++
  "Options of render, fill and fields, of which one has to be given:\n" ++
  "  -t, --template <path>    Template file (.json: object, .wpt: directives, else sections)\n" ++
  "  -p, --preset <key>       Built-in preset\n\n" ++
  "Options of render and fill:\n" ++
  "      --org-did <did>      Issuer DID [environment: CREDGEN_ORG_DID]\n" ++
  "  -o, --output <path>      Output file (standard output if omitted)\n\n" ++
  "Options of render:\n" ++
  "  -f, --field <key=value>  Field value, as often as needed\n" ++
  "      --form <path>        JSON file with an object of field values\n" ++
  "      --escape             Escape field values for JSON strings\n\n" ++
  "Options of example:\n" ++
  "  -o, --output <path>      File to write [default: student_card.wpml]\n" ++
  "      --object             Write the object format\n\n" ++
  "Options of every command:\n" ++
  "  -v, --verbose            Report in detail\n" ++
  "  -h, --help               Print this message\n"

end Issuance.Cli
