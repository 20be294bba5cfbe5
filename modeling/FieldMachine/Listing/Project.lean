import FieldMachine.Listing
import FieldMachine.Yaml

/-!
# Listing projects

A listing is kept in three files: the instructions and the header as YAML
documents, and a project file that names the two.
-/

namespace FieldMachine.Listing

set_option autoImplicit false

/-! ## Documents -/

/-- Operand bytes as the listing writes them. -/
def operandText (operands : List UInt8) : String :=
  " ".intercalate (operands.map fun byte => Numeral.hexUpper 2 byte.toNat)

/-- An instruction as a document; a target stands only where there is one. -/
def instructionYaml (listed : ListedInstruction) : Yaml :=
  .mapping ([
    ("address", .natural listed.address),
    ("mnemonic", .scalar listed.mnemonic),
    ("operands", .scalar (operandText listed.operands))]
    ++ listed.target.toList.map fun target => ("target", .natural target))

/-- A script as a document. -/
def scriptYaml (listed : ListedScript) : Yaml :=
  .mapping [
    ("slot", .natural listed.slot),
    ("offset", .natural listed.offset),
    ("insts", .sequence (listed.instructions.map instructionYaml))]

/-- An entity as a document. -/
def entityYaml (listed : ListedEntity) : Yaml :=
  .mapping [
    ("index", .natural listed.index),
    ("name", .scalar listed.name),
    ("scripts", .sequence (listed.scripts.map scriptYaml))]

/-- The header as a document. -/
def headerYaml (header : ListingHeader) : Yaml :=
  .mapping [
    ("field", .scalar header.field),
    ("creator", .scalar header.creator),
    ("version", .natural header.version.toNat),
    ("scale", .natural header.scale.toNat),
    ("model_count", .natural header.modelCount.toNat),
    ("texts", .sequence (header.texts.map .scalar))]

/-! ## Files -/

/-- The name of the file with the instructions. -/
def instructionFile : String := "disassembly.yaml"

/-- The name of the file with the header. -/
def headerFile : String := "header.yaml"

/-- The name of the project file. -/
def projectFile : String := "project.toml"

/-- The text of the project file. -/
def projectText : String :=
  "header_file = \"" ++ headerFile ++ "\"\ndisassembly_file = \"" ++ instructionFile ++ "\"\n"

/-- The files of the listing of a section, with their texts. -/
def files (source : Section) : List (String × String) :=
  [(instructionFile, Yaml.document (.sequence ((entities source).1.map entityYaml))),
    (headerFile, Yaml.document (headerYaml (header source))),
    (projectFile, projectText)]

end FieldMachine.Listing
