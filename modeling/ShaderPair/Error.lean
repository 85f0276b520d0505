import ShaderPair.Text.Basic

/-! What can go wrong while a shader is converted. Each cause ends the conversion. -/

namespace ShaderPair

inductive ShaderError where
  /-- The header is missing, not a comment block, or has a broken variable line. -/
  | malformedHeader (detail : Text)
  | missingDirective (directive : Text)
  /-- The header has no entry for a declared name. -/
  | unmappedIdentifier (name : Text)
  /-- An attribute stands for something that is not a hidden vertex input. -/
  | unexpectedNamespace (name mapped : Text)
  | multipleClipAssignment (count : Nat)
  | unterminatedClipAssignment
  /-- The compiler used an input that was hidden from it. -/
  | internalConsistency (detail : Text)
  | externalTool (detail : Text)
  deriving DecidableEq, Repr

def ShaderError.message : ShaderError → Text
  | malformedHeader detail => "Malformed compiler header: " ++ detail
  | missingDirective directive => "Malformed shader source: missing '#o3d " ++ directive ++ "' directive"
  | unmappedIdentifier name =>
    "Unmapped identifier: '" ++ name ++ "' has no entry in the compiler header"
  | unexpectedNamespace name mapped =>
    "Unexpected namespace: attribute '" ++ name ++ "' maps to '" ++ mapped ++
      "', expected one of $vin.attr8..$vin.attr12"
  | multipleClipAssignment count =>
    "Multiple clip assignments: gl_Position appears " ++ Text.decimal count ++
      " times, exactly one assignment is supported"
  | unterminatedClipAssignment =>
    "Malformed clip assignment: gl_Position statement is not terminated by ';'"
  | internalConsistency detail => "Internal consistency error: " ++ detail
  | externalTool detail => "External tool error: " ++ detail

end ShaderPair
