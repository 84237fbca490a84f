/- The catalogue of diagnostic codes: label, default wording, help and phase of each. -/
namespace ErrorUnion

inductive Severity where
  | error
  | warning
deriving DecidableEq

inductive Phase where
  | parse
  | validate
  | resolve
  | emit
  | internal
deriving DecidableEq

inductive Code where
  | parseError
  | schemaVersionMismatch
  | invalidName
  | duplicateStructure
  | duplicateOperation
  | duplicateMember
  | reservedMemberName
  | missingFaultSide
  | retryableWithoutError
  | invalidMessageMember
  | unknownErrorRef
  | duplicateErrorRef
  | reservedVariantName
  | identifierCollision
  | snakeNameCollision
  | combinedNameCollision
  | invalidOption
  | internalBug
deriving DecidableEq

def Severity.name : Severity → String
  | error => "Error"
  | warning => "Warning"

def Phase.name : Phase → String
  | parse => "Parse"
  | validate => "Validate"
  | resolve => "Resolve"
  | emit => "Emit"
  | internal => "Internal"

namespace Code

def all : List Code :=
  [parseError, schemaVersionMismatch, invalidName, duplicateStructure, duplicateOperation,
   duplicateMember, reservedMemberName, missingFaultSide, retryableWithoutError,
   invalidMessageMember, unknownErrorRef, duplicateErrorRef, reservedVariantName,
   identifierCollision, snakeNameCollision, combinedNameCollision, invalidOption, internalBug]

/-- The short form, by which diagnostics are displayed and sorted. -/
def label : Code → String
  | parseError => "EG0001"
  | schemaVersionMismatch => "EG0002"
  | invalidName => "EG0100"
  | duplicateStructure => "EG0101"
  | duplicateOperation => "EG0102"
  | duplicateMember => "EG0103"
  | reservedMemberName => "EG0104"
  | missingFaultSide => "EG0200"
  | retryableWithoutError => "EG0201"
  | invalidMessageMember => "EG0202"
  | unknownErrorRef => "EG0300"
  | duplicateErrorRef => "EG0301"
  | reservedVariantName => "EG0400"
  | identifierCollision => "EG0401"
  | snakeNameCollision => "EG0402"
  | combinedNameCollision => "EG0403"
  | invalidOption => "EG0500"
  | internalBug => "EG0901"

/-- The long form, by which documents name a code. -/
def name : Code → String
  | parseError => "EG0001ParseError"
  | schemaVersionMismatch => "EG0002SchemaVersionMismatch"
  | invalidName => "EG0100InvalidName"
  | duplicateStructure => "EG0101DuplicateStructure"
  | duplicateOperation => "EG0102DuplicateOperation"
  | duplicateMember => "EG0103DuplicateMember"
  | reservedMemberName => "EG0104ReservedMemberName"
  | missingFaultSide => "EG0200MissingFaultSide"
  | retryableWithoutError => "EG0201RetryableWithoutError"
  | invalidMessageMember => "EG0202InvalidMessageMember"
  | unknownErrorRef => "EG0300UnknownErrorRef"
  | duplicateErrorRef => "EG0301DuplicateErrorRef"
  | reservedVariantName => "EG0400ReservedVariantName"
  | identifierCollision => "EG0401IdentifierCollision"
  | snakeNameCollision => "EG0402SnakeNameCollision"
  | combinedNameCollision => "EG0403CombinedNameCollision"
  | invalidOption => "EG0500InvalidOption"
  | internalBug => "EG0901InternalBug"

def defaultMessage : Code → String
  | parseError => "failed to parse model document"
  | schemaVersionMismatch => "unsupported model schema_version"
  | invalidName => "invalid shape, member or namespace name"
  | duplicateStructure => "structure declared more than once"
  | duplicateOperation => "operation declared more than once"
  | duplicateMember => "member declared more than once"
  | reservedMemberName => "member name is reserved by generated builders"
  | missingFaultSide => "error shape is missing its fault side"
  | retryableWithoutError => "retryable applied to a non-error structure"
  | invalidMessageMember => "message member must target String"
  | unknownErrorRef => "operation references an unknown structure"
  | duplicateErrorRef => "operation lists the same error twice"
  | reservedVariantName => "identifier collides with a reserved variant"
  | identifierCollision => "two shapes resolve to the same identifier"
  | snakeNameCollision => "two shapes resolve to the same snake_case name"
  | combinedNameCollision => "combined error name collides with another type"
  | invalidOption => "invalid generator option"
  | internalBug => "internal errgen bug"

def defaultHelp : Code → Option String
  | schemaVersionMismatch => some "Set schema_version to \"errgen.model@0.1.0\"."
  | missingFaultSide =>
    some "Add `\"error\": \"client\"` or `\"error\": \"server\"` to the structure."
  | identifierCollision =>
    some "Rename one of the shapes, or disable exception renaming with --no-rename-exceptions."
  | internalBug =>
    some "This is a bug in errgen. Please report it with the input model document."
  | _ => none

def phase : Code → Phase
  | parseError | schemaVersionMismatch => .parse
  | reservedVariantName | identifierCollision | snakeNameCollision | combinedNameCollision =>
    .resolve
  | internalBug => .internal
  | _ => .validate

def catalogue : String :=
  "# errgen diagnostics catalog\n\n"
    ++ "This document is generated from `crates/errgen-core/src/diagnostics.rs`.\n\n"
    ++ "| Code | Phase | Severity | Message | Help |\n"
    ++ "| ---- | ----- | -------- | ------- | ---- |\n"
    ++ String.join (all.map fun c =>
        "| " ++ c.label ++ " | " ++ c.phase.name ++ " | " ++ Severity.error.name ++ " | "
          ++ c.defaultMessage ++ " | " ++ c.defaultHelp.getD "" ++ " |\n")

end Code

end ErrorUnion
