import Rulebook.Validation.Metaschema.Shorthand

/-!
The schema of schemas of version 4.
-/

namespace Rulebook
namespace Metaschema

def four : Json :=
  .object [
    ("id", .string (Draft.four.identifier ++ "#")),
    ("$schema", .string (Draft.four.identifier ++ "#")),
    ("description", .string "Core schema meta-schema"),
    ("definitions", .object [
      ("schemaArray", .object [
        ("type", .string "array"),
        ("minItems", .ofCount 1),
        ("items", refTo "#")]),
      ("positiveInteger", .object [("type", .string "integer"), ("minimum", .ofCount 0)]),
      ("positiveIntegerDefault0", .object [
        ("allOf", .array [
          refTo "#/definitions/positiveInteger",
          .object [("default", .ofCount 0)]])]),
      ("simpleTypes", .object [
        ("enum", texts ["array", "boolean", "integer", "null", "number", "object", "string"])]),
      ("stringArray", .object [
        ("type", .string "array"),
        ("items", typed "string"),
        ("minItems", .ofCount 1),
        ("uniqueItems", .bool true)])]),
    ("type", .string "object"),
    ("properties", .object [
      ("id", typed "string"),
      ("$schema", typed "string"),
      ("title", typed "string"),
      ("description", typed "string"),
      ("default", .object []),
      ("multipleOf", .object [
        ("type", .string "number"),
        ("minimum", .ofCount 0),
        ("exclusiveMinimum", .bool true)]),
      ("maximum", typed "number"),
      ("exclusiveMaximum", typed "boolean"),
      ("minimum", typed "number"),
      ("exclusiveMinimum", typed "boolean"),
      ("maxLength", refTo "#/definitions/positiveInteger"),
      ("minLength", refTo "#/definitions/positiveIntegerDefault0"),
      ("pattern", .object [("type", .string "string"), ("format", .string "regex")]),
      ("additionalItems", .object [
        ("anyOf", .array [typed "boolean", refTo "#"]),
        ("default", .object [])]),
      ("items", .object [
        ("anyOf", .array [refTo "#", refTo "#/definitions/schemaArray"]),
        ("default", .object [])]),
      ("maxItems", refTo "#/definitions/positiveInteger"),
      ("minItems", refTo "#/definitions/positiveIntegerDefault0"),
      ("uniqueItems", .object [("type", .string "boolean"), ("default", .bool false)]),
      ("maxProperties", refTo "#/definitions/positiveInteger"),
      ("minProperties", refTo "#/definitions/positiveIntegerDefault0"),
      ("required", refTo "#/definitions/stringArray"),
      ("additionalProperties", .object [
        ("anyOf", .array [typed "boolean", refTo "#"]),
        ("default", .object [])]),
      ("definitions", .object [
        ("type", .string "object"),
        ("additionalProperties", refTo "#"),
        ("default", .object [])]),
      ("properties", .object [
        ("type", .string "object"),
        ("additionalProperties", refTo "#"),
        ("default", .object [])]),
      ("patternProperties", .object [
        ("type", .string "object"),
        ("additionalProperties", refTo "#"),
        ("default", .object [])]),
      ("dependencies", .object [
        ("type", .string "object"),
        ("additionalProperties", .object [
          ("anyOf", .array [refTo "#", refTo "#/definitions/stringArray"])])]),
      ("enum", .object [
        ("type", .string "array"),
        ("minItems", .ofCount 1),
        ("uniqueItems", .bool true)]),
      ("type", .object [
        ("anyOf", .array [
          refTo "#/definitions/simpleTypes",
          .object [
            ("type", .string "array"),
            ("items", refTo "#/definitions/simpleTypes"),
            ("minItems", .ofCount 1),
            ("uniqueItems", .bool true)]])]),
      ("format", typed "string"),
      ("allOf", refTo "#/definitions/schemaArray"),
      ("anyOf", refTo "#/definitions/schemaArray"),
      ("oneOf", refTo "#/definitions/schemaArray"),
      ("not", refTo "#")]),
    ("dependencies", .object [
      ("exclusiveMaximum", texts ["maximum"]),
      ("exclusiveMinimum", texts ["minimum"])]),
    ("default", .object [])]

end Metaschema
end Rulebook
