import Rulebook.Validation.Metaschema.Shorthand

/-!
The schema of schemas of version 6.
-/

namespace Rulebook
namespace Metaschema

def six : Json :=
  .object [
    ("$schema", .string (Draft.six.identifier ++ "#")),
    ("$id", .string (Draft.six.identifier ++ "#")),
    ("title", .string "Core schema meta-schema"),
    ("definitions", .object [
      ("schemaArray", .object [
        ("type", .string "array"),
        ("minItems", .ofCount 1),
        ("items", refTo "#")]),
      ("nonNegativeInteger", .object [("type", .string "integer"), ("minimum", .ofCount 0)]),
      ("nonNegativeIntegerDefault0", .object [
        ("allOf", .array [
          refTo "#/definitions/nonNegativeInteger",
          .object [("default", .ofCount 0)]])]),
      ("simpleTypes", .object [
        ("enum", texts ["array", "boolean", "integer", "null", "number", "object", "string"])]),
      ("stringArray", .object [
        ("type", .string "array"),
        ("items", typed "string"),
        ("uniqueItems", .bool true),
        ("default", .array [])])]),
    ("type", texts ["object", "boolean"]),
    ("properties", .object [
      ("$id", .object [("type", .string "string"), ("format", .string "uri-reference")]),
      ("$schema", .object [("type", .string "string"), ("format", .string "uri")]),
      ("$ref", .object [("type", .string "string"), ("format", .string "uri-reference")]),
      ("title", typed "string"),
      ("description", typed "string"),
      ("default", .object []),
      ("examples", .object [("type", .string "array"), ("items", .object [])]),
      ("multipleOf", .object [("type", .string "number"), ("exclusiveMinimum", .ofCount 0)]),
      ("maximum", typed "number"),
      ("exclusiveMaximum", typed "number"),
      ("minimum", typed "number"),
      ("exclusiveMinimum", typed "number"),
      ("maxLength", refTo "#/definitions/nonNegativeInteger"),
      ("minLength", refTo "#/definitions/nonNegativeIntegerDefault0"),
      ("pattern", .object [("type", .string "string"), ("format", .string "regex")]),
      ("additionalItems", refTo "#"),
      ("items", .object [
        ("anyOf", .array [refTo "#", refTo "#/definitions/schemaArray"]),
        ("default", .object [])]),
      ("maxItems", refTo "#/definitions/nonNegativeInteger"),
      ("minItems", refTo "#/definitions/nonNegativeIntegerDefault0"),
      ("uniqueItems", .object [("type", .string "boolean"), ("default", .bool false)]),
      ("contains", refTo "#"),
      ("maxProperties", refTo "#/definitions/nonNegativeInteger"),
      ("minProperties", refTo "#/definitions/nonNegativeIntegerDefault0"),
      ("required", refTo "#/definitions/stringArray"),
      ("additionalProperties", refTo "#"),
      ("definitions", .object [
        ("type", .string "object"),
        ("additionalProperties", refTo "#"),
        ("default", .object [])]),
      ("properties", .object [
        ("type", .string "object"),
        ("additionalProperties", refTo "#"),
        ("default", .object [])]),
      ("patternProperties", .object [
        ("type", .string "object"),
        ("additionalProperties", refTo "#"),
        ("default", .object [])]),
      ("dependencies", .object [
        ("type", .string "object"),
        ("additionalProperties", .object [
          ("anyOf", .array [refTo "#", refTo "#/definitions/stringArray"])])]),
      ("propertyNames", refTo "#"),
      ("const", .object []),
      ("enum", .object [
        ("type", .string "array"),
        ("minItems", .ofCount 1),
        ("uniqueItems", .bool true)]),
      ("type", .object [
        ("anyOf", .array [
          refTo "#/definitions/simpleTypes",
          .object [
            ("type", .string "array"),
            ("items", refTo "#/definitions/simpleTypes"),
            ("minItems", .ofCount 1),
            ("uniqueItems", .bool true)]])]),
      ("format", typed "string"),
      ("allOf", refTo "#/definitions/schemaArray"),
      ("anyOf", refTo "#/definitions/schemaArray"),
      ("oneOf", refTo "#/definitions/schemaArray"),
      ("not", refTo "#")]),
    ("default", .object [])]

end Metaschema
end Rulebook
