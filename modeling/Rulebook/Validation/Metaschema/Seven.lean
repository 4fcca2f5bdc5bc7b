import Rulebook.Validation.Metaschema.Shorthand

/-!
The schema of schemas of version 7.
-/

namespace Rulebook
namespace Metaschema

def seven : Json :=
  .object [
    ("$schema", .string (Draft.seven.identifier ++ "#")),
    ("$id", .string (Draft.seven.identifier ++ "#")),
    ("title", .string "Core schema meta-schema"),
    ("definitions", .object [
      ("schemaArray", .object [
        ("type", .string "array"),
        ("minItems", .ofCount 1),
        ("items", refTo "#")]),
      ("nonNegativeInteger", .object [("type", .string "integer"), ("minimum", .ofCount 0)]),
      ("nonNegativeIntegerDefault0", .object [
        ("allOf", .array [
          refTo "#/definitions/nonNegativeInteger",
          .object [("default", .ofCount 0)]])]),
      ("simpleTypes", .object [
        ("enum", texts ["array", "boolean", "integer", "null", "number", "object", "string"])]),
      ("stringArray", .object [
        ("type", .string "array"),
        ("items", typed "string"),
        ("uniqueItems", .bool true),
        ("default", .array [])])]),
    ("type", texts ["object", "boolean"]),
    ("properties", .object [
      ("$id", .object [("type", .string "string"), ("format", .string "uri-reference")]),
      ("$schema", .object [("type", .string "string"), ("format", .string "uri")]),
      ("$ref", .object [("type", .string "string"), ("format", .string "uri-reference")]),
      ("$comment", typed "string"),
      ("title", typed "string"),
      ("description", typed "string"),
      ("default", .bool true),
      ("readOnly", .object [("type", .string "boolean"), ("default", .bool false)]),
      ("examples", .object [("type", .string "array"), ("items", .bool true)]),
      ("multipleOf", .object [("type", .string "number"), ("exclusiveMinimum", .ofCount 0)]),
      ("maximum", typed "number"),
      ("exclusiveMaximum", typed "number"),
      ("minimum", typed "number"),
      ("exclusiveMinimum", typed "number"),
      ("maxLength", refTo "#/definitions/nonNegativeInteger"),
      ("minLength", refTo "#/definitions/nonNegativeIntegerDefault0"),
      ("pattern", .object [("type", .string "string"), ("format", .string "regex")]),
      ("additionalItems", refTo "#"),
      ("items", .object [
        ("anyOf", .array [refTo "#", refTo "#/definitions/schemaArray"]),
        ("default", .bool true)]),
      ("maxItems", refTo "#/definitions/nonNegativeInteger"),
      ("minItems", refTo "#/definitions/nonNegativeIntegerDefault0"),
      ("uniqueItems", .object [("type", .string "boolean"), ("default", .bool false)]),
      ("contains", refTo "#"),
      ("maxProperties", refTo "#/definitions/nonNegativeInteger"),
      ("minProperties", refTo "#/definitions/nonNegativeIntegerDefault0"),
      ("required", refTo "#/definitions/stringArray"),
      ("additionalProperties", refTo "#"),
      ("definitions", .object [
        ("type", .string "object"),
        ("additionalProperties", refTo "#"),
        ("default", .object [])]),
      ("properties", .object [
        ("type", .string "object"),
        ("additionalProperties", refTo "#"),
        ("default", .object [])]),
      ("patternProperties", .object [
        ("type", .string "object"),
        ("additionalProperties", refTo "#"),
        ("propertyNames", .object [("format", .string "regex")]),
        ("default", .object [])]),
      ("dependencies", .object [
        ("type", .string "object"),
        ("additionalProperties", .object [
          ("anyOf", .array [refTo "#", refTo "#/definitions/stringArray"])])]),
      ("propertyNames", refTo "#"),
      ("const", .bool true),
      ("enum", .object [("type", .string "array"), ("items", .bool true)]),
      ("type", .object [
        ("anyOf", .array [
          refTo "#/definitions/simpleTypes",
          .object [
            ("type", .string "array"),
            ("items", refTo "#/definitions/simpleTypes"),
            ("minItems", .ofCount 1),
            ("uniqueItems", .bool true)]])]),
      ("format", typed "string"),
      ("contentMediaType", typed "string"),
      ("contentEncoding", typed "string"),
      ("if", refTo "#"),
      ("then", refTo "#"),
      ("else", refTo "#"),
      ("allOf", refTo "#/definitions/schemaArray"),
      ("anyOf", refTo "#/definitions/schemaArray"),
      ("oneOf", refTo "#/definitions/schemaArray"),
      ("not", refTo "#")]),
    ("default", .bool true)]

end Metaschema
end Rulebook
