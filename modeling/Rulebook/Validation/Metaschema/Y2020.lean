import Rulebook.Validation.Metaschema.Shorthand

/-!
The schemas of schemas of version 2020-12, one for each group of keywords.
-/

namespace Rulebook
namespace Metaschema

namespace Y2020

def anySchema : Json := .object [("$dynamicRef", .string "#meta")]

/-- Schemas of the version, which all groups of keywords together describe. -/
def root : Json :=
  .object [
    ("$schema", .string Draft.y2020.identifier),
    ("$id", .string Draft.y2020.identifier),
    ("$dynamicAnchor", .string "meta"),
    ("title", .string "Core and Validation specifications meta-schema"),
    ("allOf", .array [
      refTo "meta/core",
      refTo "meta/applicator",
      refTo "meta/unevaluated",
      refTo "meta/validation",
      refTo "meta/meta-data",
      refTo "meta/format-annotation",
      refTo "meta/content"]),
    ("type", texts ["object", "boolean"]),
    ("properties", .object [
      ("definitions", .object [
        ("type", .string "object"),
        ("additionalProperties", anySchema),
        ("default", .object []),
        ("deprecated", .bool true)]),
      ("dependencies", .object [
        ("type", .string "object"),
        ("additionalProperties", .object [
          ("anyOf", .array [anySchema, refTo "meta/validation#/$defs/stringArray"])]),
        ("deprecated", .bool true),
        ("default", .object [])]),
      ("$recursiveAnchor", .object [
        ("$ref", .string "meta/core#/$defs/anchorString"),
        ("deprecated", .bool true)]),
      ("$recursiveRef", .object [
        ("$ref", .string "meta/core#/$defs/uriReferenceString"),
        ("deprecated", .bool true)])])]

def core : Json :=
  .object [
    ("$schema", .string Draft.y2020.identifier),
    ("$id", .string (Draft.y2020.directory ++ "meta/core")),
    ("$dynamicAnchor", .string "meta"),
    ("title", .string "Core vocabulary meta-schema"),
    ("type", texts ["object", "boolean"]),
    ("properties", .object [
      ("$id", .object [
        ("$ref", .string "#/$defs/uriReferenceString"),
        ("$comment", .string "Non-empty fragments not allowed."),
        ("pattern", .string "^[^#]*#?$")]),
      ("$schema", refTo "#/$defs/uriString"),
      ("$ref", refTo "#/$defs/uriReferenceString"),
      ("$anchor", refTo "#/$defs/anchorString"),
      ("$dynamicRef", refTo "#/$defs/uriReferenceString"),
      ("$dynamicAnchor", refTo "#/$defs/anchorString"),
      ("$vocabulary", .object [
        ("type", .string "object"),
        ("propertyNames", refTo "#/$defs/uriString"),
        ("additionalProperties", typed "boolean")]),
      ("$comment", typed "string"),
      ("$defs", .object [("type", .string "object"), ("additionalProperties", anySchema)])]),
    ("$defs", .object [
      ("anchorString", .object [
        ("type", .string "string"),
        ("pattern", .string "^[A-Za-z_][-A-Za-z0-9._]*$")]),
      ("uriString", .object [("type", .string "string"), ("format", .string "uri")]),
      ("uriReferenceString", .object [
        ("type", .string "string"),
        ("format", .string "uri-reference")])])]

def applicator : Json :=
  .object [
    ("$schema", .string Draft.y2020.identifier),
    ("$id", .string (Draft.y2020.directory ++ "meta/applicator")),
    ("$dynamicAnchor", .string "meta"),
    ("title", .string "Applicator vocabulary meta-schema"),
    ("type", texts ["object", "boolean"]),
    ("properties", .object [
      ("prefixItems", refTo "#/$defs/schemaArray"),
      ("items", anySchema),
      ("contains", anySchema),
      ("additionalProperties", anySchema),
      ("properties", .object [
        ("type", .string "object"),
        ("additionalProperties", anySchema),
        ("default", .object [])]),
      ("patternProperties", .object [
        ("type", .string "object"),
        ("additionalProperties", anySchema),
        ("propertyNames", .object [("format", .string "regex")]),
        ("default", .object [])]),
      ("dependentSchemas", .object [
        ("type", .string "object"),
        ("additionalProperties", anySchema),
        ("default", .object [])]),
      ("propertyNames", anySchema),
      ("if", anySchema),
      ("then", anySchema),
      ("else", anySchema),
      ("allOf", refTo "#/$defs/schemaArray"),
      ("anyOf", refTo "#/$defs/schemaArray"),
      ("oneOf", refTo "#/$defs/schemaArray"),
      ("not", anySchema)]),
    ("$defs", .object [
      ("schemaArray", .object [
        ("type", .string "array"),
        ("minItems", .ofCount 1),
        ("items", anySchema)])])]

def unevaluated : Json :=
  .object [
    ("$schema", .string Draft.y2020.identifier),
    ("$id", .string (Draft.y2020.directory ++ "meta/unevaluated")),
    ("$dynamicAnchor", .string "meta"),
    ("title", .string "Unevaluated applicator vocabulary meta-schema"),
    ("type", texts ["object", "boolean"]),
    ("properties", .object [
      ("unevaluatedItems", anySchema),
      ("unevaluatedProperties", anySchema)])]

def validation : Json :=
  .object [
    ("$schema", .string Draft.y2020.identifier),
    ("$id", .string (Draft.y2020.directory ++ "meta/validation")),
    ("$dynamicAnchor", .string "meta"),
    ("title", .string "Validation vocabulary meta-schema"),
    ("type", texts ["object", "boolean"]),
    ("properties", .object [
      ("type", .object [
        ("anyOf", .array [
          refTo "#/$defs/simpleTypes",
          .object [
            ("type", .string "array"),
            ("items", refTo "#/$defs/simpleTypes"),
            ("minItems", .ofCount 1),
            ("uniqueItems", .bool true)]])]),
      ("const", .bool true),
      ("enum", .object [("type", .string "array"), ("items", .bool true)]),
      ("multipleOf", .object [("type", .string "number"), ("exclusiveMinimum", .ofCount 0)]),
      ("maximum", typed "number"),
      ("exclusiveMaximum", typed "number"),
      ("minimum", typed "number"),
      ("exclusiveMinimum", typed "number"),
      ("maxLength", refTo "#/$defs/nonNegativeInteger"),
      ("minLength", refTo "#/$defs/nonNegativeIntegerDefault0"),
      ("pattern", .object [("type", .string "string"), ("format", .string "regex")]),
      ("maxItems", refTo "#/$defs/nonNegativeInteger"),
      ("minItems", refTo "#/$defs/nonNegativeIntegerDefault0"),
      ("uniqueItems", .object [("type", .string "boolean"), ("default", .bool false)]),
      ("maxContains", refTo "#/$defs/nonNegativeInteger"),
      ("minContains", .object [
        ("$ref", .string "#/$defs/nonNegativeInteger"),
        ("default", .ofCount 1)]),
      ("maxProperties", refTo "#/$defs/nonNegativeInteger"),
      ("minProperties", refTo "#/$defs/nonNegativeIntegerDefault0"),
      ("required", refTo "#/$defs/stringArray"),
      ("dependentRequired", .object [
        ("type", .string "object"),
        ("additionalProperties", refTo "#/$defs/stringArray")])]),
    ("$defs", .object [
      ("nonNegativeInteger", .object [("type", .string "integer"), ("minimum", .ofCount 0)]),
      ("nonNegativeIntegerDefault0", .object [
        ("$ref", .string "#/$defs/nonNegativeInteger"),
        ("default", .ofCount 0)]),
      ("simpleTypes", .object [
        ("enum", texts ["array", "boolean", "integer", "null", "number", "object", "string"])]),
      ("stringArray", .object [
        ("type", .string "array"),
        ("items", typed "string"),
        ("uniqueItems", .bool true),
        ("default", .array [])])])]

def metaData : Json :=
  .object [
    ("$schema", .string Draft.y2020.identifier),
    ("$id", .string (Draft.y2020.directory ++ "meta/meta-data")),
    ("$dynamicAnchor", .string "meta"),
    ("title", .string "Meta-data vocabulary meta-schema"),
    ("type", texts ["object", "boolean"]),
    ("properties", .object [
      ("title", typed "string"),
      ("description", typed "string"),
      ("default", .bool true),
      ("deprecated", .object [("type", .string "boolean"), ("default", .bool false)]),
      ("readOnly", .object [("type", .string "boolean"), ("default", .bool false)]),
      ("writeOnly", .object [("type", .string "boolean"), ("default", .bool false)]),
      ("examples", .object [("type", .string "array"), ("items", .bool true)])])]

def format : Json :=
  .object [
    ("$schema", .string Draft.y2020.identifier),
    ("$id", .string (Draft.y2020.directory ++ "meta/format-annotation")),
    ("$dynamicAnchor", .string "meta"),
    ("title", .string "Format vocabulary meta-schema for annotation results"),
    ("type", texts ["object", "boolean"]),
    ("properties", .object [("format", typed "string")])]

def content : Json :=
  .object [
    ("$schema", .string Draft.y2020.identifier),
    ("$id", .string (Draft.y2020.directory ++ "meta/content")),
    ("$dynamicAnchor", .string "meta"),
    ("title", .string "Content vocabulary meta-schema"),
    ("type", texts ["object", "boolean"]),
    ("properties", .object [
      ("contentEncoding", typed "string"),
      ("contentMediaType", typed "string"),
      ("contentSchema", anySchema)])]

def documents : List Json :=
  [root, core, applicator, unevaluated, validation, metaData, format, content]

end Y2020

end Metaschema
end Rulebook
