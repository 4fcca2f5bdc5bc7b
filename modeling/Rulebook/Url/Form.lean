/-!
What can be told of a reference from its first characters, before it is read
as a URL.
-/

namespace Rulebook
namespace Url

/-- Whether a text starts like the URL of something that can be fetched. -/
def isFetchable (s : String) : Bool :=
  "http://".toList.isPrefixOf s.toList || "https://".toList.isPrefixOf s.toList

/-- Whether a text starts with a scheme of lower-case letters, a colon and two
slashes. -/
def hasScheme (s : String) : Bool :=
  let scheme := s.toList.takeWhile Char.isLower
  !scheme.isEmpty && "://".toList.isPrefixOf (s.toList.drop scheme.length)

/-- Whether a text names a host: with a scheme, or with two slashes in front. -/
def isAbsolute (s : String) : Bool := "//".toList.isPrefixOf s.toList || hasScheme s

end Url
end Rulebook
