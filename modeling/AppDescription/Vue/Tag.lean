import AppDescription.Text.Case

namespace AppDescription.Vue

/-- The kinds that are tags themselves, in order of precedence. -/
def knownTags : List Text :=
  ["header", "footer", "nav", "main", "section", "article", "aside", "button", "input", "textarea",
    "form", "label", "img", "video", "audio", "canvas", "svg", "table", "ul", "ol", "li", "span",
    "p", "h1", "h2", "h3", "h4", "h5", "h6"]

/-- Whether a kind in lower case is a tag or has it next to an underscore. -/
def mentionsTag (kind tag : Text) : Bool :=
  kind = tag || Text.hasPart ('_' :: tag) kind || Text.hasPart (tag ++ "_") kind

/-- Tabs, which are buttons unless they belong to a table. -/
def isTab (kind : Text) : Bool :=
  (kind = "tab".toList || Text.endsWith kind "_tab") && !Text.hasPart "table" kind

/-- The tag that displays a kind of element. -/
def tagOf (kind : Text) : Text :=
  let kind := Text.lower kind
  if isTab kind then "button" else (knownTags.find? (mentionsTag kind)).getD "div"

end AppDescription.Vue
