import AppDescription.Text.Case

namespace AppDescription.Vue

/-- The name with capitals at its words: `post_feed` becomes `PostFeed`. -/
def pascalCase (name : Text) : Text :=
  (Text.splitOn '_' name).flatMap fun
    | [] => []
    | c :: rest => Text.upper [c] ++ rest

/-- The name with hyphens between its words: `Post_Feed` becomes `post-feed`. -/
def kebabCase (name : Text) : Text :=
  Text.lower (name.map fun c => if c = '_' then '-' else c)

/-- The name with capitals at its inner words: `selected_category` becomes `selectedCategory`. Only
an underscore before a lower case ASCII letter goes. -/
def camelCase : Text → Text
  | '_' :: c :: rest =>
    if c.isLower then c.toUpper :: camelCase rest else '_' :: camelCase (c :: rest)
  | c :: rest => c :: camelCase rest
  | [] => []

def lowerFirst : Text → Text
  | [] => []
  | c :: rest => Text.lower [c] ++ rest

/-- The name of the collection that holds a model: `Post` becomes `posts`, and `Status` becomes
`status`. -/
def collectionName (model : Text) : Text :=
  let name := lowerFirst model
  if Text.endsWith name ['s'] then name else name ++ ['s']

end AppDescription.Vue
