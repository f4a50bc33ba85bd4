import AppDescription.Artifact
import AppDescription.Document
import AppDescription.Vue.Attribute
import AppDescription.Vue.Tag

namespace AppDescription.Vue

/-- A line at a nesting level of two columns each. -/
def levelLine (level : Nat) (line : Text) : Text :=
  List.replicate (2 * level) ' ' ++ line

/-- An element on the page: its opening line, what is inside, and its closing line. -/
def blockLines (level : Nat) (tag opening : Text) (inside : List Text) : List Text :=
  levelLine level ("<" ++ opening ++ ">") :: inside ++ [levelLine level ("</" ++ tag ++ ">")]

/-- The opening of a displayed element: its tag, its class and its attributes. -/
def displayOpening (kind : Text) (properties : Properties) : Text :=
  let styles : Attribute := ⟨"class", kebabCase kind⟩
  tagOf kind ++ " " ++ Text.join [' '] ((styles :: attributes properties).map Attribute.text)

/-- The text inside a displayed element. It is one entry, whatever lines it has. -/
def contentLines (level : Nat) (properties : Properties) : List Text :=
  match content? properties with
  | none | some [] => []
  | some content => [levelLine level content]

def conditionOpening (condition : Text) : Text :=
  "div v-if=\"" ++ toCondition condition ++ "\""

def iterationOpening (item collection : Text) : Text :=
  "div v-for=\"" ++ item ++ " in " ++ collection ++ "\" :key=\"" ++ item ++ ".id\""

mutual

/-- The lines of an element at a level. An `else` with nothing in it leaves no trace. -/
def elementLines (level : Nat) : Element → List Text
  | .display kind _ properties children =>
    blockLines level (tagOf kind) (displayOpening kind properties)
      (contentLines (level + 1) properties ++ forestLines (level + 1) children)
  | .conditional _ condition body none =>
    blockLines level "div" (conditionOpening condition) (forestLines (level + 1) body)
  | .conditional _ condition body (some otherwise) =>
    blockLines level "div" (conditionOpening condition) (forestLines (level + 1) body) ++
    if otherwise.isEmpty then []
    else blockLines level "div" "div v-else" (forestLines (level + 1) otherwise)
  | .iteration item collection body =>
    blockLines level "div" (iterationOpening item collection) (forestLines (level + 1) body)

def forestLines (level : Nat) : List Element → List Text
  | [] => []
  | element :: rest => elementLines level element ++ forestLines level rest

end

def templateOpening (interface : Interface) : List Text :=
  ["<template>", "  <div class=\"" ++ kebabCase interface.name ++ "\">"]

def templateClosing : List Text :=
  ["  </div>", "</template>", ""]

def templateLines (interface : Interface) : List Text :=
  templateOpening interface ++ forestLines 2 interface.elements ++ templateClosing

def scriptHeader : List Text :=
  ["<script setup lang=\"ts\">",
    "import { computed } from 'vue';",
    "import { useAppStore } from '../stores/app';",
    "",
    "const store = useAppStore();",
    ""]

/-- Computed values are listed in a component as comments only. -/
def computedHint (value : ComputedValue) : Text :=
  "// const " ++ value.name ++ " = store." ++ value.name ++ ";"

def computedHints (computed : List ComputedValue) : List Text :=
  if computed.isEmpty then []
  else "// Computed properties from store" :: (computed.map computedHint ++ [[]])

def scriptClosing : List Text :=
  ["</script>", ""]

def scriptLines (computed : List ComputedValue) : List Text :=
  scriptHeader ++ computedHints computed ++ scriptClosing

def styleLines (interface : Interface) : List Text :=
  ["<style scoped>", "." ++ kebabCase interface.name ++ [' ', '{'], ['}'], "</style>"]

def componentPath (interface : Interface) : Text :=
  "src/components/" ++ pascalCase interface.name ++ ".vue"

/-- The single-file component of an interface. -/
def componentArtifact (computed : List ComputedValue) (interface : Interface) : Artifact :=
  .ofLines (componentPath interface)
    (templateLines interface ++ scriptLines computed ++ styleLines interface)

end AppDescription.Vue
