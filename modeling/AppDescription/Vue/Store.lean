import AppDescription.Artifact
import AppDescription.Document
import AppDescription.Vue.Expression

namespace AppDescription.Vue

/-- The file that holds the state store. -/
def storePath : Text :=
  "src/stores/app.ts"

def modelImport (models : List DataModel) : Text :=
  "import type " ++ Text.braced (" " ++ Text.join ", " (models.map DataModel.name) ++ " ") ++
    " from '../types/models';"

def storeImports (models : List DataModel) : List Text :=
  "import { defineStore } from 'pinia';" ::
  "import { ref, computed } from 'vue';" ::
  if models.isEmpty then [] else [modelImport models]

def storeHeader : List Text :=
  ["",
    "/**",
    " * Generated Pinia store from APML data and computed values",
    " * DO NOT EDIT - This file is auto-generated",
    " */",
    "",
    "export const useAppStore = defineStore('app', () => " ++ ['{'],
    "  // State"]

/-- The declaration of the collection that holds a model. -/
def collectionLine (model : DataModel) : Text :=
  "  const " ++ collectionName model.name ++ " = ref<" ++ model.name ++ "[]>([]);"

def computedEnding : Text :=
  "  " ++ ['}', ')', ';']

/-- The declaration of a computed value. The body is one entry, whatever lines it has. -/
def computedLines (value : ComputedValue) : List Text :=
  ["  const " ++ value.name ++ " = computed(() => " ++ ['{'],
    Text.indentBy 4 (computedBody value.source?),
    computedEnding,
    ""]

def computedHeader : List Text :=
  ["", "  // Computed properties"]

def storeReturn : List Text :=
  ["  return " ++ ['{']]

def storeClosing : List Text :=
  ["  " ++ ['}', ';'], ['}', ')', ';']]

/-- The names a store gives out: its collections and then its computed values. -/
def storeNames (models : List DataModel) (computed : List ComputedValue) : List Text :=
  models.map (fun model => collectionName model.name) ++ computed.map ComputedValue.name

/-- The line that gives out a name. -/
def exportLine (name : Text) : Text :=
  "    " ++ name ++ ","

def storeLines (models : List DataModel) (computed : List ComputedValue) : List Text :=
  storeImports models ++ storeHeader ++ models.map collectionLine ++
  computedHeader ++ computed.flatMap computedLines ++
  storeReturn ++ (storeNames models computed).map exportLine ++ storeClosing

/-- The store, when there are models or computed values. -/
def storeArtifact? (models : List DataModel) (computed : List ComputedValue) : Option Artifact :=
  if models.isEmpty && computed.isEmpty then none
  else some (.ofLines storePath (storeLines models computed))

/-- One warning for each computed value without an expression. -/
def storeWarnings (computed : List ComputedValue) : List Text :=
  (computed.filter ComputedValue.lacksSource).map fun value =>
    "Computed value '" ++ value.name ++ "' has no expression; it will be null"

end AppDescription.Vue
