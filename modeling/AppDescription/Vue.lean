import AppDescription.Backend
import AppDescription.Vue.Component
import AppDescription.Vue.Models
import AppDescription.Vue.Store

namespace AppDescription.Vue

/-- The models, the store and one component for each interface, in this order. -/
def artifacts (document : Document) : List Artifact :=
  (modelsArtifact? document.data).toList ++
  (storeArtifact? document.data document.computed).toList ++
  document.interfaces.map (componentArtifact document.computed)

def warnings (document : Document) : List Text :=
  storeWarnings document.computed

def log (document : Document) : List LogRecord :=
  let origin : Text := "apml.stacks.vue"
  (warnings document).map (⟨.warning, origin, ·⟩) ++
  [⟨.debug, origin,
    "Vue backend produced " ++ Text.ofNat (artifacts document).length ++ " files"⟩]

def backend : Backend where
  className := "VueBackend"
  capabilities :=
    { name := "vue"
      description := "Vue 3 single-file components with a Pinia store and TypeScript types"
      formats := ["vue", "ts"] }
  generate document := ⟨artifacts document, log document⟩

end AppDescription.Vue
