import AppDescription.Outline
import AppDescription.Project.Fault

namespace AppDescription

namespace Note

/-- What is logged about a part of a source that is passed over. -/
def record : Note → LogRecord
  | unknownLine number text =>
    ⟨.debug, "apml.core.dsl_parser_impl.base",
      "Skipping unrecognised line " ++ Text.ofNat number ++ ": " ++ text⟩
  | looseElse number =>
    ⟨.debug, "apml.core.dsl_parser_impl.interface",
      "Skipping orphan else at line " ++ Text.ofNat number⟩
  | ignoredFieldLine model text =>
    ⟨.debug, "apml.core.dsl_parser_impl.data", "Ignoring line in data " ++ model ++ ": " ++ text⟩
  | unknownFormat name format =>
    ⟨.debug, "apml.core.dsl_parser_impl.computed",
      "Ignoring unknown format for " ++ name ++ ": " ++ format⟩

end Note

namespace Document

/-- What is logged about a source that was read to its end. -/
def record (document : Document) (file : Path) : LogRecord :=
  ⟨.debug, "apml.core.dsl_parser_impl",
    "Parsed " ++ file.text ++ ": " ++ Text.ofNat document.data.length ++ " data, " ++
      Text.ofNat document.interfaces.length ++ " interfaces, " ++
      Text.ofNat document.computed.length ++ " computed, " ++
      Text.ofNat document.logic.length ++ " logic"⟩

end Document

/-- The text of a file, with all its line ends written `\n`. -/
def readText (directory : Location) (path : Path) : Work Text := do
  Work.checkPath path
  let octets ← Work.ofExcept .system ((← Work.files).read directory path)
  return Text.normalizeNewlines (← Work.ofExcept .encoding (Utf8.decode octets))

/-- The document in a source file. -/
def parseFile (directory : Location) (path : Path) : Work Document := do
  Work.log [⟨.info, "apml.core.parser", "Parsing " ++ path.text⟩]
  let source ← readText directory path
  Work.log ((Document.parseNotes source).map Note.record)
  let document ← Work.ofExcept (fun fault => .rejected (Fault.failure fault (some path)))
    (Document.parse source)
  Work.log [document.record path]
  return document

end AppDescription
