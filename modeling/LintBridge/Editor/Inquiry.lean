import LintBridge.Editor.Place

/-!
# Inquiries

Requests that are known and not served.  Their parameters must have the right form all
the same, or they are refused for that reason.
-/

set_option autoImplicit false

namespace LintBridge.Editor

open Json Check Field

namespace Inquiry

open Params

/-! ## Parts of many requests -/

/-- The token under which progress is told. -/
def progressPart : Part :=
  .fields [optional "workDoneToken" numberOrText]

/-- The token under which a part of the answer is told. -/
def partialPart : Part :=
  .fields [optional "partialResultToken" numberOrText]

def atPlace (name : String) (own : List Field) (parts : List Part) : Check :=
  mixed name own (placePart :: parts)

def atPlaceInParts (name : String) (own : List Field) : Check :=
  atPlace name own [progressPart, partialPart]

def inParts (name : String) (own : List Field) : Check :=
  mixed name own [progressPart, partialPart]

def onDocument (name : String) : Check :=
  inParts name [documentField]

def inProgress (name : String) (own : List Field) : Check :=
  mixed name own [progressPart]

/-! ## Values that the server has handed out -/

def command : Check :=
  record "Command"
    [required "title" text, required "command" text, optional "arguments" (list any)]

def textEdit : Check :=
  record "TextEdit" [partField, required "newText" text]

def markup : Check :=
  record "MarkupContent" [required "kind" (word ["plaintext", "markdown"]), required "value" text]

def documentation (name : String) : Check :=
  anyOf name [text, markup]

def hierarchyItem (name : String) (tags : Check) : Check :=
  record name
    [required "name" text, required "kind" int32, optional "tags" tags, optional "detail" text,
     uriField, partField, required "selectionRange" part, optional "data" any]

def callItem : Check :=
  hierarchyItem "CallHierarchyItem" (list int32)

def typeItem : Check :=
  hierarchyItem "TypeHierarchyItem" int32

def completionItem : Check :=
  record "CompletionItem"
    [required "label" text,
     optional "labelDetails"
       (record "CompletionItemLabelDetails" [optional "detail" text, optional "description" text]),
     optional "kind" int32,
     optional "detail" text,
     optional "documentation" (documentation "Documentation"),
     optional "deprecated" bool,
     optional "preselect" bool,
     optional "sortText" text,
     optional "filterText" text,
     optional "insertText" text,
     optional "insertTextFormat" int32,
     optional "insertTextMode" int32,
     optional "textEdit"
       (anyOf "CompletionTextEdit"
         [textEdit,
          record "InsertReplaceEdit"
            [required "newText" text, required "insert" part, required "replace" part]]),
     optional "additionalTextEdits" (list textEdit),
     optional "command" command,
     optional "commitCharacters" texts,
     optional "data" any,
     optional "tags" (list int32)]

def diagnostic : Check :=
  record "Diagnostic"
    [partField,
     optional "severity" int32,
     optional "code" numberOrText,
     optional "codeDescription"
       (record "CodeDescription" [required "href" (by' uri)]),
     optional "source" text,
     required "message" text,
     optional "relatedInformation"
       (list (record "DiagnosticRelatedInformation"
         [required "location" location, required "message" text])),
     optional "tags" (list int32),
     optional "data" any]

/-! ### Changes of files -/

def documentEdit : Check :=
  record "TextDocumentEdit"
    [required "textDocument"
       (record "OptionalVersionedTextDocumentIdentifier" [uriField, optional "version" int32]),
     required "edits" (list (anyOf "OneOf" [textEdit]))]

def choices (name : String) (names : List String) : Field :=
  optional "options" (record name (names.map fun choice => optional choice bool))

def fileOperation : Check := fun value =>
  let mark := optional "annotationId" text
  match value.member? "kind" with
  | some (.string "create") =>
      record "CreateFile"
        [uriField, choices "CreateFileOptions" ["overwrite", "ignoreIfExists"], mark] value
  | some (.string "rename") =>
      record "RenameFile"
        [required "oldUri" (by' uri), required "newUri" (by' uri),
         choices "RenameFileOptions" ["overwrite", "ignoreIfExists"], mark] value
  | some (.string "delete") =>
      record "DeleteFile"
        [uriField, choices "DeleteFileOptions" ["recursive", "ignoreIfNotExists"]] value
  | _ => .error (.noVariant "ResourceOp")

def workspaceEdit : Check :=
  let changes : Check := dictionary (by' uri) (list textEdit)
  record "WorkspaceEdit"
    [defaulted "changes" changes.option,
     optional "documentChanges"
       (anyOf "DocumentChanges"
         [list documentEdit,
          list (anyOf "DocumentChangeOperation" [fileOperation, documentEdit])]),
     optional "changeAnnotations"
       (dictionary text
         (record "ChangeAnnotation"
           [required "label" text, optional "needsConfirmation" bool,
            optional "description" text]))]

def codeAction : Check :=
  record "CodeAction"
    [required "title" text,
     optional "kind" text,
     optional "diagnostics" (list diagnostic),
     optional "edit" workspaceEdit,
     optional "command" command,
     optional "isPreferred" bool,
     optional "disabled" (record "CodeActionDisabled" [required "reason" text]),
     optional "data" any]

def inlayHint : Check :=
  let labelPart : Check :=
    record "InlayHintLabelPart"
      [required "value" text,
       optional "tooltip" (documentation "InlayHintLabelPartTooltip"),
       optional "location" location,
       optional "command" command]
  record "InlayHint"
    [required "position" place,
     required "label" (anyOf "InlayHintLabel" [text, list labelPart]),
     optional "kind" int32,
     optional "textEdits" (list textEdit),
     optional "tooltip" (documentation "InlayHintTooltip"),
     optional "paddingLeft" bool,
     optional "paddingRight" bool,
     optional "data" any]

def workspaceSymbol : Check :=
  record "WorkspaceSymbol"
    [required "name" text,
     required "kind" int32,
     optional "tags" (list int32),
     optional "containerName" text,
     required "location" (anyOf "OneOf" [location, record "WorkspaceLocation" [uriField]]),
     optional "data" any]

/-! ## Requests with fields of their own -/

def signatureHelp : Check :=
  let twoNumbers : Check
    | .array [first, second] => do
        nat32 first
        nat32 second
    | other => .error (.wrongType other "an array of length 2")
  let parameter : Check :=
    record "ParameterInformation"
      [required "label" (anyOf "ParameterLabel" [text, twoNumbers]),
       optional "documentation" (documentation "Documentation")]
  let signature : Check :=
    record "SignatureInformation"
      [required "label" text,
       optional "documentation" (documentation "Documentation"),
       optional "parameters" (list parameter),
       optional "activeParameter" nat32]
  record "SignatureHelp"
    [required "signatures" (list signature), optional "activeSignature" nat32,
     optional "activeParameter" nat32]

def signatureContext : Check :=
  record "SignatureHelpContext"
    [required "triggerKind" int32, optional "triggerCharacter" text,
     required "isRetrigger" bool, optional "activeSignatureHelp" signatureHelp]

def completionContext : Check :=
  record "CompletionContext"
    [required "triggerKind" int32, optional "triggerCharacter" text]

def actionContext : Check :=
  record "CodeActionContext"
    [required "diagnostics" (list diagnostic), optional "only" texts,
     optional "triggerKind" int32]

def layout : Check :=
  mixed "FormattingOptions"
    [required "tabSize" nat32, required "insertSpaces" bool,
     optional "trimTrailingWhitespace" bool, optional "insertFinalNewline" bool,
     optional "trimFinalNewlines" bool]
    [.others (anyOf "FormattingProperty" [bool, int32, text])]

def layoutField : Field :=
  required "options" layout

def color : Check :=
  record "Color"
    [required "red" fraction, required "green" fraction, required "blue" fraction,
     required "alpha" fraction]

def files (name itemName : String) (names : List String) : Check :=
  record name [required "files" (list (record itemName (names.map fun n => required n text)))]

/-! ## All of them -/

def aboutPlaces : List (String × Check) :=
  let goto : Check := atPlaceInParts "GotoDefinitionParams" []
  [("textDocument/declaration", goto),
   ("textDocument/definition", goto),
   ("textDocument/typeDefinition", goto),
   ("textDocument/implementation", goto),
   ("textDocument/references",
     atPlaceInParts "ReferenceParams"
       [required "context" (record "ReferenceContext" [required "includeDeclaration" bool])]),
   ("textDocument/prepareCallHierarchy",
     atPlace "CallHierarchyPrepareParams" [] [progressPart]),
   ("textDocument/prepareTypeHierarchy",
     atPlace "TypeHierarchyPrepareParams" [] [progressPart]),
   ("textDocument/documentHighlight", atPlaceInParts "DocumentHighlightParams" []),
   ("textDocument/hover", atPlace "HoverParams" [] [progressPart]),
   ("textDocument/moniker", atPlaceInParts "MonikerParams" []),
   ("textDocument/completion",
     atPlaceInParts "CompletionParams" [optional "context" completionContext]),
   ("textDocument/signatureHelp",
     atPlace "SignatureHelpParams" [optional "context" signatureContext] [progressPart]),
   ("textDocument/linkedEditingRange",
     atPlace "LinkedEditingRangeParams" [] [progressPart]),
   ("textDocument/onTypeFormatting",
     atPlace "DocumentOnTypeFormattingParams" [required "ch" text, layoutField] []),
   ("textDocument/rename",
     atPlace "RenameParams" [required "newName" text] [progressPart]),
   ("textDocument/prepareRename",
     record "TextDocumentPositionParams" [documentField, required "position" place])]

def aboutDocuments : List (String × Check) :=
  [("textDocument/willSaveWaitUntil",
     record "WillSaveTextDocumentParams" [documentField, required "reason" int32]),
   ("textDocument/documentLink", onDocument "DocumentLinkParams"),
   ("textDocument/codeLens", onDocument "CodeLensParams"),
   ("textDocument/foldingRange", onDocument "FoldingRangeParams"),
   ("textDocument/selectionRange",
     inParts "SelectionRangeParams" [documentField, required "positions" (list place)]),
   ("textDocument/documentSymbol", onDocument "DocumentSymbolParams"),
   ("textDocument/semanticTokens/full", onDocument "SemanticTokensParams"),
   ("textDocument/semanticTokens/full/delta",
     inParts "SemanticTokensDeltaParams" [documentField, required "previousResultId" text]),
   ("textDocument/semanticTokens/range",
     inParts "SemanticTokensRangeParams" [documentField, partField]),
   ("textDocument/inlineValue",
     inProgress "InlineValueParams"
       [documentField, partField,
        required "context"
          (record "InlineValueContext"
            [required "frameId" int32, required "stoppedLocation" part])]),
   ("textDocument/inlayHint", inProgress "InlayHintParams" [documentField, partField]),
   ("textDocument/diagnostic",
     inParts "DocumentDiagnosticParams"
       [documentField, optional "identifier" text, optional "previousResultId" text]),
   ("textDocument/codeAction",
     inParts "CodeActionParams" [documentField, partField, required "context" actionContext]),
   ("textDocument/documentColor", onDocument "DocumentColorParams"),
   ("textDocument/colorPresentation",
     inParts "ColorPresentationParams" [documentField, required "color" color, partField]),
   ("textDocument/formatting",
     inProgress "DocumentFormattingParams" [documentField, layoutField]),
   ("textDocument/rangeFormatting",
     inProgress "DocumentRangeFormattingParams" [documentField, partField, layoutField])]

def aboutOthers : List (String × Check) :=
  [("callHierarchy/incomingCalls",
     inParts "CallHierarchyIncomingCallsParams" [required "item" callItem]),
   ("callHierarchy/outgoingCalls",
     inParts "CallHierarchyOutgoingCallsParams" [required "item" callItem]),
   ("typeHierarchy/supertypes",
     inParts "TypeHierarchySupertypesParams" [required "item" typeItem]),
   ("typeHierarchy/subtypes",
     inParts "TypeHierarchySubtypesParams" [required "item" typeItem]),
   ("documentLink/resolve",
     record "DocumentLink"
       [partField, optional "target" (by' uri), optional "tooltip" text, optional "data" any]),
   ("codeLens/resolve",
     record "CodeLens" [partField, optional "command" command, optional "data" any]),
   ("inlayHint/resolve", inlayHint),
   ("completionItem/resolve", completionItem),
   ("codeAction/resolve", codeAction),
   ("workspaceSymbol/resolve", workspaceSymbol),
   ("workspace/symbol",
     mixed "WorkspaceSymbolParams" [required "query" text] [partialPart, progressPart]),
   ("workspace/diagnostic",
     inParts "WorkspaceDiagnosticParams"
       [optional "identifier" text,
        required "previousResultIds"
          (list (record "PreviousResultId" [uriField, required "value" text]))]),
   ("workspace/willCreateFiles", files "CreateFilesParams" "FileCreate" ["uri"]),
   ("workspace/willRenameFiles", files "RenameFilesParams" "FileRename" ["oldUri", "newUri"]),
   ("workspace/willDeleteFiles", files "DeleteFilesParams" "FileDelete" ["uri"]),
   ("workspace/executeCommand",
     inProgress "ExecuteCommandParams"
       [required "command" text, defaulted "arguments" (list any)])]

/-- What the parameters of a method must be, if it is known and not served. -/
def paramsOf? (method : String) : Option Check :=
  (aboutPlaces.lookup method).or ((aboutDocuments.lookup method).or (aboutOthers.lookup method))

end Inquiry

end LintBridge.Editor
