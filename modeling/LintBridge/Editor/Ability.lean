import LintBridge.Json.Check

/-!
# What an editor can do

The form in which an editor tells its abilities.  None of them is made use of, but an
introduction with an ability of the wrong form is refused.
-/

set_option autoImplicit false

namespace LintBridge.Editor

open Json Check Field

namespace Ability

def switches (name : String) (names : List String) : Check :=
  record name (names.map fun switch => optional switch bool)

/-- A feature that can be registered later. -/
def dynamic : Check :=
  switches "DynamicRegistrationClientCapabilities" ["dynamicRegistration"]

def refreshable (name : String) : Check :=
  switches name ["refreshSupport"]

def numbers : Check :=
  list int32

/-- The tags that are understood; a mere yes or no will do. -/
def tags : Check
  | .bool _ => .ok ()
  | other => record "TagSupport" [required "valueSet" numbers] other

def tagField : Field :=
  defaulted "tagSupport" tags.option

/-- The properties that are asked for later. -/
def lateProperties (name : String) : Check :=
  record name [required "properties" texts]

def symbolKinds : Check :=
  record "SymbolKindCapability" [optional "valueSet" numbers]

def markups : Check :=
  list (word ["plaintext", "markdown"])

/-! ## The workspace -/

def workspaceEdit : Check :=
  record "WorkspaceEditClientCapabilities"
    [optional "documentChanges" bool,
     optional "resourceOperations" (list (word ["create", "rename", "delete"])),
     optional "failureHandling"
       (word ["abort", "transactional", "textOnlyTransactional", "undo"]),
     optional "normalizesLineEndings" bool,
     optional "changeAnnotationSupport"
       (switches "ChangeAnnotationWorkspaceEditClientCapabilities" ["groupsOnLabel"])]

def workspaceSymbol : Check :=
  record "WorkspaceSymbolClientCapabilities"
    [optional "dynamicRegistration" bool,
     optional "symbolKind" symbolKinds,
     tagField,
     optional "resolveSupport" (lateProperties "WorkspaceSymbolResolveSupportCapability")]

def workspace : Check :=
  record "WorkspaceClientCapabilities"
    [optional "applyEdit" bool,
     optional "workspaceEdit" workspaceEdit,
     optional "didChangeConfiguration" dynamic,
     optional "didChangeWatchedFiles"
       (switches "DidChangeWatchedFilesClientCapabilities"
         ["dynamicRegistration", "relativePatternSupport"]),
     optional "symbol" workspaceSymbol,
     optional "executeCommand" dynamic,
     optional "workspaceFolders" bool,
     optional "configuration" bool,
     optional "semanticTokens" (refreshable "SemanticTokensWorkspaceClientCapabilities"),
     optional "codeLens" (refreshable "CodeLensWorkspaceClientCapabilities"),
     optional "fileOperations"
       (switches "WorkspaceFileOperationsClientCapabilities"
         ["dynamicRegistration", "didCreate", "willCreate", "didRename", "willRename",
          "didDelete", "willDelete"]),
     optional "inlineValue" (refreshable "InlineValueWorkspaceClientCapabilities"),
     optional "inlayHint" (refreshable "InlayHintWorkspaceClientCapabilities"),
     optional "diagnostic" (refreshable "DiagnosticWorkspaceClientCapabilities")]

/-! ## Documents -/

def completionItem : Check :=
  record "CompletionItemCapability"
    [optional "snippetSupport" bool,
     optional "commitCharactersSupport" bool,
     optional "documentationFormat" markups,
     optional "deprecatedSupport" bool,
     optional "preselectSupport" bool,
     tagField,
     optional "insertReplaceSupport" bool,
     optional "resolveSupport" (lateProperties "CompletionItemCapabilityResolveSupport"),
     optional "insertTextModeSupport"
       (record "InsertTextModeSupport" [required "valueSet" numbers]),
     optional "labelDetailsSupport" bool]

def completion : Check :=
  record "CompletionClientCapabilities"
    [optional "dynamicRegistration" bool,
     optional "completionItem" completionItem,
     optional "completionItemKind"
       (record "CompletionItemKindCapability" [optional "valueSet" numbers]),
     optional "contextSupport" bool,
     optional "insertTextMode" int32,
     optional "completionList"
       (record "CompletionListCapability" [optional "itemDefaults" texts])]

def hover : Check :=
  record "HoverClientCapabilities"
    [optional "dynamicRegistration" bool, optional "contentFormat" markups]

def signatureHelp : Check :=
  record "SignatureHelpClientCapabilities"
    [optional "dynamicRegistration" bool,
     optional "signatureInformation"
       (record "SignatureInformationSettings"
         [optional "documentationFormat" markups,
          optional "parameterInformation"
            (switches "ParameterInformationSettings" ["labelOffsetSupport"]),
          optional "activeParameterSupport" bool]),
     optional "contextSupport" bool]

def documentSymbol : Check :=
  record "DocumentSymbolClientCapabilities"
    [optional "dynamicRegistration" bool,
     optional "symbolKind" symbolKinds,
     optional "hierarchicalDocumentSymbolSupport" bool,
     tagField]

def goto : Check :=
  switches "GotoCapability" ["dynamicRegistration", "linkSupport"]

def codeAction : Check :=
  record "CodeActionClientCapabilities"
    [optional "dynamicRegistration" bool,
     optional "codeActionLiteralSupport"
       (record "CodeActionLiteralSupport"
         [required "codeActionKind"
           (record "CodeActionKindLiteralSupport" [required "valueSet" texts])]),
     optional "isPreferredSupport" bool,
     optional "disabledSupport" bool,
     optional "dataSupport" bool,
     optional "resolveSupport" (lateProperties "CodeActionCapabilityResolveSupport"),
     optional "honorsChangeAnnotations" bool]

def rename : Check :=
  record "RenameClientCapabilities"
    [optional "dynamicRegistration" bool,
     optional "prepareSupport" bool,
     optional "prepareSupportDefaultBehavior" int32,
     optional "honorsChangeAnnotations" bool]

def publishDiagnostics : Check :=
  record "PublishDiagnosticsClientCapabilities"
    [optional "relatedInformation" bool,
     tagField,
     optional "versionSupport" bool,
     optional "codeDescriptionSupport" bool,
     optional "dataSupport" bool]

def foldingRange : Check :=
  record "FoldingRangeClientCapabilities"
    [optional "dynamicRegistration" bool,
     optional "rangeLimit" nat32,
     optional "lineFoldingOnly" bool,
     optional "foldingRangeKind"
       (record "FoldingRangeKindCapability"
         [optional "valueSet" (list (word ["comment", "imports", "region"]))]),
     optional "foldingRange" (switches "FoldingRangeCapability" ["collapsedText"])]

def semanticTokens : Check :=
  let full : Check :=
    anyOf "SemanticTokensFullOptions" [bool, switches "SemanticTokensFullOptions" ["delta"]]
  record "SemanticTokensClientCapabilities"
    [optional "dynamicRegistration" bool,
     required "requests"
       (record "SemanticTokensClientCapabilitiesRequests"
         [optional "range" bool, optional "full" full]),
     required "tokenTypes" texts,
     required "tokenModifiers" texts,
     required "formats" texts,
     optional "overlappingTokenSupport" bool,
     optional "multilineTokenSupport" bool,
     optional "serverCancelSupport" bool,
     optional "augmentsSyntaxTokens" bool]

def textDocument : Check :=
  record "TextDocumentClientCapabilities"
    [optional "synchronization"
       (switches "TextDocumentSyncClientCapabilities"
         ["dynamicRegistration", "willSave", "willSaveWaitUntil", "didSave"]),
     optional "completion" completion,
     optional "hover" hover,
     optional "signatureHelp" signatureHelp,
     optional "references" dynamic,
     optional "documentHighlight" dynamic,
     optional "documentSymbol" documentSymbol,
     optional "formatting" dynamic,
     optional "rangeFormatting" dynamic,
     optional "onTypeFormatting" dynamic,
     optional "declaration" goto,
     optional "definition" goto,
     optional "typeDefinition" goto,
     optional "implementation" goto,
     optional "codeAction" codeAction,
     optional "codeLens" dynamic,
     optional "documentLink"
       (switches "DocumentLinkClientCapabilities" ["dynamicRegistration", "tooltipSupport"]),
     optional "colorProvider" dynamic,
     optional "rename" rename,
     optional "publishDiagnostics" publishDiagnostics,
     optional "foldingRange" foldingRange,
     optional "selectionRange"
       (switches "SelectionRangeClientCapabilities" ["dynamicRegistration"]),
     optional "linkedEditingRange" dynamic,
     optional "callHierarchy" dynamic,
     optional "semanticTokens" semanticTokens,
     optional "moniker" dynamic,
     optional "typeHierarchy" dynamic,
     optional "inlineValue" dynamic,
     optional "inlayHint"
       (record "InlayHintClientCapabilities"
         [optional "dynamicRegistration" bool,
          optional "resolveSupport" (lateProperties "InlayHintResolveClientCapabilities")]),
     optional "diagnostic"
       (switches "DiagnosticClientCapabilities"
         ["dynamicRegistration", "relatedDocumentSupport"])]

/-! ## Windows and general matters -/

def window : Check :=
  record "WindowClientCapabilities"
    [optional "workDoneProgress" bool,
     optional "showMessage"
       (record "ShowMessageRequestClientCapabilities"
         [optional "messageActionItem"
           (switches "MessageActionItemCapabilities" ["additionalPropertiesSupport"])]),
     optional "showDocument"
       (record "ShowDocumentClientCapabilities" [required "support" bool])]

def general : Check :=
  record "GeneralClientCapabilities"
    [optional "regularExpressions"
       (record "RegularExpressionsClientCapabilities"
         [required "engine" text, optional "version" text]),
     optional "markdown"
       (record "MarkdownClientCapabilities"
         [required "parser" text, optional "version" text, optional "allowedTags" texts]),
     optional "staleRequestSupport"
       (record "StaleRequestSupportClientCapabilities"
         [required "cancel" bool, required "retryOnContentModified" texts]),
     optional "positionEncodings" texts]

def all : Check :=
  record "ClientCapabilities"
    [optional "workspace" workspace,
     optional "textDocument" textDocument,
     optional "window" window,
     optional "general" general,
     optional "experimental" any]

end Ability

end LintBridge.Editor
