import ExprMachine.Editor.Part

/-!
What an editor says that it can do when it connects, by the parts of its own
that the ability belongs to: its workspace, the texts that it has open, its
window, and the editor at large.
-/

namespace ExprMachine.Editor

open Json (Shape)

namespace ClientCapabilities

/-- That an ability can be registered while the editor runs. -/
def dynamic : Part := .flag "dynamicRegistration"

/-- A record of truth values that may be left out. -/
def flags (name : String) (parts : List String) : Shape :=
  record name (parts.map .flag)

/-- An ability that can only be registered. -/
def registered (name : String) : Shape :=
  record name [dynamic]

/-- The values that are known, if they are told. -/
def known (item : Shape) : Shape :=
  unnamed [.may "valueSet" (.list item)]

/-- The values that are known. -/
def all (item : Shape) : Shape :=
  unnamed [.must "valueSet" (.list item)]

/-- What can be filled in later. -/
def lazily : Shape :=
  unnamed [.must "properties" (.list plainText)]

/-- Kinds of marked-up text. -/
def markups : Shape := .list (word "MarkupKind")

/-- How the workspace can be edited. -/
def workspaceEdit : Shape :=
  record "WorkspaceEditClientCapabilities" [
    .flag "documentChanges",
    .may "resourceOperations" (.list (word "ResourceOperationKind")),
    .may "failureHandling" (word "FailureHandlingKind"),
    .flag "normalizesLineEndings",
    .may "changeAnnotationSupport" (unnamed [.flag "groupsOnLabel"])]

/-- How names are looked up in the workspace. -/
def workspaceSymbol : Shape :=
  record "WorkspaceSymbolClientCapabilities" [
    dynamic,
    .may "symbolKind" (known (option "SymbolKind")),
    .may "tagSupport" (all (option "SymbolTag"))]

/-- What the editor can do with its workspace. -/
def workspace : Shape :=
  unnamed [
    .flag "applyEdit",
    .may "workspaceEdit" workspaceEdit,
    .may "didChangeConfiguration" (registered "DidChangeConfigurationClientCapabilities"),
    .may "didChangeWatchedFiles" (registered "DidChangeWatchedFilesClientCapabilities"),
    .may "symbol" workspaceSymbol,
    .may "executeCommand" (registered "ExecuteCommandClientCapabilities"),
    .flag "workspaceFolders",
    .flag "configuration",
    .may "semanticTokens" (flags "SemanticTokensWorkspaceClientCapabilities" ["refreshSupport"]),
    .may "codeLens" (flags "CodeLensWorkspaceClientCapabilities" ["refreshSupport"]),
    .may "fileOperations" (unnamed [
      dynamic, .flag "didCreate", .flag "willCreate", .flag "didRename", .flag "willRename",
      .flag "didDelete", .flag "willDelete"])]

/-- How words are completed. -/
def completion : Shape :=
  record "CompletionClientCapabilities" [
    dynamic,
    .may "completionItem" (unnamed [
      .flag "snippetSupport",
      .flag "commitCharactersSupport",
      .may "documentationFormat" markups,
      .flag "deprecatedSupport",
      .flag "preselectSupport",
      .may "tagSupport" (all (option "CompletionItemTag")),
      .flag "insertReplaceSupport",
      .may "resolveSupport" lazily,
      .may "insertTextModeSupport" (all (option "InsertTextMode"))]),
    .may "completionItemKind" (known (option "CompletionItemKind")),
    .flag "contextSupport"]

/-- How calls are explained. -/
def signatureHelp : Shape :=
  record "SignatureHelpClientCapabilities" [
    dynamic,
    .may "signatureInformation" (unnamed [
      .may "documentationFormat" markups,
      .may "parameterInformation" (unnamed [.flag "labelOffsetSupport"]),
      .flag "activeParameterSupport"]),
    .flag "contextSupport"]

/-- How the names of a text are listed. -/
def documentSymbol : Shape :=
  record "DocumentSymbolClientCapabilities" [
    dynamic,
    .may "symbolKind" (known (option "SymbolKind")),
    .flag "hierarchicalDocumentSymbolSupport",
    .may "tagSupport" (all (option "SymbolTag")),
    .flag "labelSupport"]

/-- How changes of a text are offered. -/
def codeAction : Shape :=
  record "CodeActionClientCapabilities" [
    dynamic,
    .may "codeActionLiteralSupport" (unnamed [.must "codeActionKind" (all plainText)]),
    .flag "isPreferredSupport",
    .flag "disabledSupport",
    .flag "dataSupport",
    .may "resolveSupport" lazily,
    .flag "honorsChangeAnnotations"]

/-- How names are changed. -/
def rename : Shape :=
  record "RenameClientCapabilities" [
    dynamic,
    .flag "prepareSupport",
    .may "prepareSupportDefaultBehavior" (option "PrepareSupportDefaultBehavior"),
    .flag "honorsChangeAnnotations"]

/-- How marks are shown. -/
def publishDiagnostics : Shape :=
  record "PublishDiagnosticsClientCapabilities" [
    .flag "relatedInformation",
    .may "tagSupport" (all (option "DiagnosticTag")),
    .flag "versionSupport",
    .flag "codeDescriptionSupport",
    .flag "dataSupport"]

/-- What the editor can do with the texts that it has open. -/
def textDocument : Shape :=
  let linked (name : String) : Shape := record name [dynamic, .flag "linkSupport"]
  record "TextDocumentClientCapabilities" [
    .may "synchronization" (flags "TextDocumentSyncClientCapabilities"
      ["dynamicRegistration", "willSave", "willSaveWaitUntil", "didSave"]),
    .may "completion" completion,
    .may "hover" (record "HoverClientCapabilities" [dynamic, .may "contentFormat" markups]),
    .may "signatureHelp" signatureHelp,
    .may "declaration" (linked "DeclarationClientCapabilities"),
    .may "definition" (linked "DefinitionClientCapabilities"),
    .may "typeDefinition" (linked "TypeDefinitionClientCapabilities"),
    .may "implementation" (linked "ImplementationClientCapabilities"),
    .may "references" (registered "ReferenceClientCapabilities"),
    .may "documentHighlight" (registered "DocumentHighlightClientCapabilities"),
    .may "documentSymbol" documentSymbol,
    .may "codeAction" codeAction,
    .may "codeLens" (registered "CodeLensClientCapabilities"),
    .may "documentLink" (record "DocumentLinkClientCapabilities"
      [dynamic, .flag "tooltipSupport"]),
    .may "colorProvider" (registered "DocumentColorClientCapabilities"),
    .may "formatting" (registered "DocumentFormattingClientCapabilities"),
    .may "rangeFormatting" (registered "DocumentRangeFormattingClientCapabilities"),
    .may "onTypeFormatting" (registered "DocumentOnTypeFormattingClientCapabilities"),
    .may "rename" rename,
    .may "publishDiagnostics" publishDiagnostics,
    .may "foldingRange" (record "FoldingRangeClientCapabilities"
      [dynamic, .may "rangeLimit" natural, .flag "lineFoldingOnly"]),
    .may "selectionRange" (registered "SelectionRangeClientCapabilities"),
    .may "linkedEditingRange" (registered "LinkedEditingRangeClientCapabilities"),
    .may "callHierarchy" (registered "CallHierarchyClientCapabilities"),
    .may "semanticTokens" (record "SemanticTokensClientCapabilities" [
      dynamic,
      .may "tokenTypes" (.list plainText),
      .may "tokenModifiers" (.list plainText),
      .may "formats" (.list (word "TokenFormat")),
      .flag "overlappingTokenSupport",
      .flag "multilineTokenSupport"]),
    .may "moniker" (registered "MonikerClientCapabilities")]

/-- What the editor can do in its window. -/
def window : Shape :=
  unnamed [
    .flag "workDoneProgress",
    .may "showMessage" (record "ShowMessageRequestClientCapabilities" [
      .may "messageActionItem" (unnamed [.flag "additionalPropertiesSupport"])]),
    .may "showDocument" (record "ShowDocumentClientCapabilities" [.must "support" .flag])]

/-- What the editor can do at large. -/
def general : Shape :=
  unnamed [
    .may "regularExpressions" (record "RegularExpressionsClientCapabilities"
      [.must "engine" plainText, .may "version" plainText]),
    .may "markdown" (record "MarkdownClientCapabilities"
      [.must "parser" plainText, .may "version" plainText])]

/-- Everything that an editor says it can do. -/
def shape : Shape :=
  record "ClientCapabilities" [
    .may "workspace" workspace, .may "textDocument" textDocument, .may "window" window,
    .may "general" general, .may "experimental" .any]

end ClientCapabilities

end ExprMachine.Editor
