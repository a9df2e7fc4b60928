import Choreography.Page.Format
import Choreography.Tool.Outcome

/-!
# Checking the directives of pages

Every directive on the pages below a path is compiled, without any data, and the
diagnostics are listed.  Only the elements of a page and their attributes are
looked at, so that a page may be checked that could not be replayed.  An
attribute whose name starts like that of a directive must be one.
-/

namespace Choreography

/-- What of an element is checked. -/
structure CheckedElement where
  id : ElementId
  attributes : List Attribute
deriving Repr

namespace Decoder

open Json

/-- What is checked of an element; only its id is required. -/
def checkedElement : Json.Decoder CheckedElement := fun depth document => do
  let fields ← Json.Decoder.record ["id", "attributes"] depth document
  let id ← Json.Decoder.required fields "id" elementId
  let attributes ← Json.Decoder.defaulted fields "attributes" []
    (Json.Decoder.list pageAttribute)
  some ⟨id, attributes⟩

/-- What is checked of a page: its elements, if there are any. -/
def checkedPage : Json.Decoder (List CheckedElement) := fun depth document => do
  let fields ← Json.Decoder.record ["elements"] depth document
  Json.Decoder.defaulted fields "elements" [] (Json.Decoder.list checkedElement)

end Decoder

/-- What a check has found. -/
structure Findings where
  directives : Nat
  diagnostics : List Diagnostic
deriving Repr

namespace Findings

/-- One error and nothing else. -/
def ofError (source message : String) : Findings :=
  ⟨0, [⟨.error, source, message, none⟩]⟩

/-- No findings. -/
def empty : Findings := ⟨0, []⟩

/-- The findings of one part and then those of another. -/
def append (first second : Findings) : Findings :=
  ⟨first.directives + second.directives, first.diagnostics ++ second.diagnostics⟩

/-- All findings of a list, in order. -/
def join (parts : List Findings) : Findings := parts.foldr append empty

/-- What is found about an attribute of an element. -/
def ofAttribute (start source : String) (id : ElementId) (attr : Attribute) : Findings :=
  if start.toList.isPrefixOf attr.name.toList then
    match Directive.ofAttribute? start attr.name attr.value with
    | none => ofError source s!"无法识别的指令属性 '{attr.name}'"
    | some directive =>
      let label := s!"{source} {directive.label start}"
      ⟨1, (directive.compile [] id label).diagnostics⟩
  else empty

/-- What is found about an element of the page with the given name. -/
def ofElement (start page : String) (element : CheckedElement) : Findings :=
  let source := s!"{page}#{element.id.number}"
  join (element.attributes.map (ofAttribute start source element.id))

/-- What is found about a page with the given name. -/
def ofPage (start page : String) : Content → Findings
  | none => ofError page "无法读取页面: 内容不是文本"
  | some text =>
    match Json.Decoder.fromText Decoder.checkedPage text with
    | none => ofError page s!"页面格式错误: {PageError.malformed.message}"
    | some elements => join (elements.map (ofElement start page))

end Findings

namespace DirectiveCheck

/-- Whether the last name of a path is that of a page: it ends in `.json` and is
longer than that. -/
def isPageName (name : String) : Bool :=
  ".json".toList.isSuffixOf name.toList && 5 < name.length

/-- The path of a file below a folder. -/
def pathBelow (folder : String) (names : List String) : String :=
  let separator := if folder.toList.getLast? = some '/' then "" else "/"
  folder ++ separator ++ "/".intercalate names

/-- The pages at a path, with their own paths: a file whatever its name, and of a
folder the files with the name of a page, name by name in alphabetical order. -/
def pagesAt (path : String) : Found → List (String × Content)
  | .nothing => []
  | .file content => [(path, content)]
  | .folder files =>
    let pages := files.filter fun file => isPageName (file.1.getLast?.getD "")
    (pages.mergeSort fun a b => FileTree.precedes a.1 b.1).map fun file =>
      (pathBelow path file.1, file.2)

/-- The path that is checked if none is given. -/
def standardPath : String := "demos/pages"

/-- The line that sets the result off. -/
def rule : String := String.ofList (List.replicate 53 '─')

/-- The line that sums the diagnostics up. -/
def summary (diagnostics : List Diagnostic) : String :=
  let errors := Diagnostic.countLevel .error diagnostics
  let warnings := Diagnostic.countLevel .warning diagnostics
  if 0 < errors then s!"❌ {errors} 个错误, {warnings} 个警告"
  else if 0 < warnings then s!"⚠️  0 个错误, {warnings} 个警告"
  else "✅ 检查通过，无错误"

/-- The lines that report on a number of pages. -/
def reportLines (pages : Nat) (findings : Findings) : List String :=
  [s!"==> 检查 {pages} 个页面文件...", "", rule,
      s!"检查完成: {pages} 个页面, {findings.directives} 条指令", ""] ++
    findings.diagnostics.map Diagnostic.text ++ ["", summary findings.diagnostics]

/-- Lines as the messages of a program that ends well. -/
def success (lines : List String) : Outcome :=
  ⟨0, "", String.join (lines.map (· ++ "\n"))⟩

/-- Lines as the messages of a program that fails, and why it does. -/
def failure (lines : List String) (reason : String) : Outcome :=
  ⟨1, "", String.join ((lines ++ [s!"xtask error: {reason}"]).map (· ++ "\n"))⟩

/-- The pages at a path are checked. -/
def check (path : String) (found : Found) : Outcome :=
  if found = .nothing then
    failure [] s!"路径不存在: {path}\n请在 workspace 根目录运行，或指定页面路径"
  else
    let pages := pagesAt path found
    if pages.isEmpty then success ["未找到页面文件（.json）"]
    else
      let start := Settings.standard.directiveStart
      let findings := Findings.join (pages.map fun page => .ofPage start page.1 page.2)
      let lines := reportLines pages.length findings
      if 0 < Diagnostic.countLevel .error findings.diagnostics then
        failure lines "指令检查发现错误"
      else success lines

/-- The lines of the help text. -/
def helpLines : List String :=
  ["xtask - 开发辅助工具",
    "",
    "USAGE:",
    "  cargo xtask <command>",
    "",
    "COMMANDS:",
    "  check-all         运行 fmt、clippy、test 门禁检查",
    "  cov-runtime       运行 motion-runtime 覆盖率报告",
    "  cov-workspace     运行 workspace 覆盖率报告",
    "  directive-check   检查页面文件中的指令",
    "",
    "DIRECTIVE-CHECK:",
    "  cargo xtask directive-check [path]",
    "",
    "  不带参数：检查 demos/pages/ 下所有 .json 文件",
    "  带路径参数：检查指定文件或目录",
    "",
    "  检查内容：",
    "    - 以 x-motion 开头但无法识别的属性名",
    "    - 表达式中无法解析、被跳过的条目",
    "    - 命名映射中不是对象字面量的值",
    ""]

/-- The path that a list of words asks to be checked. -/
def path? : List String → Option String
  | "directive-check" :: path :: _ => some path
  | ["directive-check"] => some standardPath
  | _ => none

/-- The outcome of a command line: a check, or the help text if nothing or help
is asked for. -/
def run (find : String → Found) (arguments : List String) : Outcome :=
  match path? arguments with
  | some path => check path (find path)
  | none =>
    let name := arguments.headD "help"
    if ["help", "-h", "--help"].contains name then success helpLines
    else failure [] s!"unknown xtask subcommand: {name}"

end DirectiveCheck

end Choreography
