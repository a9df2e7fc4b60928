/-!
# Errors of directive text

Why a piece of directive text was refused.  Positions are byte offsets in the
whole text that the reader was given.
-/

namespace Choreography

/-- What a reader was waiting for when the text ended. -/
inductive Expected where
  | value
  | key
  | character (c : Char)
deriving DecidableEq, Repr

/-- Why a piece of directive text was refused. -/
inductive ParseError where
  | unexpectedChar (offset : Nat) (found : Char)
  | unexpectedEnd (offset : Nat) (expected : Expected)
  | unterminatedString (offset : Nat) (quote : Char)
  | unbalancedDelimiter (offset : Nat) (expected found : Char)
  | missingColon (entry : String)
  | invalidKey (key : String)
  | invalidNumber (offset : Nat) (text : String)
  | emptyEntry
  | notAnObject (name : String)
deriving DecidableEq, Repr

/-- What was expected, as it is named in messages. -/
def Expected.message : Expected → String
  | .value => "值"
  | .key => "键"
  | .character c => s!"'{c}'"

/-- The message of a refusal. -/
def ParseError.message : ParseError → String
  | .unexpectedChar offset found => s!"偏移 {offset}：意外字符 '{found}'"
  | .unexpectedEnd offset expected =>
    s!"偏移 {offset}：表达式意外结束，期望 {expected.message}"
  | .unterminatedString offset quote =>
    s!"偏移 {offset}：字符串字面量未闭合，缺少 '{quote}'"
  | .unbalancedDelimiter offset expected found =>
    s!"偏移 {offset}：括号不匹配，期望 '{expected}'，实际 '{found}'"
  | .missingColon entry => s!"条目缺少冒号: '{entry}'"
  | .invalidKey key => s!"无效的键: '{key}'"
  | .invalidNumber offset text => s!"偏移 {offset}：无法解析数字 '{text}'"
  | .emptyEntry => "空条目"
  | .notAnObject name => s!"动画 '{name}' 的值必须是对象字面量"

end Choreography
