import Choreography.Text

/-!
# The command line

A command with its operands, and switches that stand anywhere: `-c` or `--config`
with the path of the settings, `-v` or `--verbose`, and `--strict` for a replay.
Short switches may share one word, and the value of a switch may be written in
the same word.  Two dashes alone end the switches.  Words that follow no such
rule leave no invocation.
-/

namespace Choreography

/-- What the tool is asked to do. -/
inductive Command where
  /-- One attribute is compiled and shown. -/
  | compile (name expression : String)
  /-- A page is replayed; if it is strict, error diagnostics are a failure. -/
  | run (page : String) (strict : Bool)
deriving DecidableEq, Repr

/-- A whole command line. -/
structure Invocation where
  config : String
  verbose : Bool
  command : Command
deriving DecidableEq, Repr

/-- Where the settings are looked for if no path is given. -/
def Invocation.standardConfig : String := "motion.json"

/-- The words read so far, before the command or after it. -/
structure Words where
  config : Option String
  verbose : Bool
  strict : Bool
  operands : List String
deriving DecidableEq, Repr

namespace Words

/-- No words. -/
def empty : Words := ⟨none, false, false, []⟩

/-- The words with a path of settings; it is given once and not empty. -/
def withConfig? (words : Words) (path : String) : Option Words :=
  if words.config.isSome ∨ path = "" then none
  else some { words with config := some path }

/-- The words with a switch for more messages, given once. -/
def withVerbose? (words : Words) : Option Words :=
  if words.verbose then none else some { words with verbose := true }

/-- The words with a switch for strictness, given once. -/
def withStrict? (words : Words) : Option Words :=
  if words.strict then none else some { words with strict := true }

/-- The words with one more operand. -/
def withOperand (words : Words) (operand : String) : Words :=
  { words with operands := words.operands ++ [operand] }

/-- A word that is a switch: it starts with a dash and goes on. -/
def isSwitch (word : String) : Bool :=
  word.toList.head? == some '-' && word ≠ "-"

/-- A cluster of short switches.  The answer says whether the last one takes the
next word as its path. -/
def readCluster (words : Words) : List Char → Option (Words × Bool)
  | [] => some (words, false)
  | 'v' :: rest => do
    let words ← words.withVerbose?
    readCluster words rest
  | ['c'] => some (words, true)
  | 'c' :: '=' :: path => (words.withConfig? (String.ofList path)).map (·, false)
  | 'c' :: path => (words.withConfig? (String.ofList path)).map (·, false)
  | _ => none

/-- What `--config=` is followed by. -/
def configValue? (word : String) : Option String :=
  if "--config=".toList.isPrefixOf word.toList then
    some (String.ofList (word.toList.drop "--config=".length))
  else none

/-- A word that is a switch.  The answer says whether it takes the next word as
its path; strictness is only known to a replay. -/
def readSwitch (strictness : Bool) (words : Words) (word : String) :
    Option (Words × Bool) :=
  if word = "--config" then some (words, true)
  else if word = "--verbose" then words.withVerbose?.map (·, false)
  else if word = "--strict" then
    if strictness then words.withStrict?.map (·, false) else none
  else
    match configValue? word with
    | some path => (words.withConfig? path).map (·, false)
    | none =>
      match word.toList with
      | '-' :: '-' :: _ => none
      | '-' :: cluster => readCluster words cluster
      | _ => none

/-- The words of a command line up to its first operand, and those from there
on. -/
def readBefore (words : Words) : List String → Option (Words × List String)
  | [] => some (words, [])
  | word :: rest =>
    if word = "--" then none
    else if isSwitch word then
      match readSwitch false words word, rest with
      | some (words, false), rest => readBefore words rest
      | some (words, true), path :: rest => do
        if isSwitch path then none
        let words ← words.withConfig? path
        readBefore words rest
      | _, _ => none
    else some (words, word :: rest)

/-- The words after a command. -/
def readAfter (strictness : Bool) (words : Words) : List String → Option Words
  | [] => some words
  | word :: rest =>
    if word = "--" then some { words with operands := words.operands ++ rest }
    else if isSwitch word then
      match readSwitch strictness words word, rest with
      | some (words, false), rest => readAfter strictness words rest
      | some (words, true), path :: rest => do
        if isSwitch path then none
        let words ← words.withConfig? path
        readAfter strictness words rest
      | _, _ => none
    else readAfter strictness (words.withOperand word) rest

end Words

namespace Command

/-- The command of a name with its operands. -/
def ofWords? (name : String) (words : Words) : Option Command :=
  if name = "compile" then
    match words.operands with
    | [attr] => some (.compile attr "")
    | [attr, expression] => some (.compile attr expression)
    | _ => none
  else if name = "run" then
    match words.operands with
    | [page] => if page = "" then none else some (.run page words.strict)
    | _ => none
  else none

end Command

/-- The invocation that the words of a command line make.  A path of settings
after the command counts before one in front of it. -/
def Invocation.read? (arguments : List String) : Option Invocation := do
  let (before, rest) ← Words.empty.readBefore arguments
  match rest with
  | [] => none
  | name :: rest =>
    let after ← Words.empty.readAfter (name = "run") rest
    let command ← Command.ofWords? name after
    some
      ⟨(after.config.or before.config).getD standardConfig,
        before.verbose || after.verbose, command⟩

end Choreography
