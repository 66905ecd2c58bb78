/-
# Topic filters

A topic is a text of levels with slashes between them.  A filter is a topic in which a level may be
`+`, which stands for any one level, and the last level may be `#`, which stands for any number of
levels, none included.  A wildcard fills its level alone.

A filter is compiled once into its levels and then compared with topics level by level.
-/

import DeviceGateway.Text.Split

namespace DeviceGateway.Topic

/-- The levels of a topic. -/
def levels (topic : String) : List String :=
  (Text.splitAll '/' topic.toList).map String.ofList

/-- A level of a filter. -/
inductive Level where
  /-- The level has to be this text. -/
  | literal (text : String)
  /-- Any one level. -/
  | single
  /-- All levels from here on, if there are any. -/
  | multi
deriving DecidableEq, Repr

/-- Why a text is no filter. -/
inductive FilterFault where
  /-- It is empty. -/
  | empty
  /-- A level `#` is not the last one. -/
  | multiLevelNotLast (raw : String)
  /-- A level holds a wildcard and something else. -/
  | mixedWildcard (raw : String)
deriving DecidableEq, Repr

/-- The wording of a fault of a filter. -/
def FilterFault.message : FilterFault → String
  | empty => "Topic filter cannot be empty"
  | multiLevelNotLast raw => "Multi-level wildcard (#) must be the last level of '" ++ raw ++ "'"
  | mixedWildcard raw =>
    "Wildcards (+, #) cannot be mixed with literal text in '" ++ raw ++ "'"

/-- A filter. -/
structure Filter where
  /-- The filter as it was written. -/
  raw : String
  /-- Its levels. -/
  levels : List Level
deriving DecidableEq, Repr

namespace Filter

/-- Whether a level holds a wildcard character. -/
def hasWildcard (level : String) : Bool :=
  level.toList.any fun c => c == '+' || c == '#'

/-- Compile levels; the fault is that of the leftmost level that has one. -/
def compileLevels (raw : String) : List String → Except FilterFault (List Level)
  | [] => .ok []
  | level :: rest =>
    if level = "+" then (compileLevels raw rest).map (.single :: ·)
    else if level = "#" then
      if rest.isEmpty then .ok [.multi] else .error (.multiLevelNotLast raw)
    else if hasWildcard level then .error (.mixedWildcard raw)
    else (compileLevels raw rest).map (.literal level :: ·)

/-- Compile a filter. -/
def compile (raw : String) : Except FilterFault Filter :=
  if raw.isEmpty then .error .empty
  else (compileLevels raw (Topic.levels raw)).map fun levels => { raw, levels }

/-- Compare levels of a filter with levels of a topic. -/
def accepts : List Level → List String → Bool
  | [], topic => topic.isEmpty
  | .multi :: _, _ => true
  | .single :: rest, _ :: more => accepts rest more
  | .literal text :: rest, level :: more => level == text && accepts rest more
  | _ :: _, [] => false

/-- Whether a filter matches a topic. -/
def matchesTopic (filter : Filter) (topic : String) : Bool :=
  accepts filter.levels (Topic.levels topic)

end Filter

end DeviceGateway.Topic
