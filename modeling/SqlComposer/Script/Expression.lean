import SqlComposer.Value

/-!
# Scripts

A small language in which statements are put together step by step: expressions make values, call
functions and methods, and refer to what earlier steps have bound.
-/

namespace SqlComposer.Script

inductive Function where
  -- Starts a statement, perhaps with its first clause.
  | startSelect
  | startInsert
  | startUpdate
  | startDelete
  -- Starts a statement without clauses.
  | emptyBare
  | emptySelect
  | emptyInsert
  | emptyUpdate
  | emptyDelete
  -- Makes a condition from checked parts.
  | comparison (op : String)
  | comparisonBy
  | null (negated : Bool)
  | between
  | pattern (ignoresCase : Bool)
  | isIn
  | existence (negated : Bool)
  | connect (op : Connective)
  | opposite
  | raw
  | toCondition
  | narrow
  -- Puts a node of a condition together without checks on its parts.
  | unspecifiedNode
  | comparisonNode
  | isNullNode
  | betweenNode
  | patternNode
  | inNode
  | logicalNode
  | negationNode
  | existenceNode
  | rawNode
  -- Makes, reads and changes dialects.
  | dialect
  | dialectOfDatabase
  | dialectInUse
  | getOption
  | setOption
  | resetOptions
  | useDialect
  | registry
  -- Writes statements and parts of them.
  | render
  | renderIdentifier
  | renderCondition
  -- Checks and reads single arguments.
  | joinKind
  | joinSpec
  | checkName
  | flatten
  | logger
  | problem (kind : ProblemKind)
  -- Looks into values.
  | part
  | unpack
  | shown
  | display
  | equal
  | same
deriving DecidableEq

inductive Method where
  | columns
  | distinct
  | source
  | join (kind : Option JoinKind)
  | rows
  | groups
  | grouping
  | order
  | limit
  | offset
  | forUpdate
  | into
  | values
  | insertSource
  | assignments
  | table
  | returning
  | build
  | placeholder
  | quote
  | withOption
  | getOption
  | setOption
  | use
  | reset
deriving DecidableEq

def Method.label : Method → String
  | .columns => "columns"
  | .distinct => "distinct"
  | .source => "from_"
  | .join none => "join"
  | .join (some .inner) => "inner_join"
  | .join (some .left) => "left_join"
  | .join (some .right) => "right_join"
  | .join (some .full) => "full_join"
  | .rows => "where"
  | .groups => "having"
  | .grouping => "group_by"
  | .order => "order_by"
  | .limit => "limit"
  | .offset => "offset"
  | .forUpdate => "for_update"
  | .into => "into"
  | .values => "values"
  | .insertSource => "select"
  | .assignments => "set"
  | .table => "table"
  | .returning => "returning"
  | .build => "build"
  | .placeholder => "placeholder"
  | .quote => "quote"
  | .withOption => "with_option"
  | .getOption => "get_option"
  | .setOption => "set_option"
  | .use => "use"
  | .reset => "reset"

def Method.all : List Method :=
  [.columns, .distinct, .source, .join none, .join (some .inner), .join (some .left),
    .join (some .right), .join (some .full), .rows, .groups, .grouping, .order, .limit, .offset,
    .forUpdate, .into, .values, .insertSource, .assignments, .table, .returning, .build,
    .placeholder, .quote, .withOption, .getOption, .setOption, .use, .reset]

def Method.ofLabel? (label : String) : Option Method :=
  all.find? fun method => method.label = label

mutual

inductive Expression where
  | atom (v : Value)
  | list (items : List Expression)
  | tuple (items : List Expression)
  | set (items : List Expression)
  | map (entries : List (Expression × Expression))
  /-- Items that can be gone through once. -/
  | stream (items : List Expression)
  | bound (name : String)
  | call (function : Function) (arguments : Arguments)
  /-- Methods, each called on the result of the one before it. -/
  | chain (target : Expression) (calls : List (Method × Arguments))

/-- Arguments in order, and those given by name behind them. -/
structure Arguments where
  positional : List Expression
  named : List (String × Expression)

end

/-- A step of a script: an expression, and the name that its value is bound to. -/
structure Step where
  bind : Option String
  expression : Expression

end SqlComposer.Script
