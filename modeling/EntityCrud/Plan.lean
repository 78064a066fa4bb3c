import EntityCrud.Routing
/-! Plans: everything a statement needs, with no dialect decided yet. A plan exists only
for a usable table name, usable columns and a usable read limit. -/
namespace EntityCrud

structure Plan where
  operation : Operation
  shape : Shape
  table : String
  /-- The alias of the table, never blank. -/
  aliasName : Option String
  sourceType : String
  predicate : Owners
  payload : Owners
  dirtyReads : Bool
  /-- The row limit, where limiting is enabled. -/
  readLimit : Option UInt32
  encapsulate : Bool
  deriving DecidableEq, Repr

namespace Plan

/-- The alias that a statement uses: the one of the options, else the table's, unless the
chosen one is blank. -/
def effectiveAlias (table : Table) (options : Options) : Option String :=
  (options.tableAlias.or table.aliasName).filter fun name => !Text.isBlank name

/-- The first thing wrong with the arguments, columns being looked at in their order. -/
def fault? (columns : List Column) (table : Table) (options : Options) : Option ArgumentFault :=
  if Text.isBlank table.name then some .blankTableName
  else if hasNul table.name then some .nulInTableName
  else if columns.isEmpty then some (.noColumns table.sourceType)
  else match columns.findSome? Column.fault? with
    | some fault => some (.column fault)
    | none =>
      if options.readLimitEnabled && options.readLimit == 0 then some .zeroReadLimit else none

/-- The plan for usable arguments. An existence test always reads without locks. -/
def assemble (op : Operation) (shape : Shape) (columns : List Column) (table : Table)
    (options : Options) : Plan :=
  let routing := Routing.ofColumns op shape columns options.bulkLoad
  { operation := op
    shape
    table := table.name
    aliasName := effectiveAlias table options
    sourceType := table.sourceType
    predicate := routing.predicate
    payload := routing.payload
    dirtyReads := options.dirtyReads || op == .exists
    readLimit := if options.readLimitEnabled then some options.readLimit else none
    encapsulate := options.encapsulate }

def build (op : Operation) (shape : Shape) (columns : List Column) (table : Table)
    (options : Options) : Except Refusal Plan :=
  match fault? columns table options with
  | some fault => .error (.invalidArgument fault)
  | none => .ok (assemble op shape columns table options)

end Plan
end EntityCrud
