import RemoteFirebird.Sorted

/-!
# Reserved words

The words that Firebird keeps for itself, in small letters and ascending order, so that a word can
be looked up by halving the table.
-/

namespace RemoteFirebird.Sql

def reservedWords : Array String := #[
  "add", "admin", "all", "alter", "and", "any", "as", "at", "avg", "begin", "between", "bigint",
  "bit_length", "blob", "boolean", "both", "by", "case", "cast", "char", "char_length",
  "character", "character_length", "check", "close", "collate", "column", "commit", "connect",
  "constraint", "corr", "count", "covar_pop", "covar_samp", "create", "cross", "current",
  "current_connection", "current_date", "current_role", "current_time", "current_timestamp",
  "current_transaction", "current_user", "cursor", "date", "day", "dec", "decimal", "declare",
  "default", "delete", "deleting", "deterministic", "disconnect", "distinct", "double", "drop",
  "else", "end", "escape", "execute", "exists", "external", "extract", "false", "fetch",
  "filter", "float", "for", "foreign", "from", "full", "function", "gdscode", "global", "grant",
  "group", "having", "hour", "in", "index", "inner", "insensitive", "insert", "inserting", "int",
  "integer", "into", "is", "join", "leading", "left", "like", "long", "lower", "max", "merge",
  "min", "minute", "month", "national", "natural", "nchar", "no", "not", "null", "numeric",
  "octet_length", "of", "offset", "on", "only", "open", "or", "order", "outer", "over",
  "parameter", "plan", "position", "post_event", "precision", "primary", "procedure", "real",
  "record_version", "recreate", "recursive", "references", "regr_avgx", "regr_avgy",
  "regr_count", "regr_intercept", "regr_r2", "regr_slope", "regr_sxx", "regr_sxy", "regr_syy",
  "release", "return", "returning_values", "returns", "revoke", "right", "rollback", "row",
  "row_count", "rows", "savepoint", "scroll", "second", "select", "sensitive", "set", "similar",
  "smallint", "some", "sqlcode", "sqlstate", "start", "stddev_pop", "stddev_samp", "sum",
  "table", "then", "time", "timestamp", "to", "trailing", "trigger", "trim", "true", "union",
  "unique", "unknown", "update", "updating", "upper", "user", "using", "value", "values",
  "var_pop", "var_samp", "varchar", "variable", "varying", "view", "when", "where", "while",
  "with", "year"]

/-- Whether a text is a reserved word. -/
def isReserved (s : String) : Bool :=
  (Sorted.search id reservedWords s).isSome

end RemoteFirebird.Sql
