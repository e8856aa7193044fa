/-! Words that cannot stand as names without quotes, in lower case. -/
namespace SqlStatements

def standardReserved : List String :=
  ["all", "analyse", "analyze", "and", "any", "array", "as", "asc", "asymmetric",
   "authorization", "between", "binary", "both", "case", "cast", "check", "collate",
   "column", "constraint", "create", "cross", "current_date", "current_role",
   "current_time", "current_timestamp", "current_user", "default", "deferrable", "desc",
   "distinct", "do", "else", "end", "except", "false", "for", "foreign", "freeze", "from",
   "full", "grant", "group", "having", "ilike", "in", "initially", "inner", "intersect",
   "into", "is", "isnull", "join", "leading", "left", "like", "limit", "localtime",
   "localtimestamp", "natural", "new", "not", "notnull", "null", "off", "offset", "old",
   "on", "only", "or", "order", "outer", "overlaps", "placing", "primary", "references",
   "right", "select", "session_user", "similar", "some", "symmetric", "table", "then",
   "to", "trailing", "true", "union", "unique", "user", "using", "verbose", "when",
   "where"]

def transactReserved : List String :=
  ["add", "all", "alter", "and", "any", "as", "asc", "authorization", "backup", "begin",
   "between", "break", "browse", "bulk", "by", "cascade", "case", "check", "checkpoint",
   "close", "clustered", "coalesce", "collate", "column", "commit", "compute", "constraint",
   "contains", "containstable", "continue", "convert", "create", "cross", "current",
   "current_date", "current_time", "current_timestamp", "current_user", "cursor",
   "database", "dbcc", "deallocate", "declare", "default", "delete", "deny", "desc", "disk",
   "distinct", "distributed", "double", "drop", "dump", "else", "end", "errlvl", "escape",
   "except", "exec", "execute", "exists", "exit", "external", "fetch", "file", "fillfactor",
   "for", "foreign", "freetext", "freetexttable", "from", "full", "function", "goto",
   "grant", "group", "having", "holdlock", "identity", "identity_insert", "identitycol",
   "if", "in", "index", "inner", "insert", "intersect", "into", "is", "join", "key", "kill",
   "left", "like", "lineno", "load", "merge", "national", "nocheck", "nonclustered", "not",
   "null", "nullif", "of", "off", "offsets", "on", "open", "opendatasource", "openquery",
   "openrowset", "openxml", "option", "or", "order", "outer", "over", "percent", "pivot",
   "plan", "precision", "primary", "print", "proc", "procedure", "public", "raiserror",
   "read", "readtext", "reconfigure", "references", "replication", "restore", "restrict",
   "return", "revert", "revoke", "right", "rollback", "rowcount", "rowguidcol", "rule",
   "save", "schema", "select", "session_user", "set", "setuser", "shutdown", "some",
   "statistics", "system_user", "table", "tablesample", "textsize", "then", "to", "top",
   "tran", "transaction", "trigger", "truncate", "tsequal", "union", "unique", "unpivot",
   "update", "updatetext", "use", "user", "values", "varying", "view", "waitfor", "when",
   "where", "while", "with", "writetext"]

end SqlStatements
