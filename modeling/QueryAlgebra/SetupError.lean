/-!
# Setup errors

What can go wrong before any query is looked at: a document that cannot be read, a description of a
dialect that does not hold together, and a table defined twice.
-/

namespace QueryAlgebra

/-- Why a description of a dialect is refused. -/
inductive DialectFault where
  | blankName
  | wrongArity (operator : String) (expected : Nat) (actual : Nat)
  | missingSymbol (operator : String)
  deriving DecidableEq

/-- The fault in words. -/
def DialectFault.message : DialectFault → String
  | .blankName => "dialect name must not be empty"
  | .wrongArity operator expected actual =>
    "operator '" ++ operator ++ "' expects " ++ expected.repr ++
      " argument(s), signature has " ++ actual.repr
  | .missingSymbol operator => "new operator '" ++ operator ++ "' must define a symbol"

/-- Why an existing file yields no text. -/
inductive ReadFault where
  | directory
  | notUnicode
  deriving DecidableEq

/-- The fault in words. -/
def ReadFault.message : ReadFault → String
  | .directory => "Is a directory (os error 21)"
  | .notUnicode => "stream did not contain valid UTF-8"

/-- Why a catalog or a dialect could not be set up. -/
inductive SetupError where
  | fileNotFound (path : String)
  | malformedCatalog
  | malformedDialect
  | invalidDialect (fault : DialectFault)
  | duplicateTable (table : String)
  | unreadable (path : String) (fault : ReadFault)
  deriving DecidableEq

/-- The error in words, behind its code. -/
def SetupError.message : SetupError → String
  | .fileNotFound path => "[C001] File not found: " ++ path
  | .malformedCatalog => "[C002] Failed to parse catalog: malformed document"
  | .malformedDialect => "[C003] Failed to parse dialect config: malformed document"
  | .invalidDialect fault => "[C004] Invalid dialect config: " ++ fault.message
  | .duplicateTable table => "[C005] Duplicate table '" ++ table ++ "' in catalog"
  | .unreadable path fault => "[C006] IO error on " ++ path ++ ": " ++ fault.message

end QueryAlgebra
