/-!
# Errors

What can go wrong when a request is built, read from a configuration, or compiled. Each cause has
a kind and a message; the message starts with a phrase for the kind.
-/

namespace SolrRequest

/-- The kinds of error that callers tell apart. -/
inductive ErrorKind where
  | invalidArgument
  | unsupportedPredicate
  | configuration
deriving Repr, DecidableEq

/-- What went wrong. -/
inductive Error where
  | blankField
  | blankOperation
  | nullArgument
  | tooFewArguments (operation : String) (least given : Nat)
  | tooManyArguments (operation : String) (most given : Nat)
  | noOperands (operation : String)
  | nullBranch
  | nullDefault
  | blankTerm
  | powerNotPositive
  | nullDate
  | noValues
  | spacedWildcard (text : String)
  | similarityOutOfBounds
  | slopNotPositive
  | singleTermPhrase
  | negativeDistance
  | negativeBoost
  | shapeMismatch (key shape : String)
  | fieldRequired (key : String)
  | unsupportedPredicate (key : String)
  | emptyPage
  | groupLimitTooSmall
  | cachePercentTooLarge
  | nothingToGroup
  | blankName
  | fractionDigits (digits : Nat)
  | zeroDefaultRows
  | blankTarget
  | blankMapping (domain property : String)
  | unreadableConfiguration
deriving Repr, DecidableEq

namespace Error

def kind : Error → ErrorKind
  | unsupportedPredicate _ => .unsupportedPredicate
  | fractionDigits _ | zeroDefaultRows | blankTarget | blankMapping _ _
  | unreadableConfiguration => .configuration
  | _ => .invalidArgument

/-- What the error says about its cause. -/
def detail : Error → String
  | blankField => "Field name must not be null or blank"
  | blankOperation => "Function operation must not be empty"
  | nullArgument => "Unable to parse 'null' within function arguments"
  | tooFewArguments operation least given =>
    "Function " ++ operation ++ " requires at least " ++ toString least ++ " arguments, got " ++
      toString given
  | tooManyArguments operation most given =>
    "Function " ++ operation ++ " takes at most " ++ toString most ++ " arguments, got " ++
      toString given
  | noOperands operation => "Function " ++ operation ++ " requires at least one operand"
  | nullBranch => "Branches of 'if' must not be null"
  | nullDefault => "Default value must not be null"
  | blankTerm => "Term must not be empty"
  | powerNotPositive => "Power must be greater than zero"
  | nullDate => "Date must not be null"
  | noValues => "Collection of values must not be empty"
  | spacedWildcard text =>
    "Cannot construct query '" ++ text ++ "'. Use expression or multiple clauses instead"
  | similarityOutOfBounds => "Levenshtein distance has to be within its bounds (0.0 - 1.0)"
  | slopNotPositive => "Slop distance has to be greater than 0"
  | singleTermPhrase => "Phrase must consist of multiple terms, separated with spaces"
  | negativeDistance => "Distance must not be less than zero"
  | negativeBoost => "Boost must be a non-negative number"
  | shapeMismatch key shape => "Predicate '" ++ key ++ "' cannot take a " ++ shape ++ " value"
  | fieldRequired key => "Predicate '" ++ key ++ "' requires a field"
  | unsupportedPredicate key => "no processor for key '" ++ key ++ "'"
  | emptyPage => "Page size must be greater than zero"
  | groupLimitTooSmall => "Group limit must be -1 or greater"
  | cachePercentTooLarge => "Cache percent must be between 0 and 100"
  | nothingToGroup => "At least one field, function or query must be set for grouping"
  | blankName => "Name must not be null or blank"
  | fractionDigits digits =>
    "date_fraction_digits must be one of 0, 3, 6, 9 (got " ++ toString digits ++ ")"
  | zeroDefaultRows => "default_rows must be greater than zero"
  | blankTarget => "Mapped field name must not be blank"
  | blankMapping domain property =>
    "Field mapping " ++ domain ++ "." ++ property ++ " has a blank target"
  | unreadableConfiguration => "unreadable document"

end Error

/-- The phrase that the messages of a kind start with. -/
def ErrorKind.phrase : ErrorKind → String
  | .invalidArgument => "Invalid argument: "
  | .unsupportedPredicate => "Unsupported predicate: "
  | .configuration => "Configuration error: "

/-- The whole message of an error. -/
def Error.message (e : Error) : String :=
  e.kind.phrase ++ e.detail

end SolrRequest
