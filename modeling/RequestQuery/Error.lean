import RequestQuery.Predicate

/-!
# Errors

* `QueryError` — why a request or a configuration is refused.
* `QueryError.kind` — who is at fault: the request, the relation metadata or the configuration.
* `QueryError.message` — the wording.
-/

namespace RequestQuery

/-- Why a request or a configuration is refused. -/
inductive QueryError where
  /-- The page parameter is there but gives no positive integer. -/
  | notPositive (param : String)
  /-- The rows before a page are more than a signed 64-bit integer counts. -/
  | offsetOutOfRange (page : UInt64)
  /-- A page result was asked for without a total. -/
  | missingTotal
  /-- A page result was asked for without items. -/
  | missingItems
  /-- A filter needs relation metadata and there is none. -/
  | noModel (filter : String)
  /-- A model has no association of the name. -/
  | unknownAssociation (model association : String)
  /-- A filter leads to the field name that stands for the groups of alternatives. -/
  | reservedField (filter field : String)
  /-- A relational filter names no field behind its associations. -/
  | noLeaf (filter field : String)
  /-- No operator accepts the value of a parameter. -/
  | noOperator (param field : String)
  /-- A value-encoded operator was declared with an empty marker. -/
  | emptyMarker (comparison : Comparison)
  /-- A value-encoded operator was declared with a pattern that is none. -/
  | invalidPattern (marker : String)
  /-- There is no standard operator for a comparison. -/
  | noBuiltin (comparison : Comparison)
  /-- Models are declared but no model to start from. -/
  | noRootModel
  /-- The model to start from is not among the declared ones. -/
  | undeclaredRootModel (root : String)
  /-- A settings text is malformed. -/
  | invalidSettings
  /-- A settings text gives a range of page sizes whose ends are the wrong way round. -/
  | invertedPageSizes (min max : UInt64)
deriving DecidableEq, Inhabited

/-- Who is at fault. -/
inductive ErrorKind where
  | invalidArgument
  | unknownAssociation
  | configuration
deriving DecidableEq

namespace QueryError

/-- Who is at fault. -/
def kind : QueryError → ErrorKind
  | .notPositive _ | .offsetOutOfRange _ | .missingTotal | .missingItems | .noModel _ =>
    .invalidArgument
  | .unknownAssociation _ _ => .unknownAssociation
  | .reservedField _ _ | .noLeaf _ _ | .noOperator _ _ | .emptyMarker _ | .invalidPattern _
  | .noBuiltin _ | .noRootModel | .undeclaredRootModel _ | .invalidSettings
  | .invertedPageSizes _ _ =>
    .configuration

/-- A name between double quotes. -/
def quoted (name : String) : String :=
  "\"" ++ name ++ "\""

/-- What went wrong, without the kind of error. -/
def detail : QueryError → String
  | .notPositive param => "invalid " ++ quoted param ++ " argument, should be a positive integer"
  | .offsetOutOfRange page =>
    "offset for page " ++ toString page.toNat ++ " exceeds the safe integer range"
  | .missingTotal => "invalid \"totalCount\" argument"
  | .missingItems => "invalid \"collection\" argument"
  | .noModel filter =>
    "filter " ++ quoted filter ++ " walks an association but no model was configured"
  | .unknownAssociation model association =>
    "association " ++ quoted association ++ " does not exist on model " ++ quoted model
  | .reservedField filter field =>
    "filter " ++ quoted filter ++ " resolves to field " ++ quoted field
      ++ ", which is reserved for OR groups"
  | .noLeaf filter field =>
    "filter " ++ quoted filter ++ " maps to " ++ quoted field ++ ", which has no leaf field"
  | .noOperator param field =>
    "no operator matched the value of " ++ quoted param ++ " (field " ++ quoted field
      ++ "); the operator list needs a catch-all such as identity"
  | .emptyMarker comparison =>
    "operator " ++ quoted comparison.tag ++ " needs a non-empty prefix"
  | .invalidPattern marker => "invalid pattern for operator " ++ quoted marker
  | .noBuiltin comparison => "no built-in operator for " ++ quoted comparison.tag
  | .noRootModel => "models are declared but root_model is not set"
  | .undeclaredRootModel root => "root_model " ++ quoted root ++ " is not declared under models"
  | .invalidSettings => "invalid settings"
  | .invertedPageSizes min max =>
    "invalid settings: page_size_limit minimum " ++ toString min.toNat ++ " is greater than maximum "
      ++ toString max.toNat

/-- The wording of an error. -/
def message (e : QueryError) : String :=
  match e.kind with
  | .invalidArgument => "invalid argument: " ++ e.detail
  | .unknownAssociation => e.detail
  | .configuration => "configuration error: " ++ e.detail

end QueryError

end RequestQuery
