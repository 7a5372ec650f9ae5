import DocQuery.Expr.Basic
import DocQuery.Json.Fingerprint

/-! The data of expressions: the variant, and then constants and parts as they are declared. -/

set_option autoImplicit false

namespace DocQuery.Expr

mutual

def fingerprint : Expr → List Datum
  | .current => [.variant 0]
  | .identity => [.variant 1]
  | .literal value => .variant 2 :: value.fingerprint
  | .field source name => .variant 3 :: source.fingerprint ++ [.text name]
  | .index source position => .variant 4 :: source.fingerprint ++ [.integer position]
  | .slice source start stop step =>
    .variant 5 :: source.fingerprint ++ Datum.bound start ++ Datum.bound stop ++ Datum.bound step
  | .flattenList source => .variant 6 :: source.fingerprint
  | .pipe left right => .variant 7 :: left.fingerprint ++ right.fingerprint
  | .sub left right => .variant 8 :: left.fingerprint ++ right.fingerprint
  | .listProjection source body => .variant 9 :: source.fingerprint ++ body.fingerprint
  | .objectProjection source body => .variant 10 :: source.fingerprint ++ body.fingerprint
  | .flattenProjection source body => .variant 11 :: source.fingerprint ++ body.fingerprint
  | .multiSelectList items => .variant 12 :: .length items.length :: fingerprints items
  | .multiSelectHash entries => .variant 13 :: .length entries.length :: entryFingerprints entries
  | .filter source predicate => .variant 14 :: source.fingerprint ++ predicate.fingerprint
  | .comparison operator left right =>
    .variant 15 :: .variant operator.rank :: left.fingerprint ++ right.fingerprint
  | .and left right => .variant 16 :: left.fingerprint ++ right.fingerprint
  | .or left right => .variant 17 :: left.fingerprint ++ right.fingerprint
  | .not operand => .variant 18 :: operand.fingerprint
  | .call name arguments =>
    .variant 19 :: .text name :: .length arguments.length :: fingerprints arguments
  | .reference expression => .variant 20 :: expression.fingerprint
termination_by structural expression => expression

def fingerprints : List Expr → List Datum
  | [] => []
  | expression :: rest => expression.fingerprint ++ fingerprints rest
termination_by structural expressions => expressions

def entryFingerprints : List (String × Expr) → List Datum
  | [] => []
  | (key, expression) :: rest => .text key :: expression.fingerprint ++ entryFingerprints rest
termination_by structural entries => entries

end

end DocQuery.Expr
