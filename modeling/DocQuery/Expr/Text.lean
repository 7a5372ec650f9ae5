import DocQuery.Expr.Basic
import DocQuery.Json.Text
import DocQuery.Text.Quoted

/-! The written form of expressions: a form with its constants and parts between parentheses.

Names are quoted, literals stand between grave accents, and a bound that is absent is empty.
-/

set_option autoImplicit false

namespace DocQuery.Expr

open DocQuery.Text (quoted commaSeparated)

-- A literal stands between grave accents.
def literalText (value : Json) : List Char :=
  '\x60' :: value.written ++ ['\x60']

def bound : Option Int64 → List Char
  | none => []
  | some value => Decimal.integer value.toInt

def bounds (start stop step : Option Int64) : List Char :=
  bound start ++ ':' :: bound stop ++ ':' :: bound step

def Form.around (form : Form) (parts : List (List Char)) : List Char :=
  form.name.toList ++ '(' :: commaSeparated parts ++ [')']

mutual

def written : Expr → List Char
  | .current => ['@']
  | .identity => Form.identity.around []
  | .literal value => literalText value
  | .field source name => Form.field.around [quoted name, source.written]
  | .index source position =>
    Form.index.around [Decimal.integer position.toInt, source.written]
  | .slice source start stop step => Form.slice.around [bounds start stop step, source.written]
  | .flattenList source => Form.flattenList.around [source.written]
  | .pipe left right => Form.pipe.around [left.written, right.written]
  | .sub left right => Form.sub.around [left.written, right.written]
  | .listProjection source body => Form.listProjection.around [source.written, body.written]
  | .objectProjection source body => Form.objectProjection.around [source.written, body.written]
  | .flattenProjection source body => Form.flattenProjection.around [source.written, body.written]
  | .multiSelectList items => Form.multiSelectList.around (writtenAll items)
  | .multiSelectHash entries => Form.multiSelectHash.around (writtenEntries entries)
  | .filter source predicate => Form.filter.around [source.written, predicate.written]
  | .comparison operator left right =>
    Form.comparison.around [operator.symbol.toList, left.written, right.written]
  | .and left right => Form.and.around [left.written, right.written]
  | .or left right => Form.or.around [left.written, right.written]
  | .not operand => Form.not.around [operand.written]
  | .call name arguments => Form.call.around (quoted name :: writtenAll arguments)
  | .reference expression => Form.reference.around [expression.written]
termination_by structural expression => expression

def writtenAll : List Expr → List (List Char)
  | [] => []
  | expression :: rest => expression.written :: writtenAll rest
termination_by structural expressions => expressions

def writtenEntries : List (String × Expr) → List (List Char)
  | [] => []
  | (key, expression) :: rest =>
    (quoted key ++ ':' :: ' ' :: expression.written) :: writtenEntries rest
termination_by structural entries => entries

end

def text (expression : Expr) : String := String.ofList expression.written

end DocQuery.Expr
