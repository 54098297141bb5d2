import TreeScript.Ty.Basic

/-! # Signatures of the built-ins -/

namespace TreeScript.Builtin

/-- The type of a built-in, marked as its own. -/
def signature (builtin : Builtin) : Ty :=
  let (params, result) : List Ty × Ty := match builtin with
    | print => ([.any], .void)
    | typeOf => ([.any], .string)
    | now => ([], .number)
    | random => ([], .number)
    | isNaN => ([.any], .boolean)
    | abs => ([.number], .number)
    | sqrt => ([.number], .number)
    | floor => ([.number], .number)
    | ceil => ([.number], .number)
    | fetch => ([.string], .string)
  .function params result (some builtin)

/-- Whether calls may have any number of arguments. -/
def isVariadic (builtin : Builtin) : Bool := builtin.arity?.isNone

end TreeScript.Builtin
