import Reshape.Error

/-!
Templates: text in which a percent sign and a letter stand for an argument. `%v` and `%s` show any
value, `%d` an integer, and `%%` is a percent sign.
-/

namespace Reshape.Template

/-- The text that a verb shows an argument as. -/
def shown (verb : Char) (argument : Value) : Except Error (List Char) :=
  if verb = 'v' ∨ verb = 's' then .ok argument.display.toList
  else if verb = 'd' then
    match argument.toInt64? with
    | some value => .ok (toString value.toInt).toList
    | none => .error (.expected "integer" argument)
  else .error (.general (.unknownVerb verb))

/-- A template with its arguments put in, a number of which are used up before it. -/
def fillFrom (consumed : Nat) : List Char → List Value → Except Error (List Char)
  | [], arguments =>
    if arguments.isEmpty then .ok []
    else .error (.general (.surplusArguments consumed (consumed + arguments.length)))
  | ['%'], _ => .error (.general .loneVerb)
  | '%' :: verb :: rest, arguments =>
    if verb = '%' then return '%' :: (← fillFrom consumed rest arguments)
    else match arguments with
      | [] => .error (.general (.missingArgument consumed))
      | argument :: arguments => do
        let text ← shown verb argument
        return text ++ (← fillFrom (consumed + 1) rest arguments)
  | c :: rest, arguments => return c :: (← fillFrom consumed rest arguments)

/-- A template with its arguments put in. -/
def fill (template : String) (arguments : List Value) : Except Error String :=
  (fillFrom 0 template.toList arguments).map String.ofList

end Reshape.Template
