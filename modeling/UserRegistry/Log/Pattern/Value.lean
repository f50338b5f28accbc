import UserRegistry.Log.Pattern.Settings

/-!
# Texts that stand for the value of a field

A directive may ask for the value of a field by a number or by a pattern.
-/

namespace UserRegistry.Log

/-- Whether a text without a sign is a decimal number or names a special one. -/
def isDecimal (text : List Char) : Bool :=
  String.ofList (text.map Char.toLower) ∈ ["inf", "infinity", "nan"] ||
    let whole := text.takeWhile Char.isDigit
    let (fraction, rest) :=
      match text.drop whole.length with
      | '.' :: rest => (rest.takeWhile Char.isDigit, rest.dropWhile Char.isDigit)
      | rest => ([], rest)
    let exponent :=
      match rest with
      | [] => true
      | mark :: rest =>
        let digits := if rest.head? = some '+' ∨ rest.head? = some '-' then rest.tail else rest
        (mark = 'e' || mark = 'E') && !digits.isEmpty && digits.all Char.isDigit
    !(whole ++ fraction).isEmpty && exponent

/-- Whether a text may stand for the value of a field: a pattern, which every
number without a plus sign is as well, or a number with one. -/
def isFieldValue (text : List Char) : Bool :=
  isPattern text ||
    match text with
    | '+' :: rest => isDecimal rest
    | _ => false

end UserRegistry.Log
